import Backlog.Proofs.Filter.Algebra
import Backlog.Proofs.Search.Negation
import Mathlib.Data.List.Forall2
/-!
# Reordering — the order in which conditions are joined

Combinators list their conditions in some order, and a filter is another one reordered when they differ in nothing but
that order, in any of their combinators (`Node.Reordered`).  The same comparisons stand in both, so they ask for the same
spaces; and what joined conditions match is said by which matchers there are, not by their order
(`joinedMatchers_congr`).  Hence both are compiled in the same scope or not at all, and have the same answers
(`search_reordered`).  Only which error is reported may change: it is that of the first comparison that is refused.
-/
namespace Backlog

open Backlog.Filter (Document Comparison Compiled Connective Node Resolver Scope)

/-! ## Reordered conditions -/

/-- Two conditions of which the second is the first with the conditions of its combinators in another order, at any
depth. -/
inductive Filter.Node.Reordered : Node → Node → Prop
  | refl (n : Node) : Reordered n n
  | children (connective : Connective) {ns ns' : List Node} (negate : Bool) (h : ns.Perm ns') :
    Reordered (.combinator connective ns negate) (.combinator connective ns' negate)
  | inside (connective : Connective) (before after : List Node) (negate : Bool) {n n' : Node} (h : Reordered n n') :
    Reordered (.combinator connective (before ++ n :: after) negate)
      (.combinator connective (before ++ n' :: after) negate)
  | trans {n m n' : Node} (h : Reordered n m) (h' : Reordered m n') : Reordered n n'

namespace Filter.Node

variable {n n' : Node}

theorem Reordered.symm (h : n.Reordered n') : n'.Reordered n := by
  induction h with
  | refl n => exact .refl n
  | children connective negate h => exact .children connective negate h.symm
  | inside connective before after negate _ ih => exact .inside connective before after negate ih
  | trans _ _ ih ih' => exact ih'.trans ih

theorem Reordered.combinator (connective : Connective) {ns ms ns' : List Node} (negate : Bool)
    (heach : List.Forall₂ Reordered ns ms) (h : ms.Perm ns') :
    Reordered (.combinator connective ns negate) (.combinator connective ns' negate) := by
  -- one condition after the other: `before` are those that are reordered already
  have hfrom : ∀ before, Reordered (.combinator connective (before ++ ns) negate)
      (.combinator connective (before ++ ms) negate) := by
    clear h
    induction heach with
    | nil => exact fun before => .refl _
    | @cons n m ns ms hn _ ih =>
      intro before
      have hrest := ih (before ++ [m])
      rw [List.append_assoc, List.append_assoc] at hrest
      exact (Reordered.inside connective before ns negate hn).trans hrest
  exact (hfrom []).trans (.children connective negate h)

/-- **The same comparisons** stand in reordered conditions. -/
theorem Reordered.mem_comparisons_iff (h : n.Reordered n') (c : Comparison) :
    c ∈ n.comparisons ↔ c ∈ n'.comparisons := by
  induction h with
  | refl n => exact .rfl
  | children connective negate h => simp only [comparisons, mem_comparisonsOfAll, h.mem_iff]
  | inside connective before after negate _ ih =>
    simp only [comparisons, comparisonsOfAll_append, comparisonsOfAll, List.mem_append, ih]
  | trans _ _ ih ih' => exact ih.trans ih'

end Filter.Node

namespace Filter.Resolver

variable {r : Resolver} {scope : Scope} {d d' : Document} {request : Option String}

theorem joinedMatchers_congr (negate : Bool) (connective : Connective) {accepts accepts' : List (WorkItem → Bool)}
    (h : ∀ a, a ∈ accepts ↔ a ∈ accepts') :
    joinedMatchers negate connective accepts = joinedMatchers negate connective accepts' := by
  funext item
  cases connective with
  | and =>
    have hall : accepts.all (· item) = accepts'.all (· item) := by
      rw [Bool.eq_iff_iff, List.all_eq_true, List.all_eq_true]
      simp only [h]
    rw [joinedMatchers, joinedMatchers, hall]
  | or =>
    have hany : accepts.any (· item) = accepts'.any (· item) := by
      rw [Bool.eq_iff_iff, List.any_eq_true, List.any_eq_true]
      simp only [h]
    rw [joinedMatchers, joinedMatchers, hany]

theorem matcher_of_perm {connective : Connective} {ns ns' : List Node} {negate : Bool} (h : ns.Perm ns')
    {accepts : WorkItem → Bool} (haccepts : r.matcher scope (.combinator connective ns negate) = .ok accepts) :
    r.matcher scope (.combinator connective ns' negate) = .ok accepts := by
  rw [matcher_combinator] at haccepts ⊢
  obtain ⟨each, heach, rfl⟩ := Outcome.map_eq_ok.1 haccepts
  have hmeaning : ∀ n ∈ ns, ∃ a, r.matcher scope n = .ok a := Outcome.mapM_eq_ok.1 ⟨each, heach⟩
  obtain ⟨each', heach'⟩ := Outcome.mapM_eq_ok.2 fun n hn => hmeaning n (h.mem_iff.2 hn)
  refine Outcome.map_eq_ok.2 ⟨each', heach', joinedMatchers_congr negate connective fun a => ?_⟩
  rw [Outcome.mem_of_mapM_eq_ok heach, Outcome.mem_of_mapM_eq_ok heach']
  simp only [h.mem_iff]

/-- **What matches a condition** does not depend on the order of conditions in it. -/
theorem matcher_eq_ok_iff_of_reordered {n n' : Node} (h : n.Reordered n') (accepts : WorkItem → Bool) :
    r.matcher scope n = .ok accepts ↔ r.matcher scope n' = .ok accepts := by
  induction h generalizing accepts with
  | refl n => exact .rfl
  | children connective negate h => exact ⟨matcher_of_perm h, matcher_of_perm h.symm⟩
  | inside connective before after negate _ ih =>
    rw [matcher_combinator, matcher_combinator, List.mapM_append, List.mapM_append, List.mapM_cons, List.mapM_cons]
    simp only [Outcome.map_eq_ok, Outcome.bind_eq_ok, ih]
  | trans _ _ ih ih' => exact (ih accepts).trans (ih' accepts)

/-- **The scope** does not depend on the order of conditions. -/
theorem scopeUnder_eq_ok_iff_of_reordered (h : d.root.Reordered d'.root) :
    d.scopeUnder r.convert request = .ok scope ↔ d'.scopeUnder r.convert request = .ok scope := by
  simp only [Document.scopeUnder_eq_ok_iff, Document.mem_namedSpaces, h.mem_comparisons_iff]

theorem compilesIn_iff_of_reordered (h : d.root.Reordered d'.root) :
    r.CompilesIn d request scope ↔ r.CompilesIn d' request scope := by
  simp only [compilesIn_iff, scopeUnder_eq_ok_iff_of_reordered h, matcher_eq_ok_iff_of_reordered h]

theorem exists_compile_of_reordered (h : d.root.Reordered d'.root) (htree : d'.treeView = d.treeView) {k : Compiled}
    (hk : r.compile d request = .ok k) :
    ∃ p, r.compile d' request = .ok { k with predicate := p } ∧ p.isMatch = k.predicate.isMatch := by
  obtain ⟨hscope, p, hp, hcompiled⟩ := compile_eq_ok_iff.1 hk
  have hmatcher : r.matcher k.scope d.root = .ok p.isMatch := Outcome.map_eq_ok.2 ⟨p, hp, rfl⟩
  obtain ⟨p', hp', hsame⟩ := Outcome.map_eq_ok.1 ((matcher_eq_ok_iff_of_reordered h p.isMatch).1 hmatcher)
  have hscope' := (scopeUnder_eq_ok_iff_of_reordered h).1 hscope
  refine ⟨r.confine request p', compile_eq_ok_iff.2 ⟨hscope', p', hp', ?_⟩, ?_⟩
  · rw [htree, ← hcompiled]
  · rw [← hcompiled]
    exact r.isMatch_confine_congr hsame request

end Filter.Resolver

namespace Engine

/-! ## Reordered filters -/

variable {e : Engine} {d d' : Document} {space : Option String} {page : Page} {result : SearchResult}

theorem answer_of_reordered (h : d.root.Reordered d'.root) (htree : d'.treeView = d.treeView)
    (hresult : (e.compile d space >>= fun k => e.runCompiled k page) = .ok result) :
    (e.compile d' space >>= fun k => e.runCompiled k page) = .ok result := by
  obtain ⟨k, hk, hrun⟩ := Outcome.bind_eq_ok.1 hresult
  obtain ⟨p, hp, hmatch⟩ := Resolver.exists_compile_of_reordered h htree hk
  refine Outcome.bind_eq_ok.2 ⟨_, hp, ?_⟩
  rw [← hrun]
  exact e.runCompiled_congr { k with predicate := p } k hmatch rfl page

/-- **The order of conditions never matters.**  A filter and the same filter with the conditions of its combinators in
another order, at any depth, compile in the same scope or not at all, and every page of theirs is the same: items,
ancestors, parents and total.  So are the answers to all requests, where those that are refused may differ in the
error. -/
theorem search_reordered (h : d.root.Reordered d'.root) (htree : d'.treeView = d.treeView) (e : Engine)
    (space : Option String) :
    (∀ scope, e.resolver.CompilesIn d' space scope ↔ e.resolver.CompilesIn d space scope) ∧
      (∀ page result, (e.compile d' space >>= fun k => e.runCompiled k page) = .ok result ↔
        (e.compile d space >>= fun k => e.runCompiled k page) = .ok result) ∧
      ∀ expression expression', Document.ofText expression = .ok d → Document.ofText expression' = .ok d' →
        ∀ offset limit result, e.search ⟨expression', space, offset, limit⟩ = .ok result ↔
          e.search ⟨expression, space, offset, limit⟩ = .ok result := by
  have hanswer : ∀ page result, (e.compile d' space >>= fun k => e.runCompiled k page) = .ok result ↔
      (e.compile d space >>= fun k => e.runCompiled k page) = .ok result := fun page result =>
    ⟨answer_of_reordered h.symm htree.symm, answer_of_reordered h htree⟩
  refine ⟨fun scope => (Resolver.compilesIn_iff_of_reordered h).symm, hanswer, ?_⟩
  intro expression expression' hread hread' offset limit result
  rw [search_eq_bind (r := ⟨expression', space, offset, limit⟩) hread',
    search_eq_bind (r := ⟨expression, space, offset, limit⟩) hread]
  exact hanswer _ result

def workUnlabelled : Document :=
  ⟨.combinator .and
    [.combinator .or
        [.comparison ⟨"description", .ne, .text "", true⟩, .comparison ⟨"iteration.name", .substr, .text "print", false⟩]
        false,
      .comparison ⟨"space", .isIn, .texts ["a"], false⟩,
      .combinator .or [.comparison ⟨"work", .ne, .text "", false⟩, .comparison ⟨"label", .eq, .text "red", false⟩] true]
    false, false⟩

theorem search_reordered_workUnlabelled :
    unlabelledWork.root.Reordered workUnlabelled.root ∧ workUnlabelled.treeView = unlabelledWork.treeView ∧
      (ofConfig twoSpaces .none).resolver.CompilesIn unlabelledWork none (.ofList ["a"]) ∧
      (ofConfig twoSpaces .none).resolver.CompilesIn workUnlabelled none (.ofList ["a"]) ∧
      ∃ result, result.items.map WorkItem.id = ["2", "1"] ∧
        (ofConfig twoSpaces .none).search ⟨unlabelledWork.text .compact, none, none, none⟩ = .ok result ∧
        (ofConfig twoSpaces .none).search ⟨workUnlabelled.text .compact, none, none, none⟩ = .ok result := by
  have hreordered : unlabelledWork.root.Reordered workUnlabelled.root :=
    .combinator .and false
      (.cons (.refl _) (.cons (.children .or true (.swap _ _ _)) (.cons (.children .or false (.swap _ _ _)) .nil)))
      (@List.perm_append_comm _ [_, _] [_])
  obtain ⟨hscope, -, hsearch⟩ := search_reordered hreordered rfl (ofConfig twoSpaces .none) none
  have hcompiles : (ofConfig twoSpaces .none).resolver.CompilesIn unlabelledWork none (.ofList ["a"]) :=
    ⟨_, rfl, by decide +kernel⟩
  have hread : Document.ofText (unlabelledWork.text .compact) = .ok unlabelledWork :=
    Document.ofText_text (by decide +kernel) (by decide +kernel) .compact
  have hread' : Document.ofText (workUnlabelled.text .compact) = .ok workUnlabelled :=
    Document.ofText_text (by decide +kernel) (by decide +kernel) .compact
  have hanswer := search_eq_bind (e := ofConfig twoSpaces .none)
    (r := ⟨unlabelledWork.text .compact, none, none, none⟩) hread
  have hids : ((ofConfig twoSpaces .none).compile unlabelledWork none >>= fun k => (ofConfig twoSpaces .none).runCompiled k
      (.ofRequest Config.none.settings none none)).toOption.map (·.items.map WorkItem.id) = some ["2", "1"] := by
    decide +kernel
  obtain ⟨result, hresult, hids⟩ := Option.map_eq_some_iff.1 hids
  have hresult : (ofConfig twoSpaces .none).search ⟨unlabelledWork.text .compact, none, none, none⟩ = .ok result :=
    hanswer.trans (Outcome.toOption_eq_some.1 hresult)
  exact ⟨hreordered, rfl, hcompiles, (hscope _).2 hcompiles, result, hids, hresult,
    (hsearch _ _ hread hread' none none result).2 hresult⟩

end Engine
end Backlog
