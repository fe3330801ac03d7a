import Backlog.Proofs.Filter.Denotation
import Backlog.Proofs.Search.Negation
/-!
# Exchange — conditions that ask for the same in other words

Two conditions that match the same in every scope and ask for the same spaces can stand for each other anywhere in a
filter: no request tells the filters apart (`interchangeable_of_exchanged`).  So it is with a comparison with several
texts and the comparisons with each of them, joined by "or", for every key (`isIn_eq_alternatives`).

A comparison for a difference and the negated comparison for equality are not quite such a pair.  They are refused alike
and neither asks for a space, but where an attribute can be unset the first asks for more: that it is set
(`differsByUnset`).
-/
namespace Backlog

open Backlog.Filter (Comparison Compiled Document Key Node Resolver Scope)

namespace Filter

theorem Document.scopeUnder_eq_of_exchanged {m m' : Node} {d d' : Document}
    (hroot : Node.Exchanged m m' d.root d'.root)
    (hspaces : m.comparisons.flatMap Comparison.requestedSpaces = m'.comparisons.flatMap Comparison.requestedSpaces)
    (convert : Converter) (request : Option String) :
    d'.scopeUnder convert request = d.scopeUnder convert request := by
  obtain ⟨before, after, hd, hd'⟩ := hroot.namedSpaces_eq request
  rw [Document.scopeUnder, Document.scopeUnder, hd, hd', hspaces]

namespace Resolver

variable {r : Resolver} {scope : Scope}

def verdict (r : Resolver) (scope : Scope) (n : Node) : Except QueryError Unit :=
  (r.matcher scope n).map fun _ => ()

/-- **Parts that are refused alike** can be exchanged, as far as refusal is concerned. -/
theorem verdict_eq_of_exchanged {m m' n n' : Node} (h : Node.Exchanged m m' n n')
    (hparts : r.verdict scope m = r.verdict scope m') : r.verdict scope n = r.verdict scope n' := by
  induction h with
  | here => exact hparts
  | @inside n n' connective before after negate _ ih =>
    unfold verdict at ih ⊢
    rw [matcher_combinator, matcher_combinator, Outcome.map_map, Outcome.map_map, List.mapM_append, List.mapM_append,
      List.mapM_cons, List.mapM_cons]
    cases before.mapM (r.matcher scope) with
    | error e => rfl
    | ok accepts =>
      -- what follows the part is reached exactly if the part is not refused
      cases hn : r.matcher scope n with
      | error e =>
        rw [hn] at ih
        rw [Outcome.map_eq_error.1 ih.symm]
      | ok a =>
        rw [hn] at ih
        obtain ⟨a', hn', -⟩ := Outcome.map_eq_ok.1 ih.symm
        rw [hn']
        cases after.mapM (r.matcher scope) <;> rfl

end Resolver
end Filter

namespace Engine

variable {e : Engine} {d d' : Document} {space : Option String}

/-! ## Filters that no request tells apart -/

/-- Two filters of which no request tells which one it is for: they are compiled in the same scope or refused for the
same reason, every page of theirs is the same, and so is the answer to every text that stands for them. -/
structure Interchangeable (e : Engine) (d d' : Document) (space : Option String) : Prop where
  scope : (e.compile d' space).map Compiled.scope = (e.compile d space).map Compiled.scope
  page : ∀ page, (e.compile d' space >>= fun k => e.runCompiled k page) =
    e.compile d space >>= fun k => e.runCompiled k page
  search : ∀ expression expression', Document.ofText expression = .ok d → Document.ofText expression' = .ok d' →
    ∀ offset limit, e.search ⟨expression', space, offset, limit⟩ = e.search ⟨expression, space, offset, limit⟩

/-- Conditions that ask for the same spaces can be exchanged in a filter, if they match the same in its scope. -/
theorem interchangeable_of_exchanged_in {m m' : Node} (hroot : Node.Exchanged m m' d.root d'.root)
    (htree : d'.treeView = d.treeView)
    (hspaces : m.comparisons.flatMap Comparison.requestedSpaces = m'.comparisons.flatMap Comparison.requestedSpaces)
    (space : Option String)
    (hmatch : ∀ scope, d.scopeUnder e.convert space = .ok scope → e.resolver.matcher scope m = e.resolver.matcher scope m') :
    e.Interchangeable d d' space := by
  have hscope := Document.scopeUnder_eq_of_exchanged hroot hspaces e.convert space
  have hroots : ∀ scope, d.scopeUnder e.convert space = .ok scope →
      e.resolver.matcher scope d'.root = e.resolver.matcher scope d.root := fun scope h =>
    (Resolver.matcher_eq_of_exchanged hroot (hmatch scope h)).symm
  have hpage : ∀ page, (e.compile d' space >>= fun k => e.runCompiled k page) =
      e.compile d space >>= fun k => e.runCompiled k page := by
    intro page
    rw [answer_eq_bind, answer_eq_bind, hscope]
    cases h : d.scopeUnder e.convert space with
    | error error => rfl
    | ok scope => exact answerIn_congr htree (hroots scope h) space page
  refine ⟨?_, hpage, ?_⟩
  · rw [map_scope_eq_bind, map_scope_eq_bind, hscope]
    cases h : d.scopeUnder e.convert space with
    | error error => rfl
    | ok scope => exact congrArg (Except.map fun _ => scope) (hroots scope h)
  · intro expression expression' hread hread' offset limit
    rw [search_eq_bind (r := ⟨expression', space, offset, limit⟩) hread',
      search_eq_bind (r := ⟨expression, space, offset, limit⟩) hread]
    exact hpage _

/-- **Conditions that match the same and ask for the same spaces** can be exchanged in any filter. -/
theorem interchangeable_of_exchanged {m m' : Node} (hroot : Node.Exchanged m m' d.root d'.root)
    (htree : d'.treeView = d.treeView) (hmatch : ∀ scope, e.resolver.matcher scope m = e.resolver.matcher scope m')
    (hspaces : m.comparisons.flatMap Comparison.requestedSpaces = m'.comparisons.flatMap Comparison.requestedSpaces)
    (space : Option String) : e.Interchangeable d d' space :=
  interchangeable_of_exchanged_in hroot htree hspaces space fun scope _ => hmatch scope

end Engine

/-! ## Several texts -/

namespace Filter

def Key.amongst (key : Key) (vs : List String) : Node :=
  .comparison ⟨key.name, .isIn, .texts vs, false⟩

def Key.alternatives (key : Key) (vs : List String) : Node :=
  .combinator .or (vs.map fun v => .comparison ⟨key.name, .eq, .text v, false⟩) false

theorem requestedSpaces_alternatives (key : Key) (vs : List String) :
    (key.amongst vs).comparisons.flatMap Comparison.requestedSpaces =
      (key.alternatives vs).comparisons.flatMap Comparison.requestedSpaces := by
  have halternatives : (key.alternatives vs).comparisons = vs.map fun v => ⟨key.name, .eq, .text v, false⟩ := by
    unfold Key.alternatives Node.comparisons
    induction vs with
    | nil => rfl
    | cons v vs ih =>
      rw [List.map_cons, List.map_cons, Node.comparisonsOfAll, ih]
      rfl
  rw [halternatives, List.flatMap_map]
  show [_].flatMap _ = _
  rw [List.flatMap_singleton]
  by_cases hkey : key.name = Key.space.name
  · simp [Comparison.requestedSpaces, hkey]
  · simp [Comparison.requestedSpaces, hkey]

namespace Resolver

theorem matcher_alternatives (r : Resolver) (scope : Scope) (key : Key) (vs : List String) :
    r.matcher scope (key.alternatives vs) = r.matcher scope (key.amongst vs) := by
  have heach : (vs.map fun v => Node.comparison ⟨key.name, .eq, .text v, false⟩).mapM (r.matcher scope) =
      (vs.mapM (r.denoted scope key.name)).map (List.map fun set item => (key.subject.content item).meets set) := by
    rw [List.mapM_map, ← Outcome.mapM_map_result]
    refine congrArg (List.mapM · vs) (funext fun v => ?_)
    rw [Function.comp_apply, matcher_text r scope key.name v false (.inl rfl), subjectOf_name]
    simp [asks]
  rw [Key.alternatives, Key.amongst, matcher_combinator, heach, matcher_isIn, Outcome.map_map]
  refine congrArg (Except.map · _) (funext fun sets => funext fun item => ?_)
  simp only [Function.comp_apply, joinedMatchers, List.any_map, Bool.false_bne]
  rfl

theorem exists_compiledIn_amongst_nil (r : Resolver) (scope : Scope) (key : Key) :
    ∃ p, r.compiledIn scope (key.amongst []) = .ok p ∧ ∀ item, p.isMatch item = false := by
  have hnone : r.matcher scope (key.amongst []) = .ok fun _ => false := matcher_isIn r scope key []
  rw [← map_isMatch_compiledIn] at hnone
  obtain ⟨p, hp, hmatch⟩ := Outcome.map_eq_ok.1 hnone
  exact ⟨p, hp, fun item => congrFun hmatch item⟩

end Resolver
end Filter

namespace Engine

/-- **Several texts are the alternatives of each.**  Wherever in a filter a comparison of a key with several texts stands,
the comparisons of the key with each of the texts can stand in its place, joined by "or": both filters are compiled in
the same scope or refused for the same reason, and their answers are the same.  With no texts the comparison matches no
item in any scope. -/
theorem isIn_eq_alternatives (e : Engine) (key : Key) :
    (∀ vs (d d' : Document), Node.Exchanged (key.amongst vs) (key.alternatives vs) d.root d'.root →
      d'.treeView = d.treeView → ∀ space, e.Interchangeable d d' space) ∧
      ∀ scope, ∃ p, e.resolver.compiledIn scope (key.amongst []) = .ok p ∧ ∀ item, p.isMatch item = false := by
  constructor
  · intro vs d d' hroot htree space
    have hmatch : ∀ scope, e.resolver.matcher scope (key.amongst vs) = e.resolver.matcher scope (key.alternatives vs) :=
      fun scope => (e.resolver.matcher_alternatives scope key vs).symm
    exact interchangeable_of_exchanged hroot htree hmatch (Filter.requestedSpaces_alternatives key vs) space
  · intro scope
    exact e.resolver.exists_compiledIn_amongst_nil scope key

/-- What does not meet some condition or has no label that is named red. -/
def notRedAnd (n : Node) : Document :=
  ⟨.combinator .or [.combinator .and [n, .comparison ⟨"label.name", .eq, .text "red", false⟩] false] true, false⟩

theorem isIn_eq_alternatives_notRedAnd :
    Node.Exchanged (Key.space.amongst ["a", "c"]) (Key.space.alternatives ["a", "c"])
        (notRedAnd (Key.space.amongst ["a", "c"])).root (notRedAnd (Key.space.alternatives ["a", "c"])).root ∧
      (ofConfig twoSpaces .none).Interchangeable (notRedAnd (Key.space.amongst ["a", "c"]))
        (notRedAnd (Key.space.alternatives ["a", "c"])) none ∧
      ∃ result, result.items.map WorkItem.id = ["4", "5", "2", "1"] ∧
        (ofConfig twoSpaces .none).search ⟨(notRedAnd (Key.space.amongst ["a", "c"])).text .compact, none, none, none⟩ =
          .ok result ∧
        (ofConfig twoSpaces .none).search
          ⟨(notRedAnd (Key.space.alternatives ["a", "c"])).text .compact, none, none, none⟩ = .ok result := by
  have hroot : Node.Exchanged (Key.space.amongst ["a", "c"]) (Key.space.alternatives ["a", "c"])
      (notRedAnd (Key.space.amongst ["a", "c"])).root (notRedAnd (Key.space.alternatives ["a", "c"])).root :=
    .inside .or [] [] true (.inside .and [] [_] false .here)
  have hsame := (isIn_eq_alternatives (ofConfig twoSpaces .none) .space).1 ["a", "c"] _ _ hroot rfl none
  have hread : Document.ofText ((notRedAnd (Key.space.amongst ["a", "c"])).text .compact) = .ok _ :=
    Document.ofText_text (by decide +kernel) (by decide +kernel) .compact
  have hread' : Document.ofText ((notRedAnd (Key.space.alternatives ["a", "c"])).text .compact) = .ok _ :=
    Document.ofText_text (by decide +kernel) (by decide +kernel) .compact
  have hids : ((ofConfig twoSpaces .none).search
      ⟨(notRedAnd (Key.space.amongst ["a", "c"])).text .compact, none, none, none⟩).toOption.map
        (fun result => result.items.map WorkItem.id) = some ["4", "5", "2", "1"] := by
    rw [search_eq_bind (r := ⟨(notRedAnd (Key.space.amongst ["a", "c"])).text .compact, none, none, none⟩) hread]
    decide +kernel
  obtain ⟨result, hresult, hids⟩ := Option.map_eq_some_iff.1 hids
  have hresult := Outcome.toOption_eq_some.1 hresult
  exact ⟨hroot, hsame, result, hids, hresult, (hsame.search _ _ hread hread' none none).trans hresult⟩

end Engine

/-! ## Difference -/

namespace Filter

def differing (field v : String) : Node :=
  .comparison ⟨field, .ne, .text v, false⟩

def excluding (field v : String) : Node :=
  .comparison ⟨field, .eq, .text v, true⟩

def Key.optional : List Key :=
  [.description, .iteration, .creator, .iterationName]

theorem isUnset_content_subjectOf {field : String} (hfield : ∀ key ∈ Key.optional, field ≠ key.name)
    (item : WorkItem) : ((subjectOf field).content item).isUnset = false := by
  unfold subjectOf
  cases hkey : Key.ofName? field with
  | none => rfl
  | some key =>
    have hnot : key ∉ Key.optional := fun hmem => hfield key hmem (Key.ofName?_eq_some_iff.1 hkey).symm
    rw [Option.elim_some]
    cases key <;> first | rfl | exact absurd (by decide) hnot

theorem requestedSpaces_differing (field v : String) :
    (differing field v).comparisons.flatMap Comparison.requestedSpaces = [] := by
  simp [differing, Node.comparisons, Comparison.requestedSpaces]

theorem requestedSpaces_excluding (field v : String) :
    (excluding field v).comparisons.flatMap Comparison.requestedSpaces = [] := by
  simp [excluding, Node.comparisons, Comparison.requestedSpaces]

namespace Resolver

variable (r : Resolver) (scope : Scope) (field v : String)

theorem matcher_differing :
    r.matcher scope (differing field v) = (r.denoted scope field v).map fun set item =>
      !((subjectOf field).content item).isUnset && !((subjectOf field).content item).meets set := by
  rw [differing, matcher_text r scope field v false (.inr rfl)]
  simp [asks]

theorem matcher_excluding :
    r.matcher scope (excluding field v) = (r.denoted scope field v).map fun set item =>
      !((subjectOf field).content item).meets set := by
  rw [excluding, matcher_text r scope field v true (.inl rfl)]
  simp [asks]

theorem verdict_differing : r.verdict scope (differing field v) = r.verdict scope (excluding field v) := by
  rw [verdict, verdict, matcher_differing, matcher_excluding, Outcome.map_map, Outcome.map_map]
  rfl

/-- **A difference is an exclusion from what has the attribute.** -/
theorem isMatch_differing {p q : Predicate} (hp : r.compiledIn scope (differing field v) = .ok p)
    (hq : r.compiledIn scope (excluding field v) = .ok q) (item : WorkItem) :
    p.isMatch item = (!((subjectOf field).content item).isUnset && q.isMatch item) := by
  have hp := matcher_of_compiledIn hp
  have hq := matcher_of_compiledIn hq
  rw [matcher_differing] at hp
  rw [matcher_excluding] at hq
  -- both go by the same values, which the text stands for
  obtain ⟨set, hset, hp⟩ := Outcome.map_eq_ok.1 hp
  rw [hset] at hq
  rw [← congrFun hp item, ← congrFun (Except.ok.inj hq) item]

theorem matcher_differing_eq_excluding {field : String} (hfield : ∀ key ∈ Key.optional, field ≠ key.name) :
    r.matcher scope (differing field v) = r.matcher scope (excluding field v) := by
  rw [matcher_differing, matcher_excluding]
  simp [isUnset_content_subjectOf hfield]

end Resolver
end Filter

namespace Engine

/-- How the comparison of a field with a text for a difference relates to the negated one for equality. -/
structure DiffersByUnset (e : Engine) (field v : String) : Prop where
  /-- In every scope both are compiled, or refused for the same reason. -/
  verdict : ∀ scope, (e.resolver.compiledIn scope (Filter.differing field v)).map (fun _ => ()) =
    (e.resolver.compiledIn scope (Filter.excluding field v)).map fun _ => ()
  /-- Where an item need not have the attribute, the first matches what the second matches and what has it. -/
  optional : ∀ key ∈ Key.optional, field = key.name → ∀ scope p q,
    e.resolver.compiledIn scope (Filter.differing field v) = .ok p →
      e.resolver.compiledIn scope (Filter.excluding field v) = .ok q →
        ∀ item, p.isMatch item = true ↔ q.isMatch item = true ∧ (key.subject.content item).isUnset = false
  /-- For every other field, whether a key or the name of a group, both match the same. -/
  required : (∀ key ∈ Key.optional, field ≠ key.name) → ∀ scope p q,
    e.resolver.compiledIn scope (Filter.differing field v) = .ok p →
      e.resolver.compiledIn scope (Filter.excluding field v) = .ok q → ∀ item, p.isMatch item = q.isMatch item
  /-- Neither asks for a space. -/
  spaces : (Filter.differing field v).comparisons.flatMap Comparison.requestedSpaces = [] ∧
    (Filter.excluding field v).comparisons.flatMap Comparison.requestedSpaces = []
  /-- So a filter is compiled in the same scope with the one as with the other, or refused for the same reason. -/
  scope : ∀ d d' : Document, Node.Exchanged (Filter.differing field v) (Filter.excluding field v) d.root d'.root →
    ∀ space, (e.compile d' space).map Compiled.scope = (e.compile d space).map Compiled.scope
  /-- Where the item has the attribute in any case, no request tells the two filters apart. -/
  interchangeable : (∀ key ∈ Key.optional, field ≠ key.name) → ∀ d d' : Document,
    Node.Exchanged (Filter.differing field v) (Filter.excluding field v) d.root d'.root → d'.treeView = d.treeView →
      ∀ space, e.Interchangeable d d' space

/-- **A comparison for a difference** is the negated comparison for equality, with nothing unset. -/
theorem differsByUnset (e : Engine) (field v : String) : e.DiffersByUnset field v := by
  have hspaces := (Filter.requestedSpaces_differing field v).trans (Filter.requestedSpaces_excluding field v).symm
  refine ⟨?_, ?_, ?_, ⟨Filter.requestedSpaces_differing field v, Filter.requestedSpaces_excluding field v⟩, ?_, ?_⟩
  · intro scope
    have hverdict := e.resolver.verdict_differing scope field v
    rw [Resolver.verdict, Resolver.verdict, ← Resolver.map_isMatch_compiledIn, ← Resolver.map_isMatch_compiledIn,
      Outcome.map_map, Outcome.map_map] at hverdict
    exact hverdict
  · rintro key - rfl scope p q hp hq item
    rw [e.resolver.isMatch_differing scope key.name v hp hq item, Filter.subjectOf_name]
    simp [and_comm]
  · intro hfield scope p q hp hq item
    rw [e.resolver.isMatch_differing scope field v hp hq item, Filter.isUnset_content_subjectOf hfield]
    simp
  · intro d d' hroot space
    have hscope := Document.scopeUnder_eq_of_exchanged hroot hspaces e.convert space
    have hverdict : ∀ scope, (e.resolver.matcher scope d'.root).map (fun _ => scope) =
        (e.resolver.matcher scope d.root).map fun _ => scope := by
      intro scope
      have hroots := Resolver.verdict_eq_of_exchanged hroot (e.resolver.verdict_differing scope field v)
      have hscopes := congrArg (Except.map fun _ => scope) hroots.symm
      rwa [Resolver.verdict, Resolver.verdict, Outcome.map_map, Outcome.map_map] at hscopes
    simp only [map_scope_eq_bind, hscope, hverdict]
  · intro hfield d d' hroot htree space
    have hmatch := fun scope => e.resolver.matcher_differing_eq_excluding scope v hfield
    exact interchangeable_of_exchanged hroot htree hmatch hspaces space

theorem differsByUnset_iterationName :
    let r := (ofConfig twoSpaces .none).resolver
    ∃ p q, r.compiledIn (.ofList ["b"]) (Filter.differing "iteration.name" "Sprint 1") = .ok p ∧
      r.compiledIn (.ofList ["b"]) (Filter.excluding "iteration.name" "Sprint 1") = .ok q ∧
      (∀ item, p.isMatch item = true ↔ q.isMatch item = true ∧ (Attribute.iteration.content item).isUnset = false) ∧
      Hierarchy.ids (twoSpaces.matchesOf p) = ["1"] ∧
      Hierarchy.ids (twoSpaces.matchesOf q) = ["4", "5", "3", "2", "1"] := by
  intro r
  have hdiffers := differsByUnset (ofConfig twoSpaces .none) "iteration.name" "Sprint 1"
  refine ⟨_, _, rfl, rfl, ?_, by decide +kernel, by decide +kernel⟩
  exact hdiffers.optional .iterationName (by decide) rfl (.ofList ["b"]) _ _ rfl rfl

end Engine
end Backlog
