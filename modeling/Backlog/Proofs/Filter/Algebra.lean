import Backlog.Proofs.Filter.Exchange
import Backlog.Proofs.Store.Order
/-!
# Algebra — filters joined, negated and confined to a space

What a filter finds is a set of stored items, and joining and negating filters is intersection, union and complement of
these sets, within the space that the request is confined to (`compile_algebra`).  That holds in one scope.  The scope
of joined filters has the spaces of all of them, so filters with the same scope keep it when they are joined
(`scopeUnder_joined`); a negated combinator around a filter leaves the scope alone, since the comparisons in it stay as
they are.

A request that is confined to a space is not a notion of its own: it is the request for the filter with the space as a
further condition (`compile_some_eq_compile_within`).
-/
namespace Backlog
namespace Filter

theorem Node.mem_comparisonsOfAll {c : Comparison} {ns : List Node} :
    c ∈ comparisonsOfAll ns ↔ ∃ n ∈ ns, c ∈ n.comparisons := by
  induction ns with
  | nil => simp [comparisonsOfAll]
  | cons n ns ih => simp [comparisonsOfAll, ih]

namespace Document

def joined (connective : Connective) (ds : List Document) (treeView : Bool) : Document :=
  ⟨.combinator connective (ds.map root) false, treeView⟩

def complement (d : Document) : Document :=
  ⟨.combinator .and [d.root] true, d.treeView⟩

def within (d : Document) (space : String) : Document :=
  ⟨.combinator .and [.comparison ⟨Key.space.name, .eq, .text space, false⟩, d.root] false, d.treeView⟩

/-! ## The spaces that are named -/

theorem namedSpaces_complement (d : Document) (request : Option String) :
    d.complement.namedSpaces request = d.namedSpaces request := by
  simp [namedSpaces, complement, Node.comparisons, Node.comparisonsOfAll]

theorem namedSpaces_within (d : Document) (space : String) :
    (d.within space).namedSpaces none = d.namedSpaces (some space) := by
  simp [namedSpaces, within, Node.comparisons, Node.comparisonsOfAll, Comparison.requestedSpaces]

theorem mem_namedSpaces {d : Document} {request : Option String} {raw : String} :
    raw ∈ d.namedSpaces request ↔ raw ∈ request ∨ ∃ c ∈ d.root.comparisons, raw ∈ c.requestedSpaces := by
  simp [namedSpaces]

theorem mem_namedSpaces_joined {connective : Connective} {ds : List Document} {treeView : Bool} {request : Option String}
    (hne : ds ≠ []) {raw : String} :
    raw ∈ (joined connective ds treeView).namedSpaces request ↔ ∃ d ∈ ds, raw ∈ d.namedSpaces request := by
  obtain ⟨first, hfirst⟩ := List.exists_mem_of_ne_nil ds hne
  simp only [mem_namedSpaces, joined, Node.comparisons, Node.mem_comparisonsOfAll, List.mem_map]
  constructor
  · rintro (hrequest | ⟨c, ⟨_, ⟨d, hd, rfl⟩, hc⟩, hraw⟩)
    · exact ⟨first, hfirst, .inl hrequest⟩
    · exact ⟨d, hd, .inr ⟨c, hc, hraw⟩⟩
  · rintro ⟨d, hd, hrequest | ⟨c, hc, hraw⟩⟩
    · exact .inl hrequest
    · exact .inr ⟨c, ⟨_, ⟨d, hd, rfl⟩, hc⟩, hraw⟩

/-- **The scope of a request** is there exactly when every space that is named has a stored form, and these are what it
has. -/
theorem scopeUnder_eq_ok_iff {d : Document} {convert : Converter} {request : Option String} {scope : Scope} :
    d.scopeUnder convert request = .ok scope ↔
      (∀ raw ∈ d.namedSpaces request, ∃ space, convert Key.space.name .identifier raw = .ok space) ∧
        ∀ space, scope.spaces.contains space = true ↔
          ∃ raw ∈ d.namedSpaces request, convert Key.space.name .identifier raw = .ok space := by
  rw [scopeUnder, Outcome.map_eq_ok, ← Outcome.mapM_eq_ok]
  constructor
  · rintro ⟨spaces, hspaces, rfl⟩
    refine ⟨⟨spaces, hspaces⟩, ?_⟩
    intro space
    rw [Scope.contains_spaces_ofList, Outcome.mem_of_mapM_eq_ok hspaces]
  · rintro ⟨⟨spaces, hspaces⟩, hmem⟩
    refine ⟨spaces, hspaces, congrArg Scope.mk (StringSet.ext_contains ?_)⟩
    intro space
    rw [Bool.eq_iff_iff, hmem, ← Outcome.mem_of_mapM_eq_ok hspaces]
    exact Scope.contains_spaces_ofList

theorem scopeUnder_joined {connective : Connective} {ds : List Document} {treeView : Bool} {convert : Converter}
    {request : Option String} {scope : Scope} (hne : ds ≠ [])
    (h : ∀ d ∈ ds, d.scopeUnder convert request = .ok scope) :
    (joined connective ds treeView).scopeUnder convert request = .ok scope := by
  simp only [scopeUnder_eq_ok_iff, mem_namedSpaces_joined hne] at h ⊢
  obtain ⟨first, hfirst⟩ := List.exists_mem_of_ne_nil ds hne
  constructor
  · rintro raw ⟨d, hd, hraw⟩
    exact (h d hd).1 raw hraw
  · intro space
    constructor
    · intro hspace
      obtain ⟨raw, hraw, hconvert⟩ := ((h first hfirst).2 space).1 hspace
      exact ⟨raw, ⟨first, hfirst, hraw⟩, hconvert⟩
    · rintro ⟨raw, ⟨d, hd, hraw⟩, hconvert⟩
      exact ((h d hd).2 space).2 ⟨raw, hraw, hconvert⟩

theorem scopeUnder_complement (d : Document) (convert : Converter) (request : Option String) :
    d.complement.scopeUnder convert request = d.scopeUnder convert request := by
  rw [scopeUnder, scopeUnder, namedSpaces_complement]

end Document

namespace Resolver

variable {r : Resolver} {d : Document} {request : Option String} {scope : Scope} {k : Compiled}

theorem convertSpace_of_scopeUnder (h : d.scopeUnder r.convert request = .ok scope) :
    ∀ raw ∈ request, ∃ space, r.convertSpace raw = .ok space := by
  intro raw hraw
  have hnamed : raw ∈ d.namedSpaces request := Document.mem_namedSpaces.2 (.inl hraw)
  exact (Document.scopeUnder_eq_ok_iff.1 h).1 raw hnamed

/-! ## The space of a request as a condition -/

theorem comparisonPredicate_space (r : Resolver) (scope : Scope) (raw : String) :
    r.comparisonPredicate scope ⟨Key.space.name, .eq, .text raw, false⟩ =
      (r.convertSpace raw).map fun space => .leaf ⟨.space, .eq space⟩ := by
  have hkey : r.resolution scope Key.space.name = .ok (.direct .space .identifier) :=
    resolution_of_key (Key.ofName?_name .space)
  rw [comparisonPredicate, hkey]
  show Except.bind (Except.bind (Except.map Test.eq (r.convertSpace raw)) _) _ = _
  cases r.convertSpace raw <;> rfl

/-- **A request that is confined to a space** is the request for the filter with the space as a further condition,
whatever the conversion of values may refuse. -/
theorem compile_some_eq_compile_within (r : Resolver) (d : Document) (space : String) :
    r.compile d (some space) = r.compile (d.within space) none := by
  have hscope : (d.within space).scopeUnder r.convert none = d.scopeUnder r.convert (some space) := by
    rw [Document.scopeUnder, Document.scopeUnder, Document.namedSpaces_within]
  rw [compile_eq_bind, compile_eq_bind, hscope]
  cases h : d.scopeUnder r.convert (some space) with
  | error e => rfl
  | ok scope =>
    -- the scope is there, so the space has a stored form, and the further condition cannot be refused
    obtain ⟨stored, hstored⟩ := convertSpace_of_scopeUnder h space rfl
    have hwithin : r.nodePredicate scope (d.within space).root =
        (r.nodePredicate scope d.root).map fun p => .and [.leaf ⟨.space, .eq stored⟩, p] := by
      rw [Document.within, nodePredicate, nodePredicates, nodePredicates, nodePredicates, nodePredicate,
        comparisonPredicate_space, hstored]
      cases r.nodePredicate scope d.root <;> rfl
    show Except.map _ (r.nodePredicate scope d.root) = Except.map _ (r.nodePredicate scope (d.within space).root)
    rw [hwithin]
    cases r.nodePredicate scope d.root with
    | error e => rfl
    | ok p =>
      show Except.ok (Compiled.mk (r.confine (some space) p) scope d.treeView) = _
      rw [confine_some hstored]
      rfl

/-! ## What a request finds -/

/-- Whether an item is in the space that a request is confined to, if it is confined to one. -/
def Admits (r : Resolver) (request : Option String) (item : WorkItem) : Prop :=
  ∀ raw ∈ request, r.convertSpace raw = .ok item.space

/-- Whether a filter compiles, with a certain scope. -/
def CompilesIn (r : Resolver) (d : Document) (request : Option String) (scope : Scope) : Prop :=
  ∃ k, r.compile d request = .ok k ∧ k.scope = scope

/-- Whether a filter compiles and a stored item is among its matches. -/
def Finds (r : Resolver) (d : Document) (request : Option String) (item : WorkItem) : Prop :=
  ∃ k, r.compile d request = .ok k ∧ item ∈ r.store.matchesOf k.predicate

instance (r : Resolver) (d : Document) (request : Option String) (item : WorkItem) :
    Decidable (r.Finds d request item) :=
  match h : r.compile d request with
  | .ok k => decidable_of_iff (item ∈ r.store.matchesOf k.predicate)
      ⟨fun hitem => ⟨k, h, hitem⟩, fun ⟨_, hk, hitem⟩ => by cases h.symm.trans hk; exact hitem⟩
  | .error _ => isFalse fun ⟨_, hk, _⟩ => by cases h.symm.trans hk

theorem compile_eq_ok_iff :
    r.compile d request = .ok k ↔ d.scopeUnder r.convert request = .ok k.scope ∧
      ∃ p, r.nodePredicate k.scope d.root = .ok p ∧ ⟨r.confine request p, k.scope, d.treeView⟩ = k := by
  rw [compile_eq_bind, Outcome.bind_eq_ok]
  constructor
  · rintro ⟨scope, hscope, h⟩
    obtain ⟨p, hp, rfl⟩ := Outcome.map_eq_ok.1 h
    exact ⟨hscope, p, hp, rfl⟩
  · rintro ⟨hscope, p, hp, hk⟩
    exact ⟨k.scope, hscope, Outcome.map_eq_ok.2 ⟨p, hp, hk⟩⟩

theorem compilesIn_iff : r.CompilesIn d request scope ↔
    d.scopeUnder r.convert request = .ok scope ∧ ∃ accepts, r.matcher scope d.root = .ok accepts := by
  constructor
  · rintro ⟨k, hk, rfl⟩
    obtain ⟨hscope, p, hp, -⟩ := compile_eq_ok_iff.1 hk
    exact ⟨hscope, p.isMatch, Outcome.map_eq_ok.2 ⟨p, hp, rfl⟩⟩
  · rintro ⟨hscope, accepts, haccepts⟩
    obtain ⟨p, hp, -⟩ := Outcome.map_eq_ok.1 haccepts
    exact ⟨⟨r.confine request p, scope, d.treeView⟩, compile_eq_ok_iff.2 ⟨hscope, p, hp, rfl⟩, rfl⟩

theorem isMatch_confine (h : ∀ raw ∈ request, ∃ space, r.convertSpace raw = .ok space) (p : Predicate)
    (item : WorkItem) : (r.confine request p).isMatch item = true ↔ r.Admits request item ∧ p.isMatch item = true := by
  cases request with
  | none => simp [confine, Admits]
  | some raw =>
    obtain ⟨space, hspace⟩ := h raw rfl
    have hadmits : r.Admits (some raw) item ↔ (item.space == space) = true := by
      rw [beq_iff_eq, eq_comm]
      simp [Admits, hspace]
    rw [confine_some hspace, hadmits]
    simp [Predicate.isMatch_space, Test.ofValue]

/-- **What a filter finds** is stored, is in the space of the request and matches the condition. -/
theorem finds_iff {accepts : WorkItem → Bool} (hscope : d.scopeUnder r.convert request = .ok scope)
    (haccepts : r.matcher scope d.root = .ok accepts) (item : WorkItem) :
    r.Finds d request item ↔ item ∈ r.store.items.entries ∧ r.Admits request item ∧ accepts item = true := by
  obtain ⟨p, hp, rfl⟩ := Outcome.map_eq_ok.1 haccepts
  have hk : r.compile d request = .ok ⟨r.confine request p, scope, d.treeView⟩ :=
    compile_eq_ok_iff.2 ⟨hscope, p, hp, rfl⟩
  have hmatch := isMatch_confine (convertSpace_of_scopeUnder hscope) p item
  rw [Finds, ← hmatch, ← Store.mem_matchesOf]
  constructor
  · rintro ⟨k', hk', hitem⟩
    cases hk.symm.trans hk'
    exact hitem
  · intro hitem
    exact ⟨_, hk, hitem⟩

/-! ## Joining -/

section

variable {ds : List Document} {treeView : Bool}

theorem matcher_joined (connective : Connective) (treeView : Bool)
    (h : ∀ d ∈ ds, ∃ accepts, r.matcher scope d.root = .ok accepts) :
    ∃ each, r.matcher scope (Document.joined connective ds treeView).root = .ok (joinedMatchers false connective each) ∧
      ∀ accepts, accepts ∈ each ↔ ∃ d ∈ ds, r.matcher scope d.root = .ok accepts := by
  obtain ⟨each, heach⟩ := Outcome.mapM_eq_ok.2 (List.forall_mem_map.2 h)
  refine ⟨each, ?_, ?_⟩
  · rw [Document.joined, matcher_combinator, heach]
    rfl
  · intro accepts
    rw [Outcome.mem_of_mapM_eq_ok heach]
    constructor
    · rintro ⟨n, hn, haccepts⟩
      obtain ⟨d, hd, rfl⟩ := List.mem_map.1 hn
      exact ⟨d, hd, haccepts⟩
    · rintro ⟨d, hd, haccepts⟩
      exact ⟨d.root, List.mem_map_of_mem hd, haccepts⟩

variable (hne : ds ≠ []) (h : ∀ d ∈ ds, r.CompilesIn d request scope)
include hne h

theorem compilesIn_joined (connective : Connective) : r.CompilesIn (.joined connective ds treeView) request scope := by
  simp only [compilesIn_iff] at h ⊢
  obtain ⟨each, heach, -⟩ := matcher_joined connective treeView fun d hd => (h d hd).2
  exact ⟨Document.scopeUnder_joined hne fun d hd => (h d hd).1, _, heach⟩

theorem finds_joined_and (item : WorkItem) :
    r.Finds (.joined .and ds treeView) request item ↔ ∀ d ∈ ds, r.Finds d request item := by
  simp only [compilesIn_iff] at h
  obtain ⟨each, heach, hmem⟩ := matcher_joined .and treeView fun d hd => (h d hd).2
  have hall : joinedMatchers false .and each item = true ↔ ∀ accepts ∈ each, accepts item = true := by
    simp [joinedMatchers]
  rw [finds_iff (Document.scopeUnder_joined hne fun d hd => (h d hd).1) heach, hall]
  constructor
  · rintro ⟨hstored, hadmits, hall⟩ d hd
    obtain ⟨hscope, accepts, haccepts⟩ := h d hd
    have hitem : accepts item = true := hall accepts ((hmem accepts).2 ⟨d, hd, haccepts⟩)
    exact (finds_iff hscope haccepts item).2 ⟨hstored, hadmits, hitem⟩
  · intro hfinds
    have hitem : ∀ accepts ∈ each, item ∈ r.store.items.entries ∧ r.Admits request item ∧ accepts item = true := by
      intro accepts haccepts
      obtain ⟨d, hd, haccepts⟩ := (hmem accepts).1 haccepts
      exact (finds_iff (h d hd).1 haccepts item).1 (hfinds d hd)
    obtain ⟨first, hfirst⟩ := List.exists_mem_of_ne_nil ds hne
    obtain ⟨-, accepts, haccepts⟩ := h first hfirst
    obtain ⟨hstored, hadmits, -⟩ := hitem accepts ((hmem accepts).2 ⟨first, hfirst, haccepts⟩)
    exact ⟨hstored, hadmits, fun accepts haccepts => (hitem accepts haccepts).2.2⟩

theorem finds_joined_or (item : WorkItem) :
    r.Finds (.joined .or ds treeView) request item ↔ ∃ d ∈ ds, r.Finds d request item := by
  simp only [compilesIn_iff] at h
  obtain ⟨each, heach, hmem⟩ := matcher_joined .or treeView fun d hd => (h d hd).2
  have hany : joinedMatchers false .or each item = true ↔ ∃ accepts ∈ each, accepts item = true := by
    simp [joinedMatchers]
  rw [finds_iff (Document.scopeUnder_joined hne fun d hd => (h d hd).1) heach, hany]
  constructor
  · rintro ⟨hstored, hadmits, accepts, haccepts, hitem⟩
    obtain ⟨d, hd, haccepts⟩ := (hmem accepts).1 haccepts
    exact ⟨d, hd, (finds_iff (h d hd).1 haccepts item).2 ⟨hstored, hadmits, hitem⟩⟩
  · rintro ⟨d, hd, hfinds⟩
    obtain ⟨hscope, accepts, haccepts⟩ := h d hd
    obtain ⟨hstored, hadmits, hitem⟩ := (finds_iff hscope haccepts item).1 hfinds
    exact ⟨hstored, hadmits, accepts, (hmem accepts).2 ⟨d, hd, haccepts⟩, hitem⟩

end

/-! ## Negating -/

theorem matcher_complement {accepts : WorkItem → Bool} (h : r.matcher scope d.root = .ok accepts) :
    r.matcher scope d.complement.root = .ok fun item => !accepts item := by
  rw [Document.complement, matcher_combinator, List.mapM_cons, h, List.mapM_nil]
  refine congrArg Except.ok (funext fun item => ?_)
  simp [joinedMatchers]

theorem compilesIn_complement (h : r.CompilesIn d request scope) : r.CompilesIn d.complement request scope := by
  rw [compilesIn_iff] at h ⊢
  obtain ⟨hscope, accepts, haccepts⟩ := h
  exact ⟨(d.scopeUnder_complement _ request).trans hscope, _, matcher_complement haccepts⟩

theorem finds_complement (h : r.CompilesIn d request scope) (item : WorkItem) :
    r.Finds d.complement request item ↔
      item ∈ r.store.items.entries ∧ r.Admits request item ∧ ¬r.Finds d request item := by
  obtain ⟨hscope, accepts, haccepts⟩ := compilesIn_iff.1 h
  have hcomplement := finds_iff ((d.scopeUnder_complement _ request).trans hscope) (matcher_complement haccepts) item
  rw [hcomplement, finds_iff hscope haccepts, Bool.not_eq_true', ← Bool.not_eq_true]
  constructor
  · rintro ⟨hstored, hadmits, hnot⟩
    exact ⟨hstored, hadmits, fun hfinds => hnot hfinds.2.2⟩
  · rintro ⟨hstored, hadmits, hnot⟩
    exact ⟨hstored, hadmits, fun hitem => hnot ⟨hstored, hadmits, hitem⟩⟩

theorem finds_complement_complement (h : r.CompilesIn d request scope) (item : WorkItem) :
    r.Finds d.complement.complement request item ↔ r.Finds d request item := by
  rw [finds_complement (compilesIn_complement h), finds_complement h]
  constructor
  · rintro ⟨hstored, hadmits, hnot⟩
    exact Classical.byContradiction fun hfinds => hnot ⟨hstored, hadmits, hfinds⟩
  · intro hfinds
    obtain ⟨hscope, accepts, haccepts⟩ := compilesIn_iff.1 h
    obtain ⟨hstored, hadmits, -⟩ := (finds_iff hscope haccepts item).1 hfinds
    exact ⟨hstored, hadmits, fun hnot => hnot.2.2 hfinds⟩

/-- **Filters form an algebra of sets.**  Filters that compile with the same scope compile with it when they are joined,
and find what all of them or one of them finds.  In a negated combinator each of them finds the other items of the store,
or of the space of the request, those included of which a compared attribute is unset; and negated twice, what it found
before. -/
theorem compile_algebra {ds : List Document} (hne : ds ≠ []) (h : ∀ d ∈ ds, r.CompilesIn d request scope)
    (treeView : Bool) :
    (∀ connective, r.CompilesIn (.joined connective ds treeView) request scope) ∧
      (∀ item, r.Finds (.joined .and ds treeView) request item ↔ ∀ d ∈ ds, r.Finds d request item) ∧
      (∀ item, r.Finds (.joined .or ds treeView) request item ↔ ∃ d ∈ ds, r.Finds d request item) ∧
      ∀ d ∈ ds, r.CompilesIn d.complement request scope ∧ r.CompilesIn d.complement.complement request scope ∧
        (∀ item, r.Finds d.complement request item ↔
          item ∈ r.store.items.entries ∧ r.Admits request item ∧ ¬r.Finds d request item) ∧
        ∀ item, r.Finds d.complement.complement request item ↔ r.Finds d request item := by
  refine ⟨compilesIn_joined hne h, finds_joined_and hne h, finds_joined_or hne h, ?_⟩
  intro d hd
  have hcomplement : r.CompilesIn d.complement request scope := compilesIn_complement (h d hd)
  exact ⟨hcomplement, compilesIn_complement hcomplement, finds_complement (h d hd),
    finds_complement_complement (h d hd)⟩

/-! ## A sprint of one space -/

def unplanned : WorkItem :=
  .new "1" ⟨⟨2023, 6, 1, 9, 0, 0, 0⟩, by decide⟩ "a" "bug" "Unplanned"

def besideSprint : Store :=
  .ofDataset ⟨[], [], [], [⟨"ia", "a", "Sprint"⟩], [], [], [],
    [unplanned, { unplanned with id := "2", iteration := some "ia" }, { unplanned with id := "3", space := "b" }]⟩

def elsewhere : Document :=
  ⟨.comparison ⟨"iteration.name", .ne, .text "Sprint", false⟩, false⟩

def calledOtherwise : Document :=
  ⟨.combinator .or [.comparison ⟨"title", .substr, .text "lanned", true⟩, .comparison ⟨"space", .eq, .text "a", false⟩]
    false, false⟩

theorem compile_algebra_unplanned :
    let r : Resolver := ⟨besideSprint, Conversion.standard, [], false⟩
    (∀ d ∈ [elsewhere, calledOtherwise], r.CompilesIn d (some "a") (.ofList ["a"])) ∧
      r.Finds calledOtherwise (some "a") unplanned ∧ ¬r.Finds elsewhere (some "a") unplanned ∧
      r.Finds elsewhere.complement (some "a") unplanned ∧
      r.Finds (.joined .or [elsewhere, calledOtherwise] true) (some "a") unplanned ∧
      ¬r.Finds (.joined .and [elsewhere, calledOtherwise] true) (some "a") unplanned := by
  intro r
  have hcompile : ∀ d ∈ [elsewhere, calledOtherwise], r.CompilesIn d (some "a") (.ofList ["a"]) := by
    intro d hd
    have hd : d = elsewhere ∨ d = calledOtherwise := by simpa using hd
    rcases hd with rfl | rfl
    · exact ⟨_, rfl, by decide +kernel⟩
    · exact ⟨_, rfl, by decide +kernel⟩
  obtain ⟨-, hand, hor, heach⟩ := compile_algebra (by decide) hcompile true
  have hfound : r.Finds calledOtherwise (some "a") unplanned := by decide +kernel
  have hmissed : ¬r.Finds elsewhere (some "a") unplanned := by decide +kernel
  refine ⟨hcompile, hfound, hmissed, ?_, ?_, ?_⟩
  · exact ((heach elsewhere List.mem_cons_self).2.2.1 unplanned).2
      ⟨by decide +kernel, by rintro raw hraw; cases hraw; rfl, hmissed⟩
  · exact (hor unplanned).2 ⟨calledOtherwise, by simp, hfound⟩
  · exact fun h => hmissed ((hand unplanned).1 h elsewhere List.mem_cons_self)

end Resolver
end Filter
end Backlog
