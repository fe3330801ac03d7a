import Backlog.Proofs.Filter.Acceptance
import Backlog.Proofs.Filter.Algebra
import Backlog.Proofs.Json.Canonical
/-!
# Retrieval — an item asked for by what is stored in it

A filter may ask for one value of a key.  It finds an item exactly if the stored form of that value is what the item has
(`Retrieves.identifier_iff`, `Retrieves.state_iff`).  What an item has is kept as it was given, though, and not put into
the stored form.  So an item is found by each of its identifiers that is in that form (`Retrieves.found`), and by its
state if the list of states has it in the same letters (`Retrieves.state_found`), but need not be found by any other.
-/
namespace Backlog
namespace Filter

def Key.identifying : List Key :=
  [.id, .space, .type, .workItemType, .iteration, .creator, .assignee, .label]

def Key.identifiers (item : WorkItem) : Key → List String
  | .id => [item.id]
  | .space => [item.space]
  | .type => [item.type]
  | .workItemType => [item.type]
  | .iteration => item.iteration.toList
  | .creator => item.creator.toList
  | .assignee => item.assignees.getD []
  | .label => item.labels.getD []
  | _ => []

namespace Document

def asking (key : Key) (v : String) : Document :=
  ⟨.comparison ⟨key.name, .eq, .text v, false⟩, false⟩

theorem ofJson_asking (key : Key) (v : String) : ofJson (.obj [(key.name, .str v)]) = .ok (asking key v) := by
  cases key <;> rfl

/-- **An object with a value under the name of a key** is read as the filter that asks for the value. -/
theorem ofText_asking (key : Key) (v : String) (layout : Json.Layout) :
    ofText (String.ofList ((Json.obj [(key.name, .str v)]).render layout)) = .ok (asking key v) := by
  have hdepth : (Json.obj [(key.name, .str v)]).depth ≤ Json.maxDepth := by
    simp [Json.depth, Json.depthOfMembers, Json.maxDepth]
  have hplain : (Json.obj [(key.name, .str v)]).isPlain = true := by cases key <;> rfl
  rw [ofText, Json.readEmbedded?_render layout rfl hdepth hplain]
  show (ofJson (.obj [(key.name, .str v)])).mapError _ = _
  rw [ofJson_asking]
  rfl

theorem isWellFormed_asking (key : Key) (v : String) : (asking key v).root.isWellFormed = true := by
  have hname : Comparison.isFieldName key.name = true := by cases key <;> decide
  rw [asking, Node.isWellFormed, Comparison.isWellFormed, hname]
  rfl

theorem comparisons_asking (key : Key) (v : String) :
    (asking key v).root.comparisons = [⟨key.name, .eq, .text v, false⟩] := rfl

variable {key : Key} {v : String} {s : Store} {states : List String} {item : WorkItem}

theorem selects_asking : (asking key v).Selects none s states item ↔
    ((asking key v).world none s states).OfKey item key .eq (.text v) := by
  simp [Selects, asking, Node.Holds, Comparison.Holds, NegateIf, Key.ofName?_name]

theorem covers_asking_label (space : String) : ((asking .label v).world none s states).Covers space := by
  rintro ⟨other, hnamed⟩
  rcases hnamed with ⟨raw, hraw, -⟩ | ⟨c, hc, hfield, -⟩
  · cases hraw
  · -- the only comparison is of labels, so no space is named and all of them count
    rw [comparisons_asking, List.mem_singleton] at hc
    subst hc
    have hname : Key.label.name = Key.space.name := hfield
    exact absurd hname (by decide)

/-- **A filter that asks for an identifier** selects the items that have the stored form of it, or a label with this
name. -/
theorem selects_asking_identifier (hkey : key ∈ Key.identifying) : (asking key v).Selects none s states item ↔
    Conversion.identifier v ∈ key.identifiers item ∨
      key = .label ∧ ∃ l ∈ s.labels.entries, l.name = v ∧ l.id ∈ key.identifiers item := by
  rw [selects_asking]
  cases key
  case label =>
    simp only [World.OfKey, OfMany, World.IsLabel, covers_asking_label, SameIdentifier, Key.identifiers, true_and]
    constructor
    · rintro ⟨id, hid, ⟨l, hl, rfl, hname⟩ | hsame⟩
      · exact .inr ⟨l, hl, hname, hid⟩
      · exact .inl (hsame ▸ hid)
    · rintro (hid | ⟨l, hl, hname, hid⟩)
      · exact ⟨_, hid, .inr rfl⟩
      · exact ⟨l.id, hid, .inl ⟨l, hl, rfl, hname⟩⟩
  all_goals simp [Key.identifying] at hkey
  all_goals simp [World.OfKey, OfOne, OfMany, SameIdentifier, Key.identifiers, eq_comm]

theorem of_refused_asking {m : World} {strict : Bool} {e : QueryError}
    (h : Comparison.Refused m strict ⟨key.name, .eq, .text v, false⟩ e) :
    key = .number ∨ key = .state ∧ ∀ state, ¬m.SameState v state := by
  have hname := Key.ofName?_name key
  cases h with
  | negatedNull hnegate => cases hnegate
  | unknownKey _ hkey => cases hname.symm.trans hkey
  | groupWithNull hkey => cases hname.symm.trans hkey
  | groupOperator hkey => cases hname.symm.trans hkey
  | groupNameWithNull _ hvalue => cases hvalue
  | noParts _ _ hoperator => cases hoperator
  | notANumber hkey => exact .inl (Option.some.inj (hname.symm.trans hkey))
  | notInList hkey _ hv hs =>
    rw [List.mem_singleton.1 hv] at hs
    exact .inr ⟨Option.some.inj (hname.symm.trans hkey), hs⟩

end Document

namespace Resolver

/-- The state that a value stands for: the first one that there is which differs from the value in letter case only. -/
def stateFor? (r : Resolver) (v : String) : Option String :=
  r.states.find? fun state => Conversion.equalIgnoringCase state.toList (Conversion.trimmed v)

/-- What is said of an item and the filters that ask for one value. -/
structure Retrieves (r : Resolver) (item : WorkItem) : Prop where
  /-- They are written as objects with the value under the name of the key. -/
  written : ∀ key v layout,
    Document.ofText (String.ofList ((Json.obj [(key.name, .str v)]).render layout)) = .ok (.asking key v)
  /-- One that asks for an identifier finds the item exactly if the item has the stored form of it, or a label that is
  named so. -/
  identifier_iff : ∀ key ∈ Key.identifying, ∀ v, r.Finds (.asking key v) none item ↔
    Conversion.identifier v ∈ key.identifiers item ∨
      key = .label ∧ ∃ l ∈ r.store.labels.entries, l.name = v ∧ l.id ∈ key.identifiers item
  /-- So the item is found by each of its identifiers that is in its stored form. -/
  found : ∀ key ∈ Key.identifying, ∀ v ∈ key.identifiers item, Conversion.identifier v = v →
    r.Finds (.asking key v) none item
  /-- One that asks for a state compiles exactly if there is such a state. -/
  compiles_iff : ∀ v, (∃ k, r.compile (.asking .state v) none = .ok k) ↔ ∃ state, r.stateFor? v = some state
  /-- It finds the item exactly if this is the state of the item. -/
  state_iff : ∀ v, r.Finds (.asking .state v) none item ↔ r.stateFor? v = some item.state
  /-- So the item is found by its state if that is listed in the same letters, without blanks at its ends, and before
  any other state that differs from it in letter case only. -/
  state_found : ∀ before after, r.states = before ++ item.state :: after →
    Conversion.trimmed item.state = item.state.toList →
    (∀ state ∈ before, Conversion.equalIgnoringCase state.toList item.state.toList = false) →
      r.Finds (.asking .state item.state) none item

variable {r : Resolver} {item : WorkItem}

theorem stateFor?_state {before after : List String} (h : r.states = before ++ item.state :: after)
    (htrimmed : Conversion.trimmed item.state = item.state.toList)
    (hbefore : ∀ state ∈ before, Conversion.equalIgnoringCase state.toList item.state.toList = false) :
    r.stateFor? item.state = some item.state := by
  have hnone : before.find? (fun state => Conversion.equalIgnoringCase state.toList item.state.toList) = none :=
    List.find?_eq_none.2 fun state hstate => ne_true_of_eq_false (hbefore state hstate)
  have hself : Conversion.equalIgnoringCase item.state.toList item.state.toList = true := beq_self_eq_true _
  rw [stateFor?, h, htrimmed, List.find?_append, hnone, Option.none_or, List.find?_cons, hself]

variable (hconv : r.convert = Conversion.standard)
include hconv

theorem finds_iff_selects {d : Document} {request : Option String} {k : Compiled} (h : r.compile d request = .ok k) :
    r.Finds d request item ↔ item ∈ r.store.items.entries ∧ d.Selects request r.store r.states item := by
  rw [← isMatch_compile hconv h, ← Store.mem_matchesOf]
  constructor
  · rintro ⟨k', hk', hitem⟩
    cases h.symm.trans hk'
    exact hitem
  · exact fun hitem => ⟨k, h, hitem⟩

theorem compile_asking {key : Key} {v : String} (hkey : key ≠ .number)
    (hstate : key = .state → ∃ state, r.stateFor? v = some state) : ∃ k, r.compile (.asking key v) none = .ok k := by
  rw [exists_compile_iff hconv (Document.isWellFormed_asking key v), Document.comparisons_asking]
  intro c hc e hrefused
  rw [List.mem_singleton] at hc
  subst hc
  rcases Document.of_refused_asking hrefused with hnumber | ⟨h, hnone⟩
  · exact hkey hnumber
  · obtain ⟨state, hsame⟩ := hstate h
    exact hnone state hsame

theorem compile_asking_state_iff {v : String} :
    (∃ k, r.compile (.asking .state v) none = .ok k) ↔ ∃ state, r.stateFor? v = some state := by
  refine ⟨fun hcompile => ?_, fun hstate => compile_asking hconv nofun fun _ => hstate⟩
  rw [exists_compile_iff hconv (Document.isWellFormed_asking .state v), Document.comparisons_asking] at hcompile
  rw [← Option.isSome_iff_exists, Option.isSome_iff_ne_none]
  -- without such a state the comparison is refused, and so is the filter
  intro hnone
  refine hcompile _ List.mem_cons_self _
    (.notInList (Key.ofName?_name .state) nofun List.mem_cons_self fun state hsame => ?_)
  cases hnone.symm.trans hsame

variable (hitem : item ∈ r.store.items.entries)
include hitem

theorem finds_asking_identifier {key : Key} (hkey : key ∈ Key.identifying) (v : String) :
    r.Finds (.asking key v) none item ↔ Conversion.identifier v ∈ key.identifiers item ∨
      key = .label ∧ ∃ l ∈ r.store.labels.entries, l.name = v ∧ l.id ∈ key.identifiers item := by
  obtain ⟨k, hk⟩ : ∃ k, r.compile (.asking key v) none = .ok k := by
    refine compile_asking hconv ?_ ?_
    · rintro rfl
      exact absurd hkey (by decide)
    · rintro rfl
      exact absurd hkey (by decide)
  rw [finds_iff_selects hconv hk, Document.selects_asking_identifier hkey, and_iff_right hitem]

theorem finds_asking_state (v : String) :
    r.Finds (.asking .state v) none item ↔ r.stateFor? v = some item.state := by
  constructor
  · rintro ⟨k, hk, hfound⟩
    obtain ⟨-, hselects⟩ := (finds_iff_selects hconv hk).1 ⟨k, hk, hfound⟩
    obtain ⟨state, hstate, hsame⟩ := Document.selects_asking.1 hselects
    cases hstate
    exact hsame
  · intro hstate
    obtain ⟨k, hk⟩ := (compile_asking_state_iff hconv).2 ⟨_, hstate⟩
    exact (finds_iff_selects hconv hk).2 ⟨hitem, Document.selects_asking.2 ⟨_, rfl, hstate⟩⟩

/-- **A stored item is retrieved** by the stored forms of its identifiers, and by its state as it is listed. -/
theorem retrieves_stored : r.Retrieves item where
  written := Document.ofText_asking
  identifier_iff _ hkey v := finds_asking_identifier hconv hitem hkey v
  found _ hkey v hv hform := (finds_asking_identifier hconv hitem hkey v).2 (.inl (hform.symm ▸ hv))
  compiles_iff _ := compile_asking_state_iff hconv
  state_iff v := finds_asking_state hconv hitem v
  state_found _ _ h htrimmed hbefore := (finds_asking_state hconv hitem _).2 (stateFor?_state h htrimmed hbefore)

omit hconv hitem

/-! ## An item kept as it was given -/

def asGiven : WorkItem :=
  { WorkItem.new "6A1B2C3D4E5F40718293A4B5C6D7E8F9" ⟨⟨2024, 1, 4, 0, 0, 0, 0⟩, by decide⟩ "a" "bug" "First" with
    state := "Open", assignees := some ["ann"], labels := some ["l1"] }

def keeping : Resolver :=
  ⟨.ofDataset ⟨[], [], [], [], [⟨"l1", "a", "backend"⟩], [], [], [asGiven]⟩, Conversion.standard, ["new", "open"], false⟩

theorem retrieves_stored_asGiven :
    keeping.convert = Conversion.standard ∧ asGiven ∈ keeping.store.items.entries ∧
      keeping.Finds (.asking .assignee "ann") none asGiven ∧ keeping.Finds (.asking .label "backend") none asGiven := by
  have hstored : asGiven ∈ keeping.store.items.entries := by decide +kernel
  have hretrieves : keeping.Retrieves asGiven := retrieves_stored rfl hstored
  refine ⟨rfl, hstored, ?_, ?_⟩
  · exact hretrieves.found .assignee (by decide) "ann" (by decide) (by decide)
  · exact (hretrieves.identifier_iff .label (by decide) "backend").2 (.inr ⟨rfl, by decide +kernel⟩)

/-- **An item need not be found by its own identifier**, nor by its state, though the filters compile. -/
theorem not_finds_asGiven :
    asGiven ∈ keeping.store.items.entries ∧ ¬keeping.Finds (.asking .id asGiven.id) none asGiven ∧
      (∃ k, keeping.compile (.asking .state asGiven.state) none = .ok k) ∧
      ¬keeping.Finds (.asking .state asGiven.state) none asGiven :=
  ⟨by decide +kernel, by decide +kernel, ⟨_, rfl⟩, by decide +kernel⟩

end Resolver
end Filter
end Backlog
