import Backlog.Proofs.Filter.Soundness
/-!
# Confinement — names are looked up in the scope only

A compiled filter holds identifiers in the place of names, and these are all that it takes over from the store.  They
come from three look-ups: of iterations, of labels and of groups (`SameLookups`).  Each of them passes over what is not
in the scope, so stores that hold the same in the spaces of the scope compile a filter alike, whatever else they hold
(`compile_confined`).
-/
namespace Backlog

/-- Whether two stores hold the same iterations, labels and groups in the spaces of a scope.  Groups of one name in one
space come in the same order too, since it is the first of them that counts. -/
structure Store.SameIn (scope : Filter.Scope) (s s' : Store) : Prop where
  iterations : ∀ i, scope.contains i.space = true → (i ∈ s.iterations.entries ↔ i ∈ s'.iterations.entries)
  labels : ∀ l, scope.contains l.space = true → (l ∈ s.labels.entries ↔ l ∈ s'.labels.entries)
  groups : ∀ space name, scope.contains space = true →
    s.groups.filter (fun g => g.space == space && g.name == name) =
      s'.groups.filter fun g => g.space == space && g.name == name

theorem Store.SameIn.symm {scope : Filter.Scope} {s s' : Store} (h : s.SameIn scope s') : s'.SameIn scope s where
  iterations i hi := (h.iterations i hi).symm
  labels l hl := (h.labels l hl).symm
  groups space name hspace := (h.groups space name hspace).symm

theorem Store.SameIn.group?_eq {scope : Filter.Scope} {s s' : Store} (h : s.SameIn scope s') {space : String}
    (hspace : scope.contains space = true) (name : String) : s.group? space name = s'.group? space name := by
  rw [group?, group?, ← List.head?_filter, ← List.head?_filter, h.groups space name hspace]

theorem Store.SameIn.of_filter_eq {scope : Filter.Scope} {s s' : Store}
    (hiterations : s.iterations.entries.filter (fun i => scope.contains i.space) =
      s'.iterations.entries.filter fun i => scope.contains i.space)
    (hlabels : s.labels.entries.filter (fun l => scope.contains l.space) =
      s'.labels.entries.filter fun l => scope.contains l.space)
    (hgroups : s.groups.filter (fun g => scope.contains g.space) = s'.groups.filter fun g => scope.contains g.space) :
    s.SameIn scope s' where
  iterations i hi := by
    have := congrArg (i ∈ ·) hiterations
    simpa only [List.mem_filter, hi, and_true, eq_iff_iff] using this
  labels l hl := by
    have := congrArg (l ∈ ·) hlabels
    simpa only [List.mem_filter, hl, and_true, eq_iff_iff] using this
  groups space name hspace := by
    have hinside : ∀ t : Store, t.groups.filter (fun g => g.space == space && g.name == name) =
        (t.groups.filter fun g => scope.contains g.space).filter fun g => g.space == space && g.name == name := fun t => by
      rw [List.filter_filter]
      refine List.filter_congr fun g _ => ?_
      cases hg : g.space == space with
      | false => rfl
      | true => rw [beq_iff_eq.1 hg, hspace, Bool.and_true]
    rw [hinside s, hinside s', hgroups]

theorem StringSet.ofList_map_filter_congr {α : Type} {id : α → String} {accept : α → Bool} {as bs : List α}
    (h : ∀ a, accept a = true → (a ∈ as ↔ a ∈ bs)) :
    (Registry.ofList ((as.filter accept).map id) : StringSet) = Registry.ofList ((bs.filter accept).map id) := by
  refine ext_contains fun k => ?_
  rw [Bool.eq_iff_iff, contains_ofList_map_filter, contains_ofList_map_filter]
  constructor
  · rintro ⟨a, ha, hid, haccept⟩
    exact ⟨a, (h a haccept).1 ha, hid, haccept⟩
  · rintro ⟨a, ha, hid, haccept⟩
    exact ⟨a, (h a haccept).2 ha, hid, haccept⟩

namespace Filter
namespace Resolver

/-! ## Compilation depends on look-ups only -/

/-- Whether two resolvers convert values alike and look up every name alike in a scope. -/
structure SameLookups (scope : Scope) (r r' : Resolver) : Prop where
  convert : r.convert = r'.convert
  states : r.states = r'.states
  strict : r.strict = r'.strict
  iterations : ∀ accept, r.iterationsWhere scope accept = r'.iterationsWhere scope accept
  labels : ∀ accept, r.labelsWhere scope accept = r'.labelsWhere scope accept
  members : ∀ name, membersIn r.store scope name = membersIn r'.store scope name

section

variable {r r' : Resolver} {scope : Scope} (h : SameLookups scope r r')
include h

theorem SameLookups.resolution_eq (name : String) : r.resolution scope name = r'.resolution scope name := by
  unfold resolution ofKey
  rw [h.members, h.strict, h.states]

theorem SameLookups.directTest_eq (c : Comparison) (kind : FieldKind) : r.directTest c kind = r'.directTest c kind := by
  unfold directTest
  rw [h.convert]

theorem SameLookups.labelsOfValue_eq (field value : String) :
    r.labelsOfValue scope field value = r'.labelsOfValue scope field value := by
  unfold labelsOfValue
  rw [h.convert, h.labels]

theorem SameLookups.resolvedPredicate_eq (c : Comparison) (s : Resolution) :
    r.resolvedPredicate scope c s = r'.resolvedPredicate scope c s := by
  cases s with
  | direct subject kind => simp only [resolvedPredicate, h.directTest_eq]
  | collection subject => simp only [resolvedPredicate, h.directTest_eq]
  | labelReference => simp only [resolvedPredicate, labelTest, funext (h.labelsOfValue_eq c.field), h.labels]
  | iterationName => simp only [resolvedPredicate, iterationNameTest, h.iterations]
  | labelName => simp only [resolvedPredicate, labelNameTest, h.labels]
  | typeGroupName => simp only [resolvedPredicate, funext h.members]
  | typeGroup name types => rfl

theorem SameLookups.comparisonPredicate_eq (c : Comparison) :
    r.comparisonPredicate scope c = r'.comparisonPredicate scope c := by
  unfold comparisonPredicate
  simp only [h.resolution_eq, h.resolvedPredicate_eq]

end

/-- **A filter is compiled alike** where names are looked up alike in its scope. -/
theorem compile_eq_of_sameLookups {r r' : Resolver} {d : Document} {request : Option String}
    (hconvert : r.convert = r'.convert)
    (h : ∀ scope, d.scopeUnder r.convert request = .ok scope → SameLookups scope r r') :
    r.compile d request = r'.compile d request := by
  have hconfine : r.confine request = r'.confine request := by
    unfold confine convertSpace
    rw [hconvert]
  rw [compile_eq_bind, compile_eq_bind, ← hconvert, ← hconfine]
  cases hscope : d.scopeUnder r.convert request with
  | error e => rfl
  | ok scope =>
    show Except.map _ (r.nodePredicate scope d.root) = Except.map _ (r'.nodePredicate scope d.root)
    rw [nodePredicate_congr d.root fun c _ => (h scope hscope).comparisonPredicate_eq c]

/-! ## Look-ups depend on the scope only -/

section

variable {r : Resolver} {s : Store} {scope : Scope} (h : r.store.SameIn scope s)
include h

theorem iterationsWhere_eq_of_sameIn (accept : String → Bool) :
    r.iterationsWhere scope accept = { r with store := s }.iterationsWhere scope accept :=
  StringSet.ofList_map_filter_congr fun i hi => h.iterations i (Bool.and_eq_true_iff.1 hi).1

theorem labelsWhere_eq_of_sameIn (accept : String → Bool) :
    r.labelsWhere scope accept = { r with store := s }.labelsWhere scope accept :=
  StringSet.ofList_map_filter_congr fun l hl => h.labels l (Bool.and_eq_true_iff.1 hl).1

theorem mem_groupsIn_of_sameIn {name : String} {g : TypeGroup} (hg : g ∈ groupsIn r.store scope name) :
    g ∈ groupsIn s scope name := by
  obtain ⟨hmem, hname, hcounts⟩ := mem_groupsIn.1 hg
  have hspace : scope.contains g.space = true :=
    (contains_iff_covers (r := r)).2 fun hsome => (hcounts hsome).1
  have hstored : g ∈ s.groups.filter fun g' => g'.space == g.space && g'.name == g.name := by
    rw [← h.groups g.space g.name hspace, List.mem_filter]
    exact ⟨hmem, by rw [beq_self_eq_true, beq_self_eq_true]; rfl⟩
  refine (mem_groupsIn (r := { r with store := s })).2 ⟨(List.mem_filter.1 hstored).1, hname, fun hsome => ?_⟩
  -- only the first group of a name in a space counts, and it is the first in the other store too
  obtain ⟨hnamed, hfirst⟩ := hcounts hsome
  exact ⟨hnamed, h.group?_eq hspace g.name ▸ hfirst⟩

/-- **The members of the groups with a name** are the same. -/
theorem membersIn_eq_of_sameIn (name : String) : membersIn r.store scope name = membersIn s scope name := by
  have hmem : ∀ g, g ∈ groupsIn r.store scope name ↔ g ∈ groupsIn s scope name := fun g =>
    ⟨mem_groupsIn_of_sameIn h, mem_groupsIn_of_sameIn (r := { r with store := s }) h.symm⟩
  -- without a scope the groups may come in another order, which neither the set of members nor its existence shows
  have htypes : collect ((groupsIn r.store scope name).map TypeGroup.types) =
      collect ((groupsIn s scope name).map TypeGroup.types) := by
    refine StringSet.ext_contains fun type => ?_
    rw [Bool.eq_iff_iff, collect, collect, StringSet.contains_ofList, StringSet.contains_ofList]
    simp only [List.contains_iff_mem, List.mem_flatten, List.mem_map, hmem]
  have hnil : groupsIn r.store scope name = [] ↔ groupsIn s scope name = [] := by
    simp only [List.eq_nil_iff_forall_not_mem, hmem]
  unfold membersIn
  cases hgroups : groupsIn r.store scope name with
  | nil => rw [hnil.1 hgroups]
  | cons g gs =>
    cases hgroups' : groupsIn s scope name with
    | nil => exact absurd (hnil.2 hgroups') (by rw [hgroups]; exact List.cons_ne_nil g gs)
    | cons g' gs' => exact congrArg some (hgroups ▸ hgroups' ▸ htypes)

theorem sameLookups_of_sameIn : SameLookups scope r { r with store := s } where
  convert := rfl
  states := rfl
  strict := rfl
  iterations := iterationsWhere_eq_of_sameIn h
  labels := labelsWhere_eq_of_sameIn h
  members := membersIn_eq_of_sameIn h

end

/-- **Nothing outside of its scope shows in a compiled filter.**  The scope of a filter follows from the filter, the
space of the request and the conversion of values.  Stores that hold the same iterations, labels and groups in the
spaces of that scope compile the filter to the same predicate, or refuse it with the same error, whatever they hold in
other spaces. -/
theorem compile_confined (r : Resolver) (s : Store) (d : Document) (request : Option String)
    (h : ∀ scope, d.scopeUnder r.convert request = .ok scope → r.store.SameIn scope s) :
    r.compile d request = { r with store := s }.compile d request ∧
      ∀ k, r.compile d request = .ok k → d.scopeUnder r.convert request = .ok k.scope :=
  ⟨compile_eq_of_sameLookups rfl fun scope hscope => sameLookups_of_sameIn (h scope hscope), fun _ => scope_of_compile⟩

/-! ## Two neighbours -/

def besideNamesakes : Store :=
  .ofDataset ⟨[], [], [⟨"work", "b", .requirement, ["task"]⟩, ⟨"work", "a", .requirement, ["bug"]⟩],
    [⟨"ia", "a", "Sprint 1"⟩, ⟨"ib", "b", "Sprint 1"⟩], [⟨"la", "a", "red"⟩, ⟨"lb", "b", "red"⟩], [], [], []⟩

/-- The same space beside one that has a group of another name only. -/
def besideStrangers : Store :=
  .ofDataset ⟨[], [], [⟨"work", "a", .requirement, ["bug"]⟩, ⟨"play", "c", .requirement, ["game"]⟩],
    [⟨"ia", "a", "Sprint 1"⟩], [⟨"la", "a", "red"⟩], [], [], []⟩

/-- What is not in the space `a`, or has a label, an iteration or a group that is known there. -/
def outsideOrKnown : Document :=
  ⟨.combinator .or
    [.combinator .and [.comparison ⟨"space", .eq, .text "a", false⟩] true,
      .comparison ⟨"label", .isIn, .texts ["red"], false⟩, .comparison ⟨"label.name", .ne, .text "red", true⟩,
      .comparison ⟨"iteration.name", .substr, .text "print", false⟩,
      .comparison ⟨"typegroup.name", .eq, .text "work", false⟩, .comparison ⟨"play", .eq, .text "", false⟩] false, false⟩

theorem sameIn_besideNamesakes : besideNamesakes.SameIn (.ofList ["a"]) besideStrangers :=
  .of_filter_eq (by decide +kernel) (by decide +kernel) (by decide +kernel)

theorem compile_confined_outsideOrKnown :
    let r : Resolver := ⟨besideNamesakes, Conversion.standard, [], false⟩
    (∀ scope, outsideOrKnown.scopeUnder r.convert none = .ok scope → r.store.SameIn scope besideStrangers) ∧
      r.compile outsideOrKnown none = { r with store := besideStrangers }.compile outsideOrKnown none ∧
        ∀ k, r.compile outsideOrKnown none = .ok k → outsideOrKnown.scopeUnder r.convert none = .ok k.scope :=
  have h : ∀ scope, outsideOrKnown.scopeUnder Conversion.standard none = .ok scope →
      besideNamesakes.SameIn scope besideStrangers := fun _ hscope =>
    Except.ok.inj hscope ▸ sameIn_besideNamesakes
  ⟨h, compile_confined ⟨besideNamesakes, Conversion.standard, [], false⟩ besideStrangers outsideOrKnown none h⟩

end Resolver
end Filter
end Backlog
