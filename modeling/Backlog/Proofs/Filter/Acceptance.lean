import Backlog.Filter.References
import Backlog.Proofs.Filter.Soundness
/-!
# Acceptance — which filters compile, and why the others do not

A filter compiles unless one of its comparisons is refused, and a comparison is refused for what it says itself: what
stands beside it, or how deep, does not matter.  `Comparison.Refused` lists the reasons.  They presuppose that the
operator has a meaning for the value, which reading sees to, so that "no meaning" is not among them; and but for null
negated, only the number, the state and the two kinds of groups can give a reason at all.

Compilation looks at the comparisons from left to right and fails at the first that is refused
(`Resolver.of_compile_eq_error`).
-/
namespace Backlog
namespace Filter

/-- **Why a comparison is refused**, and with which error. -/
inductive Comparison.Refused (m : World) (strict : Bool) (c : Comparison) : QueryError → Prop
  /-- It asks for the opposite of null. -/
  | negatedNull (hnegate : c.negate = true) (hvalue : c.value = .null) :
    Refused m strict c (.invalidCombination (.negatedNull c.field))
  /-- Its field is no key, no group has that name, and such names are not let through. -/
  | unknownKey (hstrict : strict = true) (hkey : Key.ofName? c.field = none)
    (hgroup : ¬∃ g ∈ m.store.groups, g.name = c.field ∧ m.Counts g) : Refused m strict c (.unknownKey c.field)
  /-- Its field is no key, and its value is null. -/
  | groupWithNull (hkey : Key.ofName? c.field = none) (hvalue : c.value = .null) :
    Refused m strict c (.invalidCombination (.groupWithNull c.field))
  /-- Its field is no key, and it asks neither for the group nor for a difference. -/
  | groupOperator (hkey : Key.ofName? c.field = none) (heq : c.operator ≠ .eq) (hne : c.operator ≠ .ne) :
    Refused m strict c (.invalidCombination (.groupOperator c.field))
  /-- It compares the name of a group with null. -/
  | groupNameWithNull (hkey : Key.ofName? c.field = some .typeGroupName) (hvalue : c.value = .null) :
    Refused m strict c (.invalidCombination (.nullUnsupported c.field))
  /-- It asks for a part of what has no parts. -/
  | noParts {key : Key} (hkey : Key.ofName? c.field = some key) (hparts : key = .number ∨ key = .typeGroupName)
    (hoperator : c.operator = .substr) : Refused m strict c (.invalidCombination (.substrUnsupported c.field))
  /-- It compares the number with something that is none. -/
  | notANumber {v : String} (hkey : Key.ofName? c.field = some .number) (hoperator : c.operator ≠ .substr)
    (hv : v ∈ c.value.allTexts) (hn : ∀ n, ¬SameNumber v n) :
    Refused m strict c (.invalidCombination (.notANumber v c.field))
  /-- It compares the state with something that is none. -/
  | notInList {v : String} (hkey : Key.ofName? c.field = some .state) (hoperator : c.operator ≠ .substr)
    (hv : v ∈ c.value.allTexts) (hs : ∀ state, ¬m.SameState v state) :
    Refused m strict c (.invalidCombination (.notInList v c.field m.states))

namespace Resolver

variable {r : Resolver} {scope : Scope} {c : Comparison} {e : QueryError}

/-! ## Tests -/

theorem of_directTest_eq_ok {kind : FieldKind} {t : Test} (h : r.directTest c kind = .ok t) :
    (kind = .number → c.operator ≠ .substr) ∧
      (c.operator ≠ .substr → ∀ v ∈ c.value.allTexts, ∃ x, r.convert c.field kind v = .ok x) := by
  unfold directTest at h
  split at h
  · next hv =>
    refine ⟨fun _ ho => ?_, fun _ v hmem => ?_⟩
    · rw [Comparison.nullTest, ho] at h
      cases h
    · rw [hv] at hmem
      cases hmem
  · next v ho hv =>
    obtain ⟨x, hx, -⟩ := Outcome.map_eq_ok.1 h
    refine ⟨fun _ => by simp [ho], fun _ w hw => ?_⟩
    rw [hv] at hw
    exact List.mem_singleton.1 hw ▸ ⟨x, hx⟩
  · next v ho hv =>
    obtain ⟨x, hx, -⟩ := Outcome.map_eq_ok.1 h
    refine ⟨fun _ => by simp [ho], fun _ w hw => ?_⟩
    rw [hv] at hw
    exact List.mem_singleton.1 hw ▸ ⟨x, hx⟩
  · next vs ho hv =>
    obtain ⟨xs, hxs, -⟩ := Outcome.map_eq_ok.1 h
    refine ⟨fun _ => by simp [ho], fun _ w hw => ?_⟩
    rw [hv] at hw
    exact Outcome.mapM_eq_ok.1 ⟨xs, hxs⟩ w hw
  · next v ho hv =>
    split at h
    · cases h
    · next hkind => exact ⟨fun hk => (hkind hk).elim, fun hne => (hne ho).elim⟩
  · cases h

/-- A test of stored values is refused because there are no parts, or because the conversion refuses a value. -/
theorem of_directTest_eq_error {kind : FieldKind} (hpairs : Comparison.pairs c.operator c.value = true)
    (h : r.directTest c kind = .error e) :
    kind = .number ∧ c.operator = .substr ∧ e = .invalidCombination (.substrUnsupported c.field) ∨
      c.operator ≠ .substr ∧ ∃ v ∈ c.value.allTexts, r.convert c.field kind v = .error e := by
  obtain ⟨field, operator, value, negate⟩ := c
  cases operator <;> cases value <;> cases hpairs
  case eq.text v => exact .inr ⟨nofun, v, List.mem_cons_self, Outcome.map_eq_error.1 h⟩
  case eq.null => cases h
  case ne.text v => exact .inr ⟨nofun, v, List.mem_cons_self, Outcome.map_eq_error.1 h⟩
  case ne.null => cases h
  case isIn.texts vs =>
    obtain ⟨before, v, after, rfl, -, he⟩ := Outcome.mapM_eq_error (Outcome.map_eq_error.1 h)
    exact .inr ⟨nofun, v, List.mem_append_right before List.mem_cons_self, he⟩
  case substr.text v =>
    unfold directTest at h
    dsimp only at h
    split at h
    · next hkind =>
      cases h
      exact .inl ⟨hkind, rfl, rfl⟩
    · cases h

theorem joinTest_ne_error {ofValue : String → Except QueryError StringSet} {ofPart : String → StringSet}
    (hpairs : Comparison.pairs c.operator c.value = true) (hof : ∀ v, ofValue v ≠ .error e) :
    joinTest c ofValue ofPart ≠ .error e := by
  intro h
  obtain ⟨field, operator, value, negate⟩ := c
  cases operator <;> cases value <;> cases hpairs
  case eq.text v => exact hof v (Outcome.map_eq_error.1 h)
  case eq.null => cases h
  case ne.text v => exact hof v (Outcome.map_eq_error.1 h)
  case ne.null => cases h
  case isIn.texts vs =>
    obtain ⟨-, v, -, -, -, he⟩ := Outcome.mapM_eq_error (Outcome.map_eq_error.1 h)
    exact hof v he
  case substr.text v => cases h

/-! ## Groups -/

theorem of_groupNames_eq_ok {names : List String} (h : groupNames c = .ok names) :
    c.value ≠ .null ∧ c.operator ≠ .substr := by
  unfold groupNames at h
  split at h
  · cases h
  · cases h
  · next ho hv => simp [ho, hv]
  · next ho hv => simp [ho, hv]
  · next ho hv => simp [ho, hv]
  · cases h

theorem of_groupNames_eq_error (hpairs : Comparison.pairs c.operator c.value = true) (h : groupNames c = .error e) :
    c.value = .null ∧ e = .invalidCombination (.nullUnsupported c.field) ∨
      c.operator = .substr ∧ e = .invalidCombination (.substrUnsupported c.field) := by
  obtain ⟨field, operator, value, negate⟩ := c
  cases operator <;> cases value <;> cases hpairs <;> cases h
  case eq.null => exact .inl ⟨rfl, rfl⟩
  case ne.null => exact .inl ⟨rfl, rfl⟩
  case substr.text => exact .inr ⟨rfl, rfl⟩

theorem of_compileGroup_eq_ok {name : String} {types : Option StringSet} {p : Predicate}
    (h : compileGroup c name types = .ok p) : c.value ≠ .null ∧ (c.operator = .eq ∨ c.operator = .ne) := by
  unfold compileGroup at h
  split at h
  · cases h
  · next hv =>
    refine ⟨hv, ?_⟩
    cases ho : c.operator with
    | eq => exact .inl rfl
    | ne => exact .inr rfl
    | isIn => cases types <;> rw [ho] at h <;> cases h
    | substr => cases types <;> rw [ho] at h <;> cases h

theorem of_compileGroup_eq_error {name : String} {types : Option StringSet} (h : compileGroup c name types = .error e) :
    c.value = .null ∧ e = .invalidCombination (.groupWithNull name) ∨
      c.operator ≠ .eq ∧ c.operator ≠ .ne ∧ e = .invalidCombination (.groupOperator name) := by
  unfold compileGroup at h
  split at h
  · next hv =>
    cases h
    exact .inl ⟨hv, rfl⟩
  · cases ho : c.operator <;> cases types <;> rw [ho] at h <;> cases h
    all_goals exact .inr ⟨nofun, nofun, rfl⟩

theorem membersIn_eq_none_iff {name : String} :
    membersIn r.store scope name = none ↔
      ¬∃ g ∈ r.store.groups, g.name = name ∧ (r.world scope).Counts g := by
  have hgroups : (∃ g ∈ r.store.groups, g.name = name ∧ (r.world scope).Counts g) ↔
      ∃ g, g ∈ groupsIn r.store scope name := by simp only [mem_groupsIn]
  rw [hgroups, membersIn]
  cases groupsIn r.store scope name with
  | nil => simp
  | cons g gs => simp

/-! ## Comparisons -/

section

variable (hconv : r.convert = Conversion.standard)
include hconv

theorem convert_identifier_ne_error (field v : String) : r.convert field .identifier v ≠ .error e := by
  rw [hconv]
  nofun

theorem directTest_ne_error {kind : FieldKind} (hpairs : Comparison.pairs c.operator c.value = true)
    (hkind : kind = .identifier ∨ kind = .text) : r.directTest c kind ≠ .error e := by
  intro h
  rcases of_directTest_eq_error hpairs h with ⟨hnumber, -⟩ | ⟨-, v, -, hv⟩
  · rcases hkind with rfl | rfl <;> cases hnumber
  · rw [hconv] at hv
    rcases hkind with rfl | rfl <;> cases hv

/-- **A comparison with a key that is not compiled is refused.** -/
theorem refused_of_ofKey {key : Key} (hkey : Key.ofName? c.field = some key)
    (hpairs : Comparison.pairs c.operator c.value = true)
    (h : r.resolvedPredicate scope c (r.ofKey key) = .error e) : c.Refused (r.world scope) r.strict e := by
  have hdirect : ∀ {kind : FieldKind}, kind = .identifier ∨ kind = .text → r.directTest c kind = .error e →
      c.Refused (r.world scope) r.strict e := fun hkind hd => (directTest_ne_error hconv hpairs hkind hd).elim
  cases key <;> have h := Outcome.bind_pure_eq_error.1 h
  case number =>
    rcases of_directTest_eq_error hpairs h with ⟨-, ho, rfl⟩ | ⟨ho, v, hv, he⟩
    · exact .noParts hkey (.inl rfl) ho
    · rw [hconv, Conversion.standard] at he
      split at he
      · cases he
      · next hnone =>
        cases he
        refine .notANumber hkey ho hv fun n hn => ?_
        cases hnone.symm.trans hn
  case state =>
    rcases of_directTest_eq_error hpairs h with ⟨hkind, -⟩ | ⟨ho, v, hv, he⟩
    · cases hkind
    · rw [hconv, Conversion.standard] at he
      split at he
      · cases he
      · next hnone =>
        cases he
        refine .notInList hkey ho hv fun state hs => ?_
        cases hnone.symm.trans hs
  case label =>
    refine (joinTest_ne_error hpairs (fun v hv => ?_) h).elim
    exact convert_identifier_ne_error hconv c.field v (Outcome.bind_pure_eq_error.1 hv)
  case iterationName =>
    rw [iterationNameTest] at h
    exact (joinTest_ne_error hpairs (fun v hv => by cases hv) h).elim
  case labelName =>
    rw [labelNameTest] at h
    exact (joinTest_ne_error hpairs (fun v hv => by cases hv) h).elim
  case typeGroupName =>
    rcases of_groupNames_eq_error hpairs h with ⟨hv, rfl⟩ | ⟨ho, rfl⟩
    · exact .groupNameWithNull hkey hv
    · exact .noParts hkey (.inr rfl) ho
  all_goals exact hdirect (by simp) h

/-- **A comparison that is not compiled is refused.** -/
theorem refused_of_comparisonPredicate (hpairs : Comparison.pairs c.operator c.value = true)
    (h : r.comparisonPredicate scope c = .error e) : c.Refused (r.world scope) r.strict e := by
  unfold comparisonPredicate at h
  split at h
  · next hnull =>
    cases h
    rw [Bool.and_eq_true, decide_eq_true_eq] at hnull
    exact .negatedNull hnull.1 hnull.2
  cases hkey : Key.ofName? c.field with
  | some key =>
    rw [resolution_of_key hkey] at h
    exact refused_of_ofKey hconv hkey hpairs (Outcome.bind_pure_eq_error.1 h)
  | none =>
    rw [resolution_of_not_key hkey] at h
    split at h
    · next hstrict =>
      cases h
      rw [Bool.and_eq_true, Option.isNone_iff_eq_none, membersIn_eq_none_iff] at hstrict
      exact .unknownKey hstrict.2 hkey hstrict.1
    · rcases of_compileGroup_eq_error (Outcome.bind_pure_eq_error.1 h) with ⟨hv, rfl⟩ | ⟨heq, hne, rfl⟩
      · exact .groupWithNull hkey hv
      · exact .groupOperator hkey heq hne

theorem convert_of_resolvedPredicate {key : Key} {kind : FieldKind} {subject : Attribute} {p : Predicate}
    (hkind : r.ofKey key = .direct subject kind) (h : r.resolvedPredicate scope c (r.ofKey key) = .ok p)
    (ho : c.operator ≠ .substr) {v : String} (hv : v ∈ c.value.allTexts) :
    ∃ x, Conversion.standard c.field kind v = .ok x := by
  rw [hkind] at h
  obtain ⟨t, ht, -⟩ := Outcome.bind_eq_ok.1 h
  exact hconv ▸ (of_directTest_eq_ok ht).2 ho v hv

/-- **A comparison with a key that is compiled is not refused**, unless it asks for the opposite of null. -/
theorem not_refused_of_ofKey {key : Key} {p : Predicate} (hnull : ¬(c.negate = true ∧ c.value = .null))
    (hkey : Key.ofName? c.field = some key) (h : r.resolvedPredicate scope c (r.ofKey key) = .ok p) (e : QueryError) :
    ¬c.Refused (r.world scope) r.strict e := by
  intro hrefused
  cases hrefused with
  | negatedNull hnegate hvalue => exact hnull ⟨hnegate, hvalue⟩
  | unknownKey _ hnone _ => cases hkey.symm.trans hnone
  | groupWithNull hnone _ => cases hkey.symm.trans hnone
  | groupOperator hnone _ _ => cases hkey.symm.trans hnone
  | groupNameWithNull hname hvalue =>
    cases hkey.symm.trans hname
    obtain ⟨names, hnames, -⟩ := Outcome.bind_eq_ok.1 h
    exact (of_groupNames_eq_ok hnames).1 hvalue
  | noParts hsome hparts hoperator =>
    cases hkey.symm.trans hsome
    rcases hparts with rfl | rfl
    · obtain ⟨t, ht, -⟩ := Outcome.bind_eq_ok.1 h
      exact (of_directTest_eq_ok ht).1 rfl hoperator
    · obtain ⟨names, hnames, -⟩ := Outcome.bind_eq_ok.1 h
      exact (of_groupNames_eq_ok hnames).2 hoperator
  | notANumber hnumber hoperator hv hn =>
    cases hkey.symm.trans hnumber
    obtain ⟨x, hx⟩ := convert_of_resolvedPredicate hconv rfl h hoperator hv
    rw [Conversion.standard] at hx
    split at hx
    · next n hnumber => exact hn n hnumber
    · cases hx
  | notInList hstate hoperator hv hs =>
    cases hkey.symm.trans hstate
    obtain ⟨x, hx⟩ := convert_of_resolvedPredicate hconv rfl h hoperator hv
    rw [Conversion.standard] at hx
    split at hx
    · next state hstate => exact hs state hstate
    · cases hx

omit hconv in
/-- **A comparison with a group's name as its field that is compiled is not refused**, unless it asks for the opposite
of null. -/
theorem not_refused_of_compileGroup {p : Predicate} (hnull : ¬(c.negate = true ∧ c.value = .null))
    (hkey : Key.ofName? c.field = none) (hstrict : ¬((membersIn r.store scope c.field).isNone && r.strict) = true)
    (h : compileGroup c c.field (membersIn r.store scope c.field) = .ok p) (e : QueryError) :
    ¬c.Refused (r.world scope) r.strict e := by
  obtain ⟨hvalue, hoperator⟩ := of_compileGroup_eq_ok h
  intro hrefused
  cases hrefused with
  | negatedNull hnegate hvalue' => exact hnull ⟨hnegate, hvalue'⟩
  | unknownKey hstrict' _ hgroup => exact hstrict (by simp [hstrict', membersIn_eq_none_iff.2 hgroup])
  | groupWithNull _ hvalue' => exact hvalue hvalue'
  | groupOperator _ heq hne => exact hoperator.elim heq hne
  | groupNameWithNull hname _ => cases hkey.symm.trans hname
  | noParts hsome _ _ => cases hkey.symm.trans hsome
  | notANumber hnumber _ _ _ => cases hkey.symm.trans hnumber
  | notInList hstate _ _ _ => cases hkey.symm.trans hstate

/-- **A comparison that is compiled is not refused.** -/
theorem not_refused_of_comparisonPredicate {p : Predicate} (h : r.comparisonPredicate scope c = .ok p)
    (e : QueryError) : ¬c.Refused (r.world scope) r.strict e := by
  obtain ⟨hnull, q, -, hq⟩ := of_comparisonPredicate_eq_ok h
  rcases hq with ⟨key, hkey, hq⟩ | ⟨hkey, hstrict, hq⟩
  · exact not_refused_of_ofKey hconv hnull hkey hq e
  · exact not_refused_of_compileGroup hnull hkey hstrict hq e

end

/-! ## Conditions and filters -/

mutual

theorem nodePredicate_eq_error_iff :
    ∀ (n : Node) (e : QueryError),
      r.nodePredicate scope n = .error e ↔ n.comparisons.mapM (r.comparisonPredicate scope) = .error e
  | .comparison c, e => by
    rw [nodePredicate, Node.comparisons, List.mapM_cons, List.mapM_nil]
    exact Outcome.bind_pure_eq_error.symm
  | .combinator connective children negate, e => by
    rw [nodePredicate, Node.comparisons, Outcome.bind_pure_eq_error]
    exact nodePredicates_eq_error_iff children e

theorem nodePredicates_eq_error_iff :
    ∀ (ns : List Node) (e : QueryError), r.nodePredicates scope ns = .error e ↔
      (Node.comparisonsOfAll ns).mapM (r.comparisonPredicate scope) = .error e
  | [], e => by
    rw [nodePredicates, Node.comparisonsOfAll, List.mapM_nil]
  | n :: ns, e => by
    rw [nodePredicates, Node.comparisonsOfAll, List.mapM_append, Outcome.both_eq_error, Outcome.both_eq_error,
      nodePredicates_eq_error_iff ns e]
    simp only [ne_eq, nodePredicate_eq_error_iff n]

end

end Resolver

mutual

theorem Node.isWellFormed_of_mem : ∀ (n : Node), n.isWellFormed = true → ∀ c ∈ n.comparisons, c.isWellFormed = true
  | .comparison c, h, b, hb => by
    rw [comparisons, List.mem_singleton] at hb
    rwa [hb]
  | .combinator _ children _, h, b, hb => by
    rw [isWellFormed, Bool.and_eq_true] at h
    exact areWellFormed_of_mem children h.2 b hb

theorem Node.areWellFormed_of_mem :
    ∀ (ns : List Node), areWellFormed ns = true → ∀ c ∈ comparisonsOfAll ns, c.isWellFormed = true
  | [], _, b, hb => by cases hb
  | n :: ns, h, b, hb => by
    obtain ⟨hn, hns⟩ := Bool.and_eq_true_iff.1 h
    rw [comparisonsOfAll, List.mem_append] at hb
    exact hb.elim (isWellFormed_of_mem n hn b) (areWellFormed_of_mem ns hns b)

end

namespace Resolver

variable {r : Resolver} {d : Document} {request : Option String}

/-- A comparison of a filter that can be written is compiled exactly when it is not refused. -/
theorem exists_comparisonPredicate_iff (hconv : r.convert = Conversion.standard) (h : d.root.isWellFormed = true)
    {c : Comparison} (hc : c ∈ d.root.comparisons) :
    (∃ p, r.comparisonPredicate (d.scope request) c = .ok p) ↔
      ∀ e, ¬c.Refused (d.world request r.store r.states) r.strict e := by
  rw [← world_scope]
  constructor
  · rintro ⟨p, hp⟩ e
    exact not_refused_of_comparisonPredicate hconv hp e
  · intro hc'
    rw [Outcome.exists_eq_ok_iff]
    have hpairs := (Bool.and_eq_true_iff.1 (d.root.isWellFormed_of_mem h c hc)).2
    exact fun e he => hc' e (refused_of_comparisonPredicate hconv hpairs he)

/-- **A filter compiles** exactly when none of its comparisons is refused. -/
theorem exists_compile_iff (hconv : r.convert = Conversion.standard) (h : d.root.isWellFormed = true) :
    (∃ k, r.compile d request = .ok k) ↔
      ∀ c ∈ d.root.comparisons, ∀ e, ¬c.Refused (d.world request r.store r.states) r.strict e := by
  have hlist : (∃ k, r.compile d request = .ok k) ↔
      ∃ ps, d.root.comparisons.mapM (r.comparisonPredicate (d.scope request)) = .ok ps := by
    rw [Outcome.exists_eq_ok_iff, Outcome.exists_eq_ok_iff, compile_eq_map hconv]
    simp only [ne_eq, Outcome.map_eq_error, nodePredicate_eq_error_iff]
  rw [hlist, Outcome.mapM_eq_ok]
  exact forall₂_congr fun c hc => exists_comparisonPredicate_iff hconv h hc

/-- **A filter that does not compile** fails with an error of the first of its comparisons that is refused. -/
theorem of_compile_eq_error (hconv : r.convert = Conversion.standard) (h : d.root.isWellFormed = true) {e : QueryError}
    (he : r.compile d request = .error e) :
    ∃ before c after, d.root.comparisons = before ++ c :: after ∧
      (∀ b ∈ before, ∀ e, ¬b.Refused (d.world request r.store r.states) r.strict e) ∧
      c.Refused (d.world request r.store r.states) r.strict e := by
  rw [compile_eq_map hconv, Outcome.map_eq_error, nodePredicate_eq_error_iff] at he
  obtain ⟨before, c, after, hsplit, hbefore, hc⟩ := Outcome.mapM_eq_error he
  have hmem : ∀ b ∈ before ++ c :: after, b ∈ d.root.comparisons := fun b hb => hsplit.symm ▸ hb
  refine ⟨before, c, after, hsplit, fun b hb => ?_, ?_⟩
  · exact (exists_comparisonPredicate_iff hconv h (hmem b (List.mem_append_left _ hb))).1 (hbefore b hb)
  · have hform := d.root.isWellFormed_of_mem h c (hmem c (List.mem_append_right before List.mem_cons_self))
    rw [← world_scope]
    exact refused_of_comparisonPredicate hconv (Bool.and_eq_true_iff.1 hform).2 hc

end Resolver
end Filter
end Backlog
