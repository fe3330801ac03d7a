import Backlog.Proofs.Filter.Meaning
import Backlog.Proofs.Filter.Scope
import Backlog.Proofs.Predicate.Matching
/-!
# Soundness — the predicate of a filter says what the filter says

The predicate that a condition is compiled to matches exactly the items of which the condition holds
(`isMatch_nodePredicate`), in the world of the resolver that compiled it.  The induction over the tree is short; what
there is to show is that every test says what its comparison says (`Expresses`), be it about one value or several, and
that the sets of identifiers in the tests hold what has the name that was asked for.
-/
namespace Backlog

namespace StringSet

theorem contains_foldl_union (k : String) :
    ∀ (sets : List StringSet) (s : StringSet),
      (sets.foldl union s).contains k = true ↔ s.contains k = true ∨ ∃ t ∈ sets, t.contains k = true
  | [], s => by simp
  | t :: sets, s => by
    rw [List.foldl_cons, contains_foldl_union k sets, contains_union]
    simp only [Bool.or_eq_true, List.contains_iff_mem, ← contains_iff_mem, List.mem_cons, exists_eq_or_imp]
    rw [or_comm (a := t.contains k = true), or_assoc]

theorem contains_empty (k : String) : (Registry.empty : StringSet).contains k = false := rfl

theorem contains_ofList_map_filter {α : Type} {id : α → String} {accept : α → Bool} {entries : List α} {k : String} :
    (Registry.ofList ((entries.filter accept).map id) : StringSet).contains k = true ↔
      ∃ a ∈ entries, id a = k ∧ accept a = true := by
  rw [contains_ofList, List.contains_iff_mem, List.mem_map]
  simp only [List.mem_filter, and_assoc]
  exact exists_congr fun a => and_congr_right fun _ => and_comm

end StringSet

namespace Filter

theorem isPart_iff {part whole : String} : Text.occursIn part whole = true ↔ IsPart part whole :=
  Text.occursIn_iff

/-! ## Tests -/

theorem ofOne_map {α β : Type} (same part : String → β → Prop) (f : α → β) (has : Option α) (o : Operator) (v : Value) :
    OfOne same part (has.map f) o v ↔ OfOne (fun w x => same w (f x)) (fun w x => part w (f x)) has o v := by
  cases has <;> cases o <;> cases v <;> simp [OfOne]

/-- A test that is met when a comparison holds, whether an item has one value at most or any number of them. -/
structure Expresses (same part : String → String → Prop) (t : Test) (o : Operator) (v : Value) : Prop where
  one : ∀ has : Option String, has.elim t.ofUnset.isHolds t.ofValue = true ↔ OfOne same part has o v
  many : ∀ has : List String, t.ofValues has = true ↔ OfMany same part has o v

section

variable {same part : String → String → Prop}

theorem Expresses.congr {same' part' : String → String → Prop} {t : Test} {o : Operator} {v : Value}
    (h : Expresses same part t o v) (hs : ∀ w x, same w x ↔ same' w x) (hp : ∀ w x, part w x ↔ part' w x) :
    Expresses same' part' t o v := by
  have hs' : same = same' := funext fun w => funext fun x => propext (hs w x)
  have hp' : part = part' := funext fun w => funext fun x => propext (hp w x)
  exact hs' ▸ hp' ▸ h

theorem Expresses.isMatch_single {t : Test} {o : Operator} {v : Value} (h : Expresses same part t o v)
    {subject : Attribute} {item : WorkItem} {has : Option String} (hc : subject.content item = .single has) :
    (Predicate.leaf ⟨subject, t⟩).isMatch item = true ↔ OfOne same part has o v := by
  rw [Predicate.isMatch_single hc, h.one]

theorem Expresses.isMatch_several {t : Test} {o : Operator} {v : Value} (h : Expresses same part t o v)
    {subject : Attribute} {item : WorkItem} {has : List String} (hc : subject.content item = .several has) :
    (Predicate.leaf ⟨subject, t⟩).isMatch item = true ↔ OfMany same part has o v := by
  rw [Predicate.isMatch_several hc, h.many]

theorem expresses_isNull : Expresses same part .isNull .eq .null :=
  ⟨fun has => by cases has <;> simp [Test.ofUnset, Test.ofValue, Truth.isHolds, OfOne],
    fun has => by simp [Test.ofValues, OfMany]⟩

theorem expresses_isNotNull : Expresses same part .isNotNull .ne .null :=
  ⟨fun has => by cases has <;> simp [Test.ofUnset, Test.ofValue, Truth.isHolds, OfOne],
    fun has => by simp [Test.ofValues, OfMany]⟩

theorem expresses_of_any {t : Test} {o : Operator} {v : Value} {p : String → Prop}
    (hone : ∀ has : Option String, OfOne same part has o v ↔ ∃ x ∈ has, p x)
    (hmany : ∀ has : List String, OfMany same part has o v ↔ ∃ x ∈ has, p x)
    (hunset : t.ofUnset = .unknown) (hvalue : ∀ x, t.ofValue x = true ↔ p x)
    (hvalues : ∀ xs, t.ofValues xs = xs.any t.ofValue) : Expresses same part t o v := by
  refine ⟨fun has => ?_, fun has => ?_⟩
  · rw [hone]
    cases has <;> simp [hunset, hvalue, Truth.isHolds]
  · rw [hmany, hvalues, List.any_eq_true]
    simp only [hvalue]

/-- A test for values without some property expresses a comparison that asks for a difference. -/
theorem expresses_of_none {t : Test} {v : String} (hunset : t.ofUnset = .unknown)
    (hvalue : ∀ x, t.ofValue x = false ↔ same v x) (hvalues : ∀ xs, t.ofValues xs = xs.all t.ofValue) :
    Expresses same part t .ne (.text v) := by
  have hvalue' : ∀ x, t.ofValue x = true ↔ ¬same v x := fun x => by rw [← hvalue, Bool.not_eq_false]
  refine ⟨fun has => ?_, fun has => ?_⟩
  · cases has <;> simp [OfOne, hunset, hvalue', Truth.isHolds]
  · rw [hvalues, List.all_eq_true]
    simp [OfMany, hvalue']

theorem expresses_nullTest {c : Comparison} {t : Test} (h : c.nullTest = .ok t) :
    Expresses same part t c.operator .null := by
  unfold Comparison.nullTest at h
  split at h
  · next ho =>
    cases h
    rw [ho]
    exact expresses_isNull
  · next ho =>
    cases h
    rw [ho]
    exact expresses_isNotNull
  · cases h

end

namespace Resolver

/-- **A test of stored values** compares them with what its values are converted to. -/
theorem expresses_directTest {r : Resolver} {c : Comparison} {kind : FieldKind} {t : Test}
    (h : r.directTest c kind = .ok t) :
    Expresses (fun v x => r.convert c.field kind v = .ok x) (fun v x => kind ≠ .number ∧ IsPart v x) t c.operator
      c.value := by
  unfold directTest at h
  split at h
  · next hv => exact hv ▸ expresses_nullTest h
  · next v ho hv =>
    obtain ⟨w, hw, rfl⟩ := Outcome.map_eq_ok.1 h
    rw [ho, hv]
    refine expresses_of_any (fun _ => .rfl) (fun _ => .rfl) rfl (fun x => ?_) fun _ => rfl
    simp only [Test.ofValue, beq_iff_eq, hw, Except.ok.injEq]
    exact eq_comm
  · next v ho hv =>
    obtain ⟨w, hw, rfl⟩ := Outcome.map_eq_ok.1 h
    rw [ho, hv]
    refine expresses_of_none rfl (fun x => ?_) fun xs => ?_
    · simp only [Test.ofValue, bne_eq_false_iff_eq, hw, Except.ok.injEq]
      exact eq_comm
    · rw [Test.ofValues, List.not_any_eq_all_not]
      rfl
  · next vs ho hv =>
    obtain ⟨ws, hws, rfl⟩ := Outcome.map_eq_ok.1 h
    rw [ho, hv]
    refine expresses_of_any (fun _ => .rfl) (fun _ => .rfl) rfl (fun x => ?_) fun _ => rfl
    rw [Test.ofValue, StringSet.contains_ofList, List.contains_iff_mem, Outcome.mem_of_mapM_eq_ok hws]
  · next v ho hv =>
    split at h
    · cases h
    · next hk =>
      cases h
      rw [ho, hv]
      refine expresses_of_any (fun _ => .rfl) (fun _ => .rfl) rfl (fun x => ?_) fun _ => rfl
      rw [Test.ofValue, Text.occursIn_iff]
      exact ⟨fun h => ⟨hk, h⟩, And.right⟩
  · cases h

/-- **A test of identifiers** looks for those that its values stand for. -/
theorem expresses_joinTest {c : Comparison} {ofValue : String → Except QueryError StringSet}
    {ofPart : String → StringSet} {t : Test} (h : joinTest c ofValue ofPart = .ok t) :
    Expresses (fun v x => ∃ ids, ofValue v = .ok ids ∧ ids.contains x = true)
      (fun v x => (ofPart v).contains x = true) t c.operator c.value := by
  unfold joinTest at h
  split at h
  · next hv => exact hv ▸ expresses_nullTest h
  · next v ho hv =>
    obtain ⟨ids, hids, rfl⟩ := Outcome.map_eq_ok.1 h
    rw [ho, hv]
    exact expresses_of_any (fun _ => .rfl) (fun _ => .rfl) rfl (by simp [Test.ofValue, hids]) fun _ => rfl
  · next v ho hv =>
    obtain ⟨ids, hids, rfl⟩ := Outcome.map_eq_ok.1 h
    rw [ho, hv]
    refine expresses_of_none rfl (by simp [Test.ofValue, hids]) fun xs => ?_
    rw [Test.ofValues, List.not_any_eq_all_not]
    rfl
  · next vs ho hv =>
    obtain ⟨sets, hsets, rfl⟩ := Outcome.map_eq_ok.1 h
    rw [ho, hv]
    refine expresses_of_any (fun _ => .rfl) (fun _ => .rfl) rfl (fun x => ?_) fun _ => rfl
    rw [Test.ofValue, StringSet.contains_foldl_union, StringSet.contains_empty]
    simp only [Outcome.mem_of_mapM_eq_ok hsets, Bool.false_eq_true, false_or]
    constructor
    · rintro ⟨ids, ⟨v, hv, hids⟩, hx⟩
      exact ⟨v, hv, ids, hids, hx⟩
    · rintro ⟨v, hv, ids, hids, hx⟩
      exact ⟨ids, ⟨v, hv, hids⟩, hx⟩
  · next v ho hv =>
    cases h
    rw [ho, hv]
    exact expresses_of_any (fun _ => .rfl) (fun _ => .rfl) rfl (fun _ => .rfl) fun _ => rfl
  · cases h

/-! ## Names -/

def world (r : Resolver) (scope : Scope) : World :=
  ⟨r.store, r.states, fun space => scope.spaces.contains space = true⟩

variable {r : Resolver} {scope : Scope}

theorem isUnrestricted_eq_true_iff : scope.isUnrestricted = true ↔ ¬∃ space, scope.spaces.contains space = true := by
  rw [Scope.isUnrestricted, Registry.isEmpty, List.isEmpty_iff, List.eq_nil_iff_forall_not_mem, not_exists]
  simp only [StringSet.contains_iff_mem]

theorem contains_iff_covers {space : String} : scope.contains space = true ↔ (r.world scope).Covers space := by
  rw [Scope.contains, Bool.or_eq_true, isUnrestricted_eq_true_iff, World.Covers, world]
  by_cases h : ∃ other, scope.spaces.contains other = true
  · exact ⟨fun hor _ => hor.resolve_left fun hnone => hnone h, fun himp => .inr (himp h)⟩
  · exact ⟨fun _ hsome => (h hsome).elim, fun _ => .inl h⟩

theorem contains_iterationsWhere {accept : String → Bool} {id : String} :
    (r.iterationsWhere scope accept).contains id = true ↔
      (r.world scope).IsIteration (fun name => accept name = true) id := by
  rw [iterationsWhere, StringSet.contains_ofList_map_filter]
  simp only [Bool.and_eq_true, contains_iff_covers (r := r)]
  rfl

theorem contains_labelsWhere {accept : String → Bool} {id : String} :
    (r.labelsWhere scope accept).contains id = true ↔
      (r.world scope).IsLabel (fun name => accept name = true) id := by
  rw [labelsWhere, StringSet.contains_ofList_map_filter]
  simp only [Bool.and_eq_true, contains_iff_covers (r := r)]
  rfl

/-- **The groups with a name in a scope** are those that count. -/
theorem mem_groupsIn {name : String} {g : TypeGroup} :
    g ∈ groupsIn r.store scope name ↔ g ∈ r.store.groups ∧ g.name = name ∧ (r.world scope).Counts g := by
  unfold groupsIn World.Counts world
  by_cases h : ∃ other, scope.spaces.contains other = true
  · have hrestricted : ¬scope.isUnrestricted = true := fun hu => isUnrestricted_eq_true_iff.1 hu h
    rw [if_neg hrestricted, List.mem_filterMap]
    simp only [← StringSet.contains_iff_mem]
    constructor
    · rintro ⟨space, hspace, hg⟩
      have hkeys := List.find?_some hg
      simp only [Bool.and_eq_true, beq_iff_eq] at hkeys
      obtain ⟨rfl, rfl⟩ := hkeys
      exact ⟨List.mem_of_find?_eq_some hg, rfl, fun _ => ⟨hspace, hg⟩⟩
    · rintro ⟨-, rfl, hcounts⟩
      obtain ⟨hspace, hg⟩ := hcounts h
      exact ⟨g.space, hspace, hg⟩
  · rw [if_pos (isUnrestricted_eq_true_iff.2 h)]
    simp [Store.groupsNamed, h]

theorem exists_membersIn_iff {s : Store} {name type : String} :
    (∃ types, membersIn s scope name = some types ∧ types.contains type = true) ↔
      ∃ g ∈ groupsIn s scope name, type ∈ g.types := by
  rw [membersIn]
  cases groupsIn s scope name with
  | nil => simp
  | cons g gs =>
    simp only [Option.some.injEq, exists_eq_left', collect, StringSet.contains_ofList, List.contains_iff_mem,
      List.mem_flatten, List.mem_map]
    constructor
    · rintro ⟨_, ⟨h, hh, rfl⟩, ht⟩
      exact ⟨h, hh, ht⟩
    · rintro ⟨h, hh, ht⟩
      exact ⟨h.types, ⟨h, hh, rfl⟩, ht⟩

/-- **The members of the groups with a name**, if there are such groups. -/
theorem isMember_iff {name type : String} :
    (r.world scope).IsMember name type ↔
      ∃ types, membersIn r.store scope name = some types ∧ types.contains type = true := by
  rw [exists_membersIn_iff]
  simp only [World.IsMember, mem_groupsIn, world, and_assoc]

/-! ## Comparisons -/

section

variable {c : Comparison} {t : Test} (hconv : r.convert = Conversion.standard)
include hconv

theorem expresses_identifier (h : r.directTest c .identifier = .ok t) :
    Expresses SameIdentifier IsPart t c.operator c.value :=
  (expresses_directTest h).congr (fun v x => by rw [hconv, Conversion.standard, Except.ok.injEq, SameIdentifier])
    fun v x => ⟨And.right, fun hp => ⟨nofun, hp⟩⟩

theorem expresses_text (h : r.directTest c .text = .ok t) : Expresses (· = ·) IsPart t c.operator c.value :=
  (expresses_directTest h).congr (fun v x => by rw [hconv, Conversion.standard, Except.ok.injEq])
    fun v x => ⟨And.right, fun hp => ⟨nofun, hp⟩⟩

theorem expresses_state (h : r.directTest c (.enumeration r.states) = .ok t) :
    Expresses (r.world scope).SameState IsPart t c.operator c.value := by
  refine (expresses_directTest h).congr (fun v x => ?_) fun v x => ⟨And.right, fun hp => ⟨nofun, hp⟩⟩
  rw [hconv, Conversion.standard, World.SameState, world]
  cases r.states.find? _ <;> simp

theorem expresses_labelTest (h : r.labelTest scope c = .ok t) :
    Expresses (fun v id => (r.world scope).IsLabel (· = v) id ∨ SameIdentifier v id)
      (fun v => (r.world scope).IsLabel (IsPart v)) t c.operator c.value := by
  refine (expresses_joinTest h).congr (fun v x => ?_) fun v x => ?_
  · have hids :
        r.labelsOfValue scope c.field v = .ok ((r.labelsWhere scope (· == v)).insert (Conversion.identifier v)) := by
      rw [labelsOfValue, hconv]
      rfl
    simp only [hids, Except.ok.injEq, exists_eq_left', StringSet.contains_insert, Bool.or_eq_true, beq_iff_eq,
      contains_labelsWhere]
    exact or_comm
  · simp only [contains_labelsWhere, isPart_iff]

/-- The number of an item is compared as a number, though what is stored of it in a test is its text. -/
theorem isMatch_numberTest (h : r.directTest c .number = .ok t) (item : WorkItem) :
    (Predicate.leaf ⟨.number, t⟩).isMatch item = true ↔
      OfOne SameNumber (fun _ _ => False) (some item.number.toNat) c.operator c.value := by
  have hs : ∀ v n, Conversion.standard c.field .number v = .ok (Text.decimal n) ↔ SameNumber v n := fun v n => by
    rw [Conversion.standard, SameNumber]
    cases Text.readWord? (Conversion.trimmed v) with
    | none => simp
    | some k => simp only [Except.ok.injEq, Option.some.injEq, Text.decimal_inj]
  have hcontent : Attribute.number.content item = .single ((some item.number.toNat).map Text.decimal) := rfl
  rw [(expresses_directTest h).isMatch_single hcontent, ofOne_map, hconv]
  simp only [hs, ne_eq, not_true_eq_false, false_and]

end

theorem expresses_iterationNameTest {c : Comparison} {t : Test} (h : r.iterationNameTest scope c = .ok t) :
    Expresses (fun v => (r.world scope).IsIteration (· = v)) (fun v => (r.world scope).IsIteration (IsPart v)) t
      c.operator c.value := by
  refine (expresses_joinTest h).congr (fun v x => ?_) fun v x => ?_
  · simp only [Except.ok.injEq, exists_eq_left', contains_iterationsWhere, beq_iff_eq]
  · simp only [contains_iterationsWhere, isPart_iff]

theorem expresses_labelNameTest {c : Comparison} {t : Test} (h : r.labelNameTest scope c = .ok t) :
    Expresses (fun v => (r.world scope).IsLabel (· = v)) (fun v => (r.world scope).IsLabel (IsPart v)) t
      c.operator c.value := by
  refine (expresses_joinTest h).congr (fun v x => ?_) fun v x => ?_
  · simp only [Except.ok.injEq, exists_eq_left', contains_labelsWhere, beq_iff_eq]
  · simp only [contains_labelsWhere, isPart_iff]

/-! ## Groups -/

/-- The test for membership in groups asks whether the type is a member of one of them, or of none. -/
theorem isMatch_groupsPredicate (operator : Operator) (names : List String) (item : WorkItem) :
    (groupsPredicate operator (names.map (membersIn r.store scope))).isMatch item = true ↔
      if operator = .ne then ¬∃ name ∈ names, (r.world scope).IsMember name item.type
      else ∃ name ∈ names, (r.world scope).IsMember name item.type := by
  have htypes : (((names.map (membersIn r.store scope)).filterMap id).foldl StringSet.union .empty).contains item.type =
      true ↔ ∃ name ∈ names, (r.world scope).IsMember name item.type := by
    simp only [StringSet.contains_foldl_union, StringSet.contains_empty, Bool.false_eq_true, false_or, isMember_iff,
      List.mem_filterMap, List.mem_map, id_eq]
    constructor
    · rintro ⟨types, ⟨_, ⟨name, hname, rfl⟩, htypes⟩, hcontains⟩
      exact ⟨name, hname, types, htypes, hcontains⟩
    · rintro ⟨name, hname, types, htypes, hcontains⟩
      exact ⟨types, ⟨_, ⟨name, hname, rfl⟩, htypes⟩, hcontains⟩
  unfold groupsPredicate
  split
  · rw [Predicate.isMatch_type, ← htypes]
    simp [Test.ofValue]
  · split
    · next hall =>
      rw [Predicate.isMatch_const]
      simp only [List.all_eq_true, List.mem_map, Option.isNone_iff_eq_none] at hall
      refine ⟨nofun, fun ⟨name, hname, hmember⟩ => ?_⟩
      obtain ⟨types, htypes, -⟩ := isMember_iff.1 hmember
      rw [hall _ ⟨name, hname, rfl⟩] at htypes
      cases htypes
    · rw [Predicate.isMatch_type, ← htypes]
      rfl

/-- **A comparison of the names of groups** asks whether the type is a member of such a group. -/
theorem isMatch_groupNames {c : Comparison} {names : List String} (h : groupNames c = .ok names) (item : WorkItem) :
    (groupsPredicate c.operator (names.map (membersIn r.store scope))).isMatch item = true ↔
      OfOne (r.world scope).IsMember (fun _ _ => False) (some item.type) c.operator c.value := by
  rw [isMatch_groupsPredicate]
  unfold groupNames at h
  split at h <;> cases h
  · next ho hv => simp [ho, hv, OfOne]
  · next ho hv => simp [ho, hv, OfOne]
  · next ho hv => simp [ho, hv, OfOne]

/-- **A comparison with a group's name as its field** asks whether the type is a member of the group. -/
theorem isMatch_compileGroup {c : Comparison} {name : String} {p : Predicate}
    (h : compileGroup c name (membersIn r.store scope name) = .ok p) (item : WorkItem) :
    p.isMatch item = true ↔ (r.world scope).OfGroup item name c.operator := by
  unfold compileGroup at h
  split at h
  · cases h
  split at h <;> cases h
  · next types ho htypes =>
    rw [Predicate.isMatch_type, ho, World.OfGroup, isMember_iff, htypes]
    simp [Test.ofValue]
  · next types ho htypes =>
    rw [Predicate.isMatch_type, ho, World.OfGroup, isMember_iff, htypes]
    simp [Test.ofValue]
  · next ho htypes => simp [ho, World.OfGroup, isMember_iff, htypes]
  · next ho htypes => simp [ho, World.OfGroup, isMember_iff, htypes]

/-! ## Conditions -/

theorem resolution_of_key {field : String} {key : Key} (hkey : Key.ofName? field = some key) :
    r.resolution scope field = .ok (r.ofKey key) := by
  rw [resolution, hkey]

/-- A field that is no key is looked up among the groups, and may be refused if there is none. -/
theorem resolution_of_not_key {field : String} (hkey : Key.ofName? field = none) :
    r.resolution scope field = if (membersIn r.store scope field).isNone && r.strict then
      .error (.unknownKey field) else .ok (.typeGroup field (membersIn r.store scope field)) := by
  rw [resolution, hkey]

/-- **What a comparison went through that is compiled**: it does not ask for the opposite of null, its field is a key or
may be the name of a group, and there is a predicate for what the field is. -/
theorem of_comparisonPredicate_eq_ok {c : Comparison} {p : Predicate} (h : r.comparisonPredicate scope c = .ok p) :
    ¬(c.negate = true ∧ c.value = .null) ∧ ∃ q, p = q.negateIf c.negate ∧
      ((∃ key, Key.ofName? c.field = some key ∧ r.resolvedPredicate scope c (r.ofKey key) = .ok q) ∨
        Key.ofName? c.field = none ∧ ¬((membersIn r.store scope c.field).isNone && r.strict) = true ∧
          compileGroup c c.field (membersIn r.store scope c.field) = .ok q) := by
  unfold comparisonPredicate at h
  split at h
  · cases h
  next hnull =>
  rw [Bool.and_eq_true, decide_eq_true_eq] at hnull
  obtain ⟨s, hs, h⟩ := Outcome.bind_eq_ok.1 h
  obtain ⟨q, hq, h⟩ := Outcome.bind_eq_ok.1 h
  cases h
  refine ⟨hnull, q, rfl, ?_⟩
  cases hkey : Key.ofName? c.field with
  | some key =>
    rw [resolution_of_key hkey] at hs
    cases hs
    exact .inl ⟨key, rfl, hq⟩
  | none =>
    rw [resolution_of_not_key hkey] at hs
    split at hs
    · cases hs
    · next hstrict =>
      cases hs
      exact .inr ⟨rfl, hstrict, hq⟩

theorem isMatch_negateIf_iff {q : Predicate} {item : WorkItem} {s : Prop} (negate : Bool)
    (h : q.isMatch item = true ↔ s) : (q.negateIf negate).isMatch item = true ↔ NegateIf negate s := by
  rw [Predicate.isMatch_negateIf, NegateIf, ← h]
  cases negate <;> simp

section

variable (hconv : r.convert = Conversion.standard)
include hconv

/-- **A comparison with a key** is compiled to what it says of an item. -/
theorem isMatch_ofKey {c : Comparison} {p : Predicate} (key : Key)
    (h : r.resolvedPredicate scope c (r.ofKey key) = .ok p) (item : WorkItem) :
    p.isMatch item = true ↔ (r.world scope).OfKey item key c.operator c.value := by
  cases key <;> obtain ⟨t, ht, h⟩ := Outcome.bind_eq_ok.1 h <;> cases h
  case id => exact (expresses_identifier hconv ht).isMatch_single rfl
  case number => exact isMatch_numberTest hconv ht item
  case space => exact (expresses_identifier hconv ht).isMatch_single rfl
  case state => exact (expresses_state hconv ht).isMatch_single rfl
  case type => exact (expresses_identifier hconv ht).isMatch_single rfl
  case workItemType => exact (expresses_identifier hconv ht).isMatch_single rfl
  case title => exact (expresses_text hconv ht).isMatch_single rfl
  case description => exact (expresses_text hconv ht).isMatch_single rfl
  case iteration => exact (expresses_identifier hconv ht).isMatch_single rfl
  case creator => exact (expresses_identifier hconv ht).isMatch_single rfl
  case assignee => exact (expresses_identifier hconv ht).isMatch_several rfl
  case label => exact (expresses_labelTest hconv ht).isMatch_several rfl
  case iterationName => exact (expresses_iterationNameTest ht).isMatch_single rfl
  case labelName => exact (expresses_labelNameTest ht).isMatch_several rfl
  case typeGroupName => exact isMatch_groupNames ht item

theorem isMatch_comparisonPredicate {c : Comparison} {p : Predicate} (h : r.comparisonPredicate scope c = .ok p)
    (item : WorkItem) : p.isMatch item = true ↔ c.Holds (r.world scope) item := by
  obtain ⟨-, q, rfl, hq⟩ := of_comparisonPredicate_eq_ok h
  refine isMatch_negateIf_iff c.negate ?_
  rcases hq with ⟨key, hkey, hq⟩ | ⟨hkey, -, hq⟩
  · rw [hkey]
    exact isMatch_ofKey hconv key hq item
  · rw [hkey]
    exact isMatch_compileGroup hq item

end

mutual

/-- **The predicate of a condition matches the items of which the condition holds.** -/
theorem isMatch_nodePredicate (hconv : r.convert = Conversion.standard) (item : WorkItem) :
    ∀ (n : Node) {p : Predicate}, r.nodePredicate scope n = .ok p →
      (p.isMatch item = true ↔ n.Holds (r.world scope) item)
  | .comparison c, _, h => by
    rw [nodePredicate] at h
    rw [Node.Holds]
    exact isMatch_comparisonPredicate hconv h item
  | .combinator connective children negate, _, h => by
    rw [nodePredicate] at h
    obtain ⟨ps, hps, h⟩ := Outcome.bind_eq_ok.1 h
    cases h
    obtain ⟨hall, hany⟩ := isMatch_nodePredicates hconv item children hps
    cases connective with
    | and =>
      rw [Node.Holds]
      exact isMatch_negateIf_iff negate (by rw [joined, Predicate.isMatch_and, hall])
    | or =>
      rw [Node.Holds]
      exact isMatch_negateIf_iff negate (by rw [joined, Predicate.isMatch_or, hany])

theorem isMatch_nodePredicates (hconv : r.convert = Conversion.standard) (item : WorkItem) :
    ∀ (ns : List Node) {ps : List Predicate}, r.nodePredicates scope ns = .ok ps →
      (ps.all (·.isMatch item) = true ↔ Node.AllHold (r.world scope) item ns) ∧
        (ps.any (·.isMatch item) = true ↔ Node.SomeHolds (r.world scope) item ns)
  | [], _, h => by
    rw [nodePredicates] at h
    cases h
    simp [Node.AllHold, Node.SomeHolds]
  | n :: ns, _, h => by
    rw [nodePredicates] at h
    obtain ⟨p, hp, h⟩ := Outcome.bind_eq_ok.1 h
    obtain ⟨ps, hps, h⟩ := Outcome.bind_eq_ok.1 h
    cases h
    have hn := isMatch_nodePredicate hconv item n hp
    obtain ⟨hall, hany⟩ := isMatch_nodePredicates hconv item ns hps
    rw [List.all_cons, List.any_cons, Bool.and_eq_true, Bool.or_eq_true, Node.AllHold, Node.SomeHolds, hn, hall, hany]
    exact ⟨.rfl, .rfl⟩

end

/-! ## Documents -/

theorem mem_requestedSpaces {c : Comparison} {v : String} :
    v ∈ c.requestedSpaces ↔ c.field = Key.space.name ∧ c.negate = false ∧
      (c.operator = .eq ∧ c.value = .text v ∨ c.operator = .isIn ∧ ∃ vs, c.value = .texts vs ∧ v ∈ vs) := by
  unfold Comparison.requestedSpaces
  by_cases hf : c.field = Key.space.name <;> cases hn : c.negate <;> simp [hf]
  split
  · next w ho hv => simp [ho, hv, eq_comm]
  · next ws ho hv => simp [ho, hv]
  · next heq hin =>
    refine ⟨fun hv => (List.not_mem_nil hv).elim, ?_⟩
    rintro (⟨ho, hv⟩ | ⟨ho, vs, hv, -⟩)
    · exact (heq _ ho hv).elim
    · exact (hin _ ho hv).elim

end Resolver

namespace Document

def scope (d : Document) (request : Option String) : Scope :=
  let asked := Scope.ofList ((d.root.comparisons.flatMap Comparison.requestedSpaces).map Conversion.identifier)
  request.elim asked fun raw => asked.insert (Conversion.identifier raw)

theorem scope_eq_ofList (d : Document) (request : Option String) :
    d.scope request = .ofList ((d.namedSpaces request).map Conversion.identifier) := by
  cases request with
  | none => rfl
  | some raw => exact (Scope.ofList_cons _ _).symm

theorem scopeUnder_standard (d : Document) (request : Option String) :
    d.scopeUnder Conversion.standard request = .ok (d.scope request) := by
  have hconvert : Conversion.standard Key.space.name .identifier = fun raw => pure (Conversion.identifier raw) := rfl
  rw [scopeUnder, hconvert, List.mapM_pure, scope_eq_ofList]
  rfl

theorem contains_scope {d : Document} {request : Option String} {space : String} :
    (d.scope request).spaces.contains space = true ↔ d.Names request space := by
  have hasked : (Scope.ofList ((d.root.comparisons.flatMap Comparison.requestedSpaces).map
      Conversion.identifier)).spaces.contains space = true ↔ ∃ c ∈ d.root.comparisons, c.AsksFor space := by
    rw [Scope.ofList, StringSet.contains_ofList, List.contains_iff_mem, List.mem_map]
    simp only [List.mem_flatMap, Resolver.mem_requestedSpaces, Comparison.AsksFor]
    constructor
    · rintro ⟨v, ⟨c, hc, hf, hn, hv⟩, hs⟩
      exact ⟨c, hc, hf, hn, v, hs, hv⟩
    · rintro ⟨c, hc, hf, hn, v, hs, hv⟩
      exact ⟨v, ⟨c, hc, hf, hn, hv⟩, hs⟩
  cases request with
  | none =>
    rw [scope, Option.elim_none, hasked]
    simp [Names]
  | some raw =>
    rw [scope, Option.elim_some, Scope.insert, StringSet.contains_insert, Bool.or_eq_true, hasked]
    simp [Names, SameIdentifier]

end Document

namespace Resolver

variable {r : Resolver}

theorem world_scope (r : Resolver) (d : Document) (request : Option String) :
    r.world (d.scope request) = d.world request r.store r.states := by
  rw [world, Document.world, funext fun space => propext (Document.contains_scope)]

def confined (request : Option String) (p : Predicate) : Predicate :=
  request.elim p fun raw => .and [.leaf ⟨.space, .eq (Conversion.identifier raw)⟩, p]

/-- **Compilation** with the standard conversion: the scope is that of the filter, and only its condition can be
refused. -/
theorem compile_eq_map (hconv : r.convert = Conversion.standard) (d : Document) (request : Option String) :
    r.compile d request = (r.nodePredicate (d.scope request) d.root).map fun p =>
      ⟨confined request p, d.scope request, d.treeView⟩ := by
  have hconfine : r.confine request = confined request := by
    cases request with
    | none => rfl
    | some raw =>
      have hraw : r.convertSpace raw = .ok (Conversion.identifier raw) := by
        rw [convertSpace, hconv]
        rfl
      exact funext fun p => confine_some hraw p
  rw [compile_eq_bind, hconv, d.scopeUnder_standard, hconfine]
  rfl

theorem treeView_of_compile (hconv : r.convert = Conversion.standard) {d : Document} {request : Option String}
    {k : Compiled} (h : r.compile d request = .ok k) : k.treeView = d.treeView := by
  rw [compile_eq_map hconv] at h
  obtain ⟨p, -, rfl⟩ := Outcome.map_eq_ok.1 h
  rfl

/-- **The predicate of a filter matches the items that the filter selects.** -/
theorem isMatch_compile (hconv : r.convert = Conversion.standard) {d : Document} {request : Option String}
    {k : Compiled} (h : r.compile d request = .ok k) (item : WorkItem) :
    k.predicate.isMatch item = true ↔ d.Selects request r.store r.states item := by
  rw [compile_eq_map hconv] at h
  obtain ⟨p, hp, rfl⟩ := Outcome.map_eq_ok.1 h
  have hroot := isMatch_nodePredicate hconv item d.root hp
  rw [world_scope] at hroot
  cases request with
  | none =>
    rw [confined, Option.elim_none, hroot]
    simp [Document.Selects]
  | some raw =>
    have hspace : (Predicate.leaf ⟨.space, .eq (Conversion.identifier raw)⟩).isMatch item = true ↔
        SameIdentifier raw item.space := by
      rw [Predicate.isMatch_space, SameIdentifier, Test.ofValue, beq_iff_eq, eq_comm]
    rw [confined, Option.elim_some, Predicate.isMatch_and, List.all_cons, List.all_cons, List.all_nil, Bool.and_true,
      Bool.and_eq_true, hspace, hroot]
    simp [Document.Selects]

end Resolver
end Filter
end Backlog
