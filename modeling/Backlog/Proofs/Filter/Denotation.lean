import Backlog.Proofs.Filter.Exchange
/-!
# Denotation — what the text of a comparison stands for

Keys differ in how a text is looked up: it is converted, or taken for the name of iterations, labels or type groups.
What comes of it is the same for all of them, namely a set of values of one attribute (`Resolver.denoted`), and so is
what is done with the set.  A comparison for equality asks for an item that has one of these values, one for a difference
asks for an item that has the attribute and none of them (`matcher_text`), and one with several texts asks for a value in
one of their sets (`matcher_isIn`).

A comparison sees nothing of an item but that attribute, so a condition sees nothing but those of its comparisons
(`isMatch_congr_of_nodePredicate`).
-/
namespace Backlog

theorem StringSet.contains_singleton (v x : String) : (Registry.ofList [v] : StringSet).contains x = (x == v) := by
  rw [contains_ofList, List.contains_cons, List.contains_nil, Bool.or_false]

namespace Content

def values : Content → List String
  | single value => value.toList
  | several values => values

/-- Whether there is no value where there could be one. -/
def isUnset : Content → Bool
  | single none => true
  | _ => false

def meets (c : Content) (set : StringSet) : Bool :=
  c.values.any set.contains

theorem meets_iff {c : Content} {set : StringSet} : c.meets set = true ↔ ∃ v ∈ c.values, set.contains v = true :=
  List.any_eq_true

theorem meets_empty (c : Content) : c.meets .empty = false := by
  simp [meets, StringSet.contains_empty]

theorem meets_ofList (c : Content) (vs : List String) :
    c.meets (.ofList vs) = vs.any fun v => c.meets (.ofList [v]) := by
  rw [Bool.eq_iff_iff, List.any_eq_true]
  simp only [meets_iff, StringSet.contains_ofList, List.contains_iff_mem, List.mem_singleton]
  constructor
  · rintro ⟨v, hv, hmem⟩
    exact ⟨v, hmem, v, hv, rfl⟩
  · rintro ⟨v, hmem, _, hv, rfl⟩
    exact ⟨_, hv, hmem⟩

theorem meets_foldl_union (c : Content) (sets : List StringSet) :
    c.meets (sets.foldl StringSet.union .empty) = sets.any c.meets := by
  rw [Bool.eq_iff_iff, List.any_eq_true]
  simp only [meets_iff, StringSet.contains_foldl_union, StringSet.contains_empty, Bool.false_eq_true, false_or]
  constructor
  · rintro ⟨v, hv, set, hset, hmem⟩
    exact ⟨set, hset, v, hv, hmem⟩
  · rintro ⟨set, hset, v, hv, hmem⟩
    exact ⟨v, hv, set, hset, hmem⟩

end Content

namespace Predicate

variable {t : Test} {set : StringSet}

theorem isMatch_leaf (subject : Attribute) (t : Test) (item : WorkItem) :
    (leaf ⟨subject, t⟩).isMatch item = (t.evaluate (subject.content item)).isHolds := by
  rw [isMatch, evaluate, Condition.evaluate]

theorem isMatch_eq_meets (hunset : t.ofUnset = .unknown) (hvalue : ∀ v, t.ofValue v = set.contains v)
    (hvalues : ∀ vs, t.ofValues vs = vs.any set.contains) (subject : Attribute) (item : WorkItem) :
    (leaf ⟨subject, t⟩).isMatch item = (subject.content item).meets set := by
  cases hc : subject.content item with
  | single value =>
    rw [isMatch_single hc]
    cases value <;> simp [hunset, hvalue, Truth.isHolds, Content.meets, Content.values]
  | several values =>
    rw [isMatch_several hc, hvalues]
    rfl

theorem isMatch_eq_not_meets (hunset : t.ofUnset = .unknown) (hvalue : ∀ v, t.ofValue v = !set.contains v)
    (hvalues : ∀ vs, t.ofValues vs = !vs.any set.contains) (subject : Attribute) (item : WorkItem) :
    (leaf ⟨subject, t⟩).isMatch item = (!(subject.content item).isUnset && !(subject.content item).meets set) := by
  cases hc : subject.content item with
  | single value =>
    rw [isMatch_single hc]
    cases value <;> simp [hunset, hvalue, Truth.isHolds, Content.meets, Content.values, Content.isUnset]
  | several values =>
    rw [isMatch_several hc, hvalues]
    rfl

theorem isMatch_isIn (subject : Attribute) (set : StringSet) (item : WorkItem) :
    (leaf ⟨subject, .isIn set⟩).isMatch item = (subject.content item).meets set :=
  isMatch_eq_meets rfl (fun _ => rfl) (fun _ => rfl) subject item

theorem isMatch_notIn (subject : Attribute) (set : StringSet) (item : WorkItem) :
    (leaf ⟨subject, .notIn set⟩).isMatch item =
      (!(subject.content item).isUnset && !(subject.content item).meets set) :=
  isMatch_eq_not_meets rfl (fun _ => rfl) (fun _ => rfl) subject item

theorem isMatch_eq (subject : Attribute) (v : String) (item : WorkItem) :
    (leaf ⟨subject, .eq v⟩).isMatch item = (subject.content item).meets (.ofList [v]) := by
  refine isMatch_eq_meets rfl (fun x => ?_) (fun xs => ?_) subject item
  · exact (StringSet.contains_singleton v x).symm
  · rw [funext (StringSet.contains_singleton v)]
    rfl

theorem isMatch_ne (subject : Attribute) (v : String) (item : WorkItem) :
    (leaf ⟨subject, .ne v⟩).isMatch item =
      (!(subject.content item).isUnset && !(subject.content item).meets (.ofList [v])) := by
  refine isMatch_eq_not_meets rfl (fun x => ?_) (fun xs => ?_) subject item
  · rw [StringSet.contains_singleton]
    rfl
  · rw [funext (StringSet.contains_singleton v)]
    rfl

end Predicate

namespace Filter

/-! ## The attribute of a field -/

def Key.subject : Key → Attribute
  | .id => .id
  | .number => .number
  | .space => .space
  | .state => .state
  | .type | .workItemType | .typeGroupName => .type
  | .title => .title
  | .description => .description
  | .iteration | .iterationName => .iteration
  | .creator => .creator
  | .assignee => .assignees
  | .label | .labelName => .labels

/-- The attribute of items that a field is about.  A field that is no key is the name of a group of types. -/
def subjectOf (field : String) : Attribute :=
  (Key.ofName? field).elim .type Key.subject

theorem subjectOf_name (key : Key) : subjectOf key.name = key.subject := by
  rw [subjectOf, Key.ofName?_name, Option.elim_some]

def Resolution.subject : Resolution → Attribute
  | .direct subject _ => subject
  | .collection subject => subject
  | .labelReference => .labels
  | .iterationName => .iteration
  | .labelName => .labels
  | .typeGroupName => .type
  | .typeGroup _ _ => .type

namespace Resolver

variable {r : Resolver} {scope : Scope}

theorem subject_ofKey (r : Resolver) (key : Key) : (r.ofKey key).subject = key.subject := by
  cases key <;> rfl

theorem subject_of_resolution {field : String} {s : Resolution} (h : r.resolution scope field = .ok s) :
    s.subject = subjectOf field := by
  unfold subjectOf
  cases hkey : Key.ofName? field with
  | some key =>
    rw [resolution_of_key hkey] at h
    cases h
    exact r.subject_ofKey key
  | none =>
    rw [resolution_of_not_key hkey] at h
    split at h
    · cases h
    · cases h
      rfl

/-- The predicate of a comparison tests the attribute of its field, or does not depend on the item. -/
theorem leaf_or_const_of_resolvedPredicate {c : Comparison} {s : Resolution} {p : Predicate}
    (h : r.resolvedPredicate scope c s = .ok p) : (∃ t, p = .leaf ⟨s.subject, t⟩) ∨ ∃ b, p = .const b := by
  cases s with
  | typeGroupName =>
    obtain ⟨names, -, hp⟩ := Outcome.bind_eq_ok.1 h
    cases hp
    unfold groupsPredicate
    by_cases hne : c.operator = .ne
    · simp [hne, Resolution.subject]
    · by_cases hall : ((names.map (membersIn r.store scope)).all Option.isNone) = true
      · simp [hne, hall]
      · simp [hne, hall, Resolution.subject]
  | typeGroup name types =>
    simp only [resolvedPredicate, compileGroup] at h
    split at h
    · cases h
    · split at h <;> cases h <;> simp [Resolution.subject]
  | direct | collection | labelReference | iterationName | labelName =>
    obtain ⟨t, -, hp⟩ := Outcome.bind_eq_ok.1 h
    cases hp
    exact .inl ⟨t, rfl⟩

/-- **A comparison sees one attribute**: items that have the same in it are matched alike. -/
theorem isMatch_congr_of_comparisonPredicate {c : Comparison} {p : Predicate} {a b : WorkItem}
    (h : r.comparisonPredicate scope c = .ok p)
    (hsame : (subjectOf c.field).content a = (subjectOf c.field).content b) : p.isMatch a = p.isMatch b := by
  unfold comparisonPredicate at h
  split at h
  · cases h
  obtain ⟨s, hs, h⟩ := Outcome.bind_eq_ok.1 h
  obtain ⟨q, hq, h⟩ := Outcome.bind_eq_ok.1 h
  cases h
  rw [← subject_of_resolution hs] at hsame
  rw [Predicate.isMatch_negateIf, Predicate.isMatch_negateIf]
  rcases leaf_or_const_of_resolvedPredicate hq with ⟨t, rfl⟩ | ⟨b, rfl⟩
  · rw [Predicate.isMatch_leaf, Predicate.isMatch_leaf, hsame]
  · rw [Predicate.isMatch_const, Predicate.isMatch_const]

theorem joinedMatchers_congr_at {negate : Bool} (connective : Connective) {accepts accepts' : List (WorkItem → Bool)}
    {a b : WorkItem} (h : accepts.map (· a) = accepts'.map (· b)) :
    joinedMatchers negate connective accepts a = joinedMatchers negate connective accepts' b := by
  cases connective with
  | and =>
    have hall := congrArg (·.all id) h
    simp only [List.all_map] at hall
    exact congrArg (negate != ·) hall
  | or =>
    have hany := congrArg (·.any id) h
    simp only [List.any_map] at hany
    exact congrArg (negate != ·) hany

mutual

/-- **A condition sees the attributes of its comparisons**, so items that have the same in these are matched alike. -/
theorem isMatch_congr_of_nodePredicate {a b : WorkItem} :
    ∀ (n : Node) {p : Predicate}, r.nodePredicate scope n = .ok p →
      (∀ c ∈ n.comparisons, (subjectOf c.field).content a = (subjectOf c.field).content b) → p.isMatch a = p.isMatch b
  | .comparison c, p, h, hsame => by
    rw [nodePredicate] at h
    exact isMatch_congr_of_comparisonPredicate h (hsame c (List.mem_singleton_self c))
  | .combinator connective ns negate, p, h, hsame => by
    rw [nodePredicate] at h
    obtain ⟨ps, hps, h⟩ := Outcome.bind_eq_ok.1 h
    cases h
    rw [isMatch_joined]
    refine joinedMatchers_congr_at connective (List.map_congr_left fun f hf => ?_)
    obtain ⟨p, hp, rfl⟩ := List.mem_map.1 hf
    exact isMatch_congr_of_nodePredicates ns hps hsame p hp

theorem isMatch_congr_of_nodePredicates {a b : WorkItem} :
    ∀ (ns : List Node) {ps : List Predicate}, r.nodePredicates scope ns = .ok ps →
      (∀ c ∈ Node.comparisonsOfAll ns, (subjectOf c.field).content a = (subjectOf c.field).content b) →
      ∀ p ∈ ps, p.isMatch a = p.isMatch b
  | [], ps, h, _ => by
    rw [nodePredicates] at h
    cases h
    exact fun p hp => (List.not_mem_nil hp).elim
  | n :: ns, ps, h, hsame => by
    rw [nodePredicates] at h
    obtain ⟨p, hp, h⟩ := Outcome.bind_eq_ok.1 h
    obtain ⟨rest, hrest, h⟩ := Outcome.bind_eq_ok.1 h
    cases h
    rw [Node.comparisonsOfAll, List.forall_mem_append] at hsame
    rw [List.forall_mem_cons]
    exact ⟨isMatch_congr_of_nodePredicate n hp hsame.1, isMatch_congr_of_nodePredicates ns hrest hsame.2⟩

end

/-! ## The values of a text -/

def denotedBy (r : Resolver) (scope : Scope) (field v : String) : Resolution → Except QueryError StringSet
  | .direct _ kind => (r.convert field kind v).map fun x => .ofList [x]
  | .collection _ => (r.convert field .identifier v).map fun x => .ofList [x]
  | .labelReference => r.labelsOfValue scope field v
  | .iterationName => .ok (r.iterationsWhere scope (· == v))
  | .labelName => .ok (r.labelsWhere scope (· == v))
  | .typeGroupName => .ok ((membersIn r.store scope v).getD .empty)
  | .typeGroup _ types => .ok (types.getD .empty)

def denoted (r : Resolver) (scope : Scope) (field v : String) : Except QueryError StringSet :=
  r.resolution scope field >>= r.denotedBy scope field v

theorem content_type_isUnset (item : WorkItem) : (Attribute.type.content item).isUnset = false := rfl

theorem isMatch_groupsPredicate_any (operator : Operator) (found : List (Option StringSet)) (item : WorkItem) :
    (groupsPredicate operator found).isMatch item =
      if operator = .ne then !found.any fun types => (Attribute.type.content item).meets (types.getD .empty)
      else found.any fun types => (Attribute.type.content item).meets (types.getD .empty) := by
  have hunion : (Attribute.type.content item).meets ((found.filterMap id).foldl StringSet.union .empty) =
      found.any fun types => (Attribute.type.content item).meets (types.getD .empty) := by
    rw [Content.meets_foldl_union]
    induction found with
    | nil => rfl
    | cons types found ih =>
      cases types with
      | none => simpa [Content.meets_empty] using ih
      | some types => simpa using congrArg _ ih
  unfold groupsPredicate
  by_cases hne : operator = .ne
  · simp only [hne, if_true]
    rw [Predicate.isMatch_notIn, hunion, content_type_isUnset, Bool.not_false, Bool.true_and]
  · simp only [hne, if_false]
    split
    · next hall =>
      rw [Predicate.isMatch_const, eq_comm, List.any_eq_false]
      intro types htypes
      have hnone : types = none := by simpa using List.all_eq_true.1 hall types htypes
      simp [hnone, Content.meets_empty]
    · rw [Predicate.isMatch_isIn, hunion]

/-! ## What matches -/

/-- What a comparison with a text asks of the content of an attribute, given the values that the text stands for. -/
def asks (operator : Operator) (c : Content) (set : StringSet) : Bool :=
  if operator = .ne then !c.isUnset && !c.meets set else c.meets set

theorem asks_type (operator : Operator) (item : WorkItem) (set : StringSet) :
    asks operator (Attribute.type.content item) set =
      if operator = .ne then !(Attribute.type.content item).meets set else (Attribute.type.content item).meets set := by
  rw [asks, content_type_isUnset, Bool.not_false, Bool.true_and]

def testMatcher (subject : Attribute) (test : Except QueryError Test) : Except QueryError (WorkItem → Bool) :=
  (test >>= fun t => (return .leaf ⟨subject, t⟩ : Except QueryError Predicate)).map Predicate.isMatch

theorem testMatcher_map {α : Type} {subject : Attribute} {f : α → Test} {accepts : α → WorkItem → Bool}
    (h : ∀ a item, (Predicate.leaf ⟨subject, f a⟩).isMatch item = accepts a item) (x : Except QueryError α) :
    testMatcher subject (x.map f) = x.map accepts := by
  cases x with
  | error e => rfl
  | ok a => exact congrArg Except.ok (funext (h a))

section

variable (r : Resolver) (scope : Scope) (field v : String) (negate : Bool)

section

variable {operator : Operator} (h : operator = .eq ∨ operator = .ne)
include h

theorem testMatcher_directTest_text (subject : Attribute) (kind : FieldKind) :
    testMatcher subject (r.directTest ⟨field, operator, .text v, negate⟩ kind) =
      ((r.convert field kind v).map fun x => .ofList [x]).map fun set item =>
        asks operator (subject.content item) set := by
  rw [Outcome.map_map]
  rcases h with rfl | rfl
  · exact testMatcher_map (Predicate.isMatch_eq subject) (r.convert field kind v)
  · exact testMatcher_map (Predicate.isMatch_ne subject) (r.convert field kind v)

theorem testMatcher_joinTest_text (subject : Attribute) (ofValue : String → Except QueryError StringSet)
    (ofPart : String → StringSet) :
    testMatcher subject (joinTest ⟨field, operator, .text v, negate⟩ ofValue ofPart) =
      (ofValue v).map fun set item => asks operator (subject.content item) set := by
  rcases h with rfl | rfl
  · exact testMatcher_map (Predicate.isMatch_isIn subject) (ofValue v)
  · exact testMatcher_map (Predicate.isMatch_notIn subject) (ofValue v)

theorem map_isMatch_compileGroup (name : String) (types : Option StringSet) :
    (compileGroup ⟨field, operator, .text v, negate⟩ name types).map Predicate.isMatch =
      .ok fun item => asks operator (Attribute.type.content item) (types.getD .empty) := by
  simp only [asks_type]
  rcases h with rfl | rfl
  · cases types with
    | none => exact congrArg Except.ok (funext fun item => by simp [Content.meets_empty])
    | some types => exact congrArg Except.ok (funext (Predicate.isMatch_isIn .type types))
  · cases types with
    | none => exact congrArg Except.ok (funext fun item => by simp [Content.meets_empty])
    | some types => exact congrArg Except.ok (funext (Predicate.isMatch_notIn .type types))

/-- **A comparison with a text**, once its field is looked up, asks for the values that the text stands for. -/
theorem map_isMatch_resolvedPredicate (s : Resolution) :
    (r.resolvedPredicate scope ⟨field, operator, .text v, negate⟩ s).map Predicate.isMatch =
      (r.denotedBy scope field v s).map fun set item => asks operator (s.subject.content item) set := by
  have hdirect := testMatcher_directTest_text r field v negate h
  have hjoin := testMatcher_joinTest_text field v negate h
  cases s with
  | direct subject kind => exact hdirect subject kind
  | collection subject => exact hdirect subject .identifier
  | labelReference => exact hjoin .labels (r.labelsOfValue scope field) _
  | iterationName => exact hjoin .iteration (fun v => .ok (r.iterationsWhere scope (· == v))) _
  | labelName => exact hjoin .labels (fun v => .ok (r.labelsWhere scope (· == v))) _
  | typeGroupName =>
    have hnames : groupNames ⟨field, operator, .text v, negate⟩ = .ok [v] := by rcases h with rfl | rfl <;> rfl
    rw [resolvedPredicate, hnames]
    refine congrArg Except.ok (funext fun item => ?_)
    rw [isMatch_groupsPredicate_any, List.map_singleton, List.any_cons, List.any_nil, Bool.or_false]
    exact (asks_type operator item _).symm
  | typeGroup name types => exact map_isMatch_compileGroup field v negate h name types

end

theorem testMatcher_directTest_texts (subject : Attribute) (kind : FieldKind) (vs : List String) :
    testMatcher subject (r.directTest ⟨field, .isIn, .texts vs, negate⟩ kind) =
      (vs.mapM fun v => (r.convert field kind v).map fun x => .ofList [x]).map fun sets item =>
        sets.any (subject.content item).meets := by
  rw [Outcome.mapM_map_result, Outcome.map_map]
  refine testMatcher_map (fun xs item => ?_) (vs.mapM (r.convert field kind))
  rw [Predicate.isMatch_isIn, Content.meets_ofList, Function.comp_apply, List.any_map]
  rfl

theorem testMatcher_joinTest_texts (subject : Attribute) (ofValue : String → Except QueryError StringSet)
    (ofPart : String → StringSet) (vs : List String) :
    testMatcher subject (joinTest ⟨field, .isIn, .texts vs, negate⟩ ofValue ofPart) =
      (vs.mapM ofValue).map fun sets item => sets.any (subject.content item).meets := by
  refine testMatcher_map (fun sets item => ?_) (vs.mapM ofValue)
  rw [Predicate.isMatch_isIn, Content.meets_foldl_union]

/-- **A comparison of a key with several texts** asks for a value of one of them. -/
theorem map_isMatch_ofKey_isIn (key : Key) (vs : List String) :
    (r.resolvedPredicate scope ⟨field, .isIn, .texts vs, negate⟩ (r.ofKey key)).map Predicate.isMatch =
      (vs.mapM fun v => r.denotedBy scope field v (r.ofKey key)).map fun sets item =>
        sets.any (key.subject.content item).meets := by
  have hdirect := fun subject kind => testMatcher_directTest_texts r field negate subject kind vs
  have hjoin := fun subject ofValue ofPart => testMatcher_joinTest_texts field negate subject ofValue ofPart vs
  cases key
  case label => exact hjoin .labels _ _
  case iterationName => exact hjoin .iteration _ _
  case labelName => exact hjoin .labels _ _
  case typeGroupName =>
    have hmembers : (vs.mapM fun v => r.denotedBy scope field v .typeGroupName) =
        .ok (vs.map fun v => (membersIn r.store scope v).getD .empty) := List.mapM_pure
    show _ = (vs.mapM fun v => r.denotedBy scope field v .typeGroupName).map _
    rw [hmembers]
    refine congrArg Except.ok (funext fun item => ?_)
    rw [isMatch_groupsPredicate_any, if_neg nofun, List.any_map]
    show _ = (vs.map fun v => (membersIn r.store scope v).getD .empty).any (Attribute.type.content item).meets
    rw [List.any_map]
    rfl
  all_goals exact hdirect _ _

theorem matcher_comparison {c : Comparison} (hvalue : c.value ≠ .null) :
    r.matcher scope (.comparison c) =
      ((r.resolution scope c.field >>= r.resolvedPredicate scope c).map Predicate.isMatch).map fun accepts item =>
        c.negate != accepts item := by
  have hnegate : Predicate.isMatch ∘ Predicate.negateIf c.negate = fun p item => c.negate != p.isMatch item :=
    funext fun p => funext (Predicate.isMatch_negateIf c.negate p)
  rw [matcher, nodePredicate, comparisonPredicate]
  simp only [hvalue, decide_false, Bool.and_false]
  rw [Outcome.map_map]
  cases r.resolution scope c.field with
  | error e => rfl
  | ok s =>
    show (r.resolvedPredicate scope c s >>= fun p => pure (p.negateIf c.negate)).map _ = _
    rw [Outcome.bind_pure_eq_map, Outcome.map_map, hnegate]
    rfl

/-- **What matches a comparison with a text** is what the values of the text are asked for in. -/
theorem matcher_text {operator : Operator} (h : operator = .eq ∨ operator = .ne) :
    r.matcher scope (.comparison ⟨field, operator, .text v, negate⟩) =
      (r.denoted scope field v).map fun set item => negate != asks operator ((subjectOf field).content item) set := by
  rw [matcher_comparison r scope (c := ⟨field, operator, .text v, negate⟩) nofun, denoted]
  cases hs : r.resolution scope field with
  | error e => rfl
  | ok s =>
    show ((r.resolvedPredicate scope _ s).map _).map _ = (r.denotedBy scope field v s).map _
    rw [map_isMatch_resolvedPredicate r scope field v negate h s, subject_of_resolution hs, Outcome.map_map]
    rfl

/-- **What matches a comparison of a key with several texts** is what has a value of one of them. -/
theorem matcher_isIn (key : Key) (vs : List String) :
    r.matcher scope (.comparison ⟨key.name, .isIn, .texts vs, false⟩) =
      (vs.mapM (r.denoted scope key.name)).map fun sets item => sets.any (key.subject.content item).meets := by
  have hkey : r.resolution scope key.name = .ok (r.ofKey key) := resolution_of_key (Key.ofName?_name key)
  have hdenoted : r.denoted scope key.name = fun v => r.denotedBy scope key.name v (r.ofKey key) := by
    funext v
    rw [denoted, hkey]
    rfl
  rw [matcher_comparison r scope (c := ⟨key.name, .isIn, .texts vs, false⟩) nofun, hkey, hdenoted]
  show ((r.resolvedPredicate scope _ (r.ofKey key)).map _).map _ = _
  rw [map_isMatch_ofKey_isIn r scope key.name false key vs, Outcome.map_map]
  simp only [Function.comp_def, Bool.false_bne]

end

def compiledIn (r : Resolver) (scope : Scope) (n : Node) : Except QueryError Predicate :=
  ((r.compileNode scope n).run.run []).1

theorem map_isMatch_compiledIn (r : Resolver) (scope : Scope) (n : Node) :
    (r.compiledIn scope n).map Predicate.isMatch = r.matcher scope n := by
  rw [compiledIn, (answers_compileNode r scope n [] (isRight_nil r scope)).1, matcher]

theorem matcher_of_compiledIn {r : Resolver} {scope : Scope} {n : Node} {p : Predicate}
    (h : r.compiledIn scope n = .ok p) : r.matcher scope n = .ok p.isMatch := by
  rw [← map_isMatch_compiledIn, h]
  rfl

end Resolver
end Filter
end Backlog
