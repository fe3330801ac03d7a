import Backlog.Predicate
/-!
# Matching — predicates as ordinary logic

Seen from outside, evaluation with three truth values is ordinary logic: an item matches a conjunction when it matches
every child, a disjunction when it matches some child, and a negation when it does not match what is negated.  The
unknown shows in the leaves alone (`isMatch_single`, `isMatch_several`).
-/
namespace Backlog

@[simp]
theorem Truth.isHolds_ofBool (b : Bool) : (Truth.ofBool b).isHolds = b := by cases b <;> rfl

namespace Predicate

mutual

/-- **A predicate sees nothing of an item** but what the item has in its attributes. -/
theorem evaluate_congr {a b : WorkItem} (h : ∀ subject, Attribute.content a subject = Attribute.content b subject) :
    ∀ p : Predicate, evaluate a p = evaluate b p
  | const value => by
    rw [evaluate, evaluate]
  | leaf condition => by
    rw [evaluate, evaluate, Condition.evaluate, Condition.evaluate, h]
  | and children => by
    rw [evaluate, evaluate, evaluateAll_congr h children]
  | or children => by
    rw [evaluate, evaluate, evaluateAny_congr h children]
  | not inner => by
    rw [evaluate, evaluate, evaluate_congr h inner]

theorem evaluateAll_congr {a b : WorkItem} (h : ∀ subject, Attribute.content a subject = Attribute.content b subject) :
    ∀ (ps : List Predicate) (soFar : Truth), evaluateAll a soFar ps = evaluateAll b soFar ps
  | [], soFar => by
    rw [evaluateAll, evaluateAll]
  | p :: ps, soFar => by
    rw [evaluateAll, evaluateAll, evaluate_congr h p, evaluateAll_congr h ps, evaluateAll_congr h ps]

theorem evaluateAny_congr {a b : WorkItem} (h : ∀ subject, Attribute.content a subject = Attribute.content b subject) :
    ∀ (ps : List Predicate) (soFar : Truth), evaluateAny a soFar ps = evaluateAny b soFar ps
  | [], soFar => by
    rw [evaluateAny, evaluateAny]
  | p :: ps, soFar => by
    rw [evaluateAny, evaluateAny, evaluate_congr h p, evaluateAny_congr h ps, evaluateAny_congr h ps]

end

theorem isHolds_evaluateAll (item : WorkItem) :
    ∀ (ps : List Predicate) (soFar : Truth),
      (evaluateAll item soFar ps).isHolds = (soFar.isHolds && ps.all (·.isMatch item))
  | [], soFar => by simp [evaluateAll]
  | p :: ps, soFar => by
    rw [evaluateAll, List.all_cons, isMatch]
    cases evaluate item p with
    | holds => rw [isHolds_evaluateAll item ps soFar]; rfl
    | fails => simp [Truth.isHolds]
    | unknown => rw [isHolds_evaluateAll item ps .unknown]; simp [Truth.isHolds]

theorem isHolds_evaluateAny (item : WorkItem) :
    ∀ (ps : List Predicate) (soFar : Truth), soFar.isHolds = false →
      (evaluateAny item soFar ps).isHolds = ps.any (·.isMatch item)
  | [], soFar, h => by simpa [evaluateAny] using h
  | p :: ps, soFar, h => by
    rw [evaluateAny, List.any_cons, isMatch]
    cases evaluate item p with
    | holds => rfl
    | fails => rw [isHolds_evaluateAny item ps soFar h]; rfl
    | unknown => rw [isHolds_evaluateAny item ps .unknown rfl]; rfl

@[simp]
theorem isMatch_const (b : Bool) (item : WorkItem) : (const b).isMatch item = b := by
  rw [isMatch, evaluate, Truth.isHolds_ofBool]

@[simp]
theorem isMatch_and (ps : List Predicate) (item : WorkItem) :
    (and ps).isMatch item = ps.all (·.isMatch item) := by
  rw [isMatch, evaluate, isHolds_evaluateAll, Truth.isHolds, Bool.true_and]

@[simp]
theorem isMatch_or (ps : List Predicate) (item : WorkItem) :
    (or ps).isMatch item = ps.any (·.isMatch item) := by
  rw [isMatch, evaluate, isHolds_evaluateAny item ps .fails rfl]

@[simp]
theorem isMatch_not (p : Predicate) (item : WorkItem) : (not p).isMatch item = !p.isMatch item := by
  rw [isMatch, evaluate, Truth.isHolds_ofBool, isMatch]

theorem isMatch_negateIf (negate : Bool) (p : Predicate) (item : WorkItem) :
    (p.negateIf negate).isMatch item = (negate != p.isMatch item) := by
  cases negate <;> simp [negateIf]

/-- **A leaf about one value** matches what has the value and passes its test, or has none and is asked for none. -/
theorem isMatch_single {subject : Attribute} {item : WorkItem} {has : Option String}
    (h : subject.content item = .single has) (t : Test) :
    (leaf ⟨subject, t⟩).isMatch item = has.elim t.ofUnset.isHolds t.ofValue := by
  rw [isMatch, evaluate, Condition.evaluate, h]
  cases has with
  | none => rfl
  | some v => exact Truth.isHolds_ofBool (t.ofValue v)

theorem isMatch_set {subject : Attribute} {item : WorkItem} {v : String} (h : subject.content item = .single (some v))
    (t : Test) : (leaf ⟨subject, t⟩).isMatch item = t.ofValue v :=
  isMatch_single h t

theorem isMatch_space (t : Test) (item : WorkItem) : (leaf ⟨.space, t⟩).isMatch item = t.ofValue item.space := by
  rw [isMatch_set]
  rfl

theorem isMatch_type (t : Test) (item : WorkItem) : (leaf ⟨.type, t⟩).isMatch item = t.ofValue item.type := by
  rw [isMatch_set]
  rfl

/-- **A leaf about several values** matches what passes its test. -/
theorem isMatch_several {subject : Attribute} {item : WorkItem} {has : List String}
    (h : subject.content item = .several has) (t : Test) : (leaf ⟨subject, t⟩).isMatch item = t.ofValues has := by
  rw [isMatch, evaluate, Condition.evaluate, h, Test.evaluate, Truth.isHolds_ofBool]

end Predicate
end Backlog
