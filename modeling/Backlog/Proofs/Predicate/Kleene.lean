import Backlog.Proofs.Predicate.Matching
import Mathlib.Data.Nat.Basic
import Mathlib.Order.MinMax
/-!
# Kleene — evaluation has no order, and its outside is classical

Among the three truth values what fails is below the unknown, and the unknown below what holds.  The loops of
evaluation, which end early and remember the unknown, come to the least value of the children of a conjunction and to
the greatest of those of a disjunction (`evaluate_and`, `evaluate_or`).  A least value does not depend on the order of
the values, on how often each occurs, or on how they are grouped, so neither does evaluation, at any depth
(`evaluate_congr_rearrange`).

Negation takes the unknown for failed, so classical laws such as double negation do not hold of the truth values.  They
hold of matching, again at any depth, because matching is the evaluation of classical logic in which a leaf counts as
true if it holds (`isMatch_eq_classical`, `isMatch_congr_classical`).
-/
namespace Backlog

namespace Truth

/-! ## The order of truth values -/

def rank : Truth → Nat
  | fails => 0
  | unknown => 1
  | holds => 2

theorem rank_injective : Function.Injective rank := by
  intro a b h
  cases a <;> cases b <;> cases h <;> rfl

instance : LinearOrder Truth := LinearOrder.lift' rank rank_injective

/-- The least of some truth values: what holds if there are none. -/
def least (ts : List Truth) : Truth :=
  ts.foldr min holds

/-- The greatest of some truth values: what fails if there are none. -/
def greatest (ts : List Truth) : Truth :=
  ts.foldr max fails

theorem le_holds (t : Truth) : t ≤ holds := by
  cases t <;> decide

theorem fails_le (t : Truth) : fails ≤ t := by
  cases t <;> decide

theorem le_least_iff {t : Truth} : ∀ {ts : List Truth}, t ≤ least ts ↔ ∀ u ∈ ts, t ≤ u
  | [] => by simp [least, le_holds]
  | u :: ts => by
    rw [least, List.foldr_cons, le_min_iff, List.forall_mem_cons]
    exact and_congr_right fun _ => le_least_iff

theorem greatest_le_iff {t : Truth} : ∀ {ts : List Truth}, greatest ts ≤ t ↔ ∀ u ∈ ts, u ≤ t
  | [] => by simp [greatest, fails_le]
  | u :: ts => by
    rw [greatest, List.foldr_cons, max_le_iff, List.forall_mem_cons]
    exact and_congr_right fun _ => greatest_le_iff

end Truth

namespace Predicate

open Truth (least greatest)

/-! ## The least and the greatest value of the children -/

theorem evaluateAll_eq_min (item : WorkItem) :
    ∀ (ps : List Predicate) {soFar : Truth}, soFar ≠ .fails →
      evaluateAll item soFar ps = min soFar (least (ps.map (evaluate item)))
  | [], soFar, _ => by
    rw [evaluateAll, List.map_nil]
    exact (min_eq_left (Truth.le_holds soFar)).symm
  | p :: ps, soFar, h => by
    have hrest : least ((p :: ps).map (evaluate item)) =
        min (evaluate item p) (least (ps.map (evaluate item))) := rfl
    rw [evaluateAll, hrest]
    cases evaluate item p with
    | fails => rw [min_eq_left (Truth.fails_le _), min_eq_right (Truth.fails_le soFar)]
    | unknown =>
      -- the children so far did not fail, so with an unknown one they come to the unknown
      have hsoFar : min soFar .unknown = .unknown := by
        cases soFar with
        | fails => exact absurd rfl h
        | unknown => rfl
        | holds => rfl
      have hunknown : Truth.unknown ≠ .fails := nofun
      show evaluateAll item .unknown ps = _
      rw [evaluateAll_eq_min item ps hunknown, ← min_assoc, hsoFar]
    | holds =>
      show evaluateAll item soFar ps = _
      rw [evaluateAll_eq_min item ps h, min_eq_right (Truth.le_holds _)]

theorem evaluateAny_eq_max (item : WorkItem) :
    ∀ (ps : List Predicate) {soFar : Truth}, soFar ≠ .holds →
      evaluateAny item soFar ps = max soFar (greatest (ps.map (evaluate item)))
  | [], soFar, _ => by
    rw [evaluateAny, List.map_nil]
    exact (max_eq_left (Truth.fails_le soFar)).symm
  | p :: ps, soFar, h => by
    have hrest : greatest ((p :: ps).map (evaluate item)) =
        max (evaluate item p) (greatest (ps.map (evaluate item))) := rfl
    rw [evaluateAny, hrest]
    cases evaluate item p with
    | holds => rw [max_eq_left (Truth.le_holds _), max_eq_right (Truth.le_holds soFar)]
    | unknown =>
      have hsoFar : max soFar .unknown = .unknown := by
        cases soFar with
        | holds => exact absurd rfl h
        | unknown => rfl
        | fails => rfl
      have hunknown : Truth.unknown ≠ .holds := nofun
      show evaluateAny item .unknown ps = _
      rw [evaluateAny_eq_max item ps hunknown, ← max_assoc, hsoFar]
    | fails =>
      show evaluateAny item soFar ps = _
      rw [evaluateAny_eq_max item ps h, max_eq_right (Truth.fails_le _)]

/-- **A conjunction** comes to the least value of its children. -/
theorem evaluate_and (item : WorkItem) (ps : List Predicate) :
    evaluate item (and ps) = least (ps.map (evaluate item)) := by
  have hholds : Truth.holds ≠ .fails := nofun
  rw [evaluate, evaluateAll_eq_min item ps hholds, min_eq_right (Truth.le_holds _)]

/-- **A disjunction** comes to the greatest value of its children. -/
theorem evaluate_or (item : WorkItem) (ps : List Predicate) :
    evaluate item (or ps) = greatest (ps.map (evaluate item)) := by
  have hfails : Truth.fails ≠ .holds := nofun
  rw [evaluate, evaluateAny_eq_max item ps hfails, max_eq_right (Truth.fails_le _)]

theorem le_evaluate_and_iff {item : WorkItem} {ps : List Predicate} {t : Truth} :
    t ≤ evaluate item (and ps) ↔ ∀ p ∈ ps, t ≤ evaluate item p := by
  rw [evaluate_and, Truth.le_least_iff, List.forall_mem_map]

theorem evaluate_or_le_iff {item : WorkItem} {ps : List Predicate} {t : Truth} :
    evaluate item (or ps) ≤ t ↔ ∀ p ∈ ps, evaluate item p ≤ t := by
  rw [evaluate_or, Truth.greatest_le_iff, List.forall_mem_map]

/-! ## Rules applied at any depth -/

/-- Two predicates of which one becomes the other by applying rules to parts of it, forwards and backwards. -/
inductive Rewrites (Rule : Predicate → Predicate → Prop) : Predicate → Predicate → Prop
  | rule {p q : Predicate} (h : Rule p q) : Rewrites Rule p q
  | refl (p : Predicate) : Rewrites Rule p p
  | symm {p q : Predicate} (h : Rewrites Rule p q) : Rewrites Rule q p
  | trans {p q r : Predicate} (h : Rewrites Rule p q) (h' : Rewrites Rule q r) : Rewrites Rule p r
  | inAnd {p q : Predicate} (before after : List Predicate) (h : Rewrites Rule p q) :
    Rewrites Rule (and (before ++ p :: after)) (and (before ++ q :: after))
  | inOr {p q : Predicate} (before after : List Predicate) (h : Rewrites Rule p q) :
    Rewrites Rule (or (before ++ p :: after)) (or (before ++ q :: after))
  | inNot {p q : Predicate} (h : Rewrites Rule p q) : Rewrites Rule (not p) (not q)

/-- Whether what a predicate comes to follows from what its parts come to. -/
structure IsCompositional {α : Type} (value : Predicate → α) : Prop where
  and_congr : ∀ {ps qs : List Predicate}, ps.map value = qs.map value → value (and ps) = value (and qs)
  or_congr : ∀ {ps qs : List Predicate}, ps.map value = qs.map value → value (or ps) = value (or qs)
  not_congr : ∀ {p q : Predicate}, value p = value q → value (not p) = value (not q)

theorem Rewrites.value_eq {α : Type} {value : Predicate → α} {Rule : Predicate → Predicate → Prop}
    (hvalue : IsCompositional value) (hrule : ∀ p q, Rule p q → value p = value q) {p q : Predicate}
    (h : Rewrites Rule p q) : value p = value q := by
  induction h with
  | rule h => exact hrule _ _ h
  | refl p => rfl
  | symm _ ih => exact ih.symm
  | trans _ _ ih ih' => exact ih.trans ih'
  | inAnd before after _ ih =>
    refine hvalue.and_congr ?_
    rw [List.map_append, List.map_append, List.map_cons, List.map_cons, ih]
  | inOr before after _ ih =>
    refine hvalue.or_congr ?_
    rw [List.map_append, List.map_append, List.map_cons, List.map_cons, ih]
  | inNot _ ih => exact hvalue.not_congr ih

theorem isCompositional_evaluate (item : WorkItem) : IsCompositional (evaluate item) where
  and_congr h := by rw [evaluate_and, evaluate_and, h]
  or_congr h := by rw [evaluate_or, evaluate_or, h]
  not_congr h := by rw [evaluate, evaluate, h]

/-! ## Rearranging -/

/-- Rules about the children of a conjunction or a disjunction: they may change places, occur more often or less often
as long as each occurs, and be grouped. -/
inductive Rearranges : Predicate → Predicate → Prop
  | andMembers {ps qs : List Predicate} (h : ∀ p, p ∈ ps ↔ p ∈ qs) : Rearranges (and ps) (and qs)
  | orMembers {ps qs : List Predicate} (h : ∀ p, p ∈ ps ↔ p ∈ qs) : Rearranges (or ps) (or qs)
  | andFlat (before ps after : List Predicate) :
    Rearranges (and (before ++ and ps :: after)) (and (before ++ ps ++ after))
  | orFlat (before ps after : List Predicate) :
    Rearranges (or (before ++ or ps :: after)) (or (before ++ ps ++ after))

theorem evaluate_eq_of_rearranges (item : WorkItem) {p q : Predicate} (h : Rearranges p q) :
    evaluate item p = evaluate item q := by
  cases h with
  | andMembers h => exact eq_of_forall_le_iff fun t => by simp only [le_evaluate_and_iff, h]
  | orMembers h => exact eq_of_forall_ge_iff fun t => by simp only [evaluate_or_le_iff, h]
  | andFlat before ps after =>
    refine eq_of_forall_le_iff fun t => ?_
    simp only [le_evaluate_and_iff, List.forall_mem_append, List.forall_mem_cons, and_assoc]
  | orFlat before ps after =>
    refine eq_of_forall_ge_iff fun t => ?_
    simp only [evaluate_or_le_iff, List.forall_mem_append, List.forall_mem_cons, and_assoc]

/-- **The value of a predicate has no order**: rearranging it, at any depth, changes no truth value. -/
theorem evaluate_congr_rearrange (item : WorkItem) {p q : Predicate} (h : Rewrites Rearranges p q) :
    evaluate item p = evaluate item q :=
  h.value_eq (isCompositional_evaluate item) fun _ _ => evaluate_eq_of_rearranges item

/-! ## Classical logic -/

mutual

/-- The value of a predicate in logic with two truth values, where a leaf counts as true exactly if it holds. -/
def classical (item : WorkItem) : Predicate → Bool
  | const value => value
  | leaf condition => condition.evaluate item = .holds
  | and children => classicalAll item children
  | or children => classicalAny item children
  | not inner => !classical item inner

def classicalAll (item : WorkItem) : List Predicate → Bool
  | [] => true
  | p :: ps => classical item p && classicalAll item ps

def classicalAny (item : WorkItem) : List Predicate → Bool
  | [] => false
  | p :: ps => classical item p || classicalAny item ps

end

mutual

theorem isMatch_eq_classical (item : WorkItem) : ∀ p : Predicate, p.isMatch item = classical item p
  | const value => by rw [isMatch_const, classical]
  | leaf condition => by
    rw [isMatch, evaluate, classical]
    cases condition.evaluate item <;> rfl
  | and children => by rw [isMatch_and, classical, all_isMatch_eq_classicalAll item children]
  | or children => by rw [isMatch_or, classical, any_isMatch_eq_classicalAny item children]
  | not inner => by rw [isMatch_not, classical, isMatch_eq_classical item inner]

theorem all_isMatch_eq_classicalAll (item : WorkItem) :
    ∀ ps : List Predicate, (ps.all fun p => p.isMatch item) = classicalAll item ps
  | [] => by rw [List.all_nil, classicalAll]
  | p :: ps => by rw [List.all_cons, classicalAll, isMatch_eq_classical item p, all_isMatch_eq_classicalAll item ps]

theorem any_isMatch_eq_classicalAny (item : WorkItem) :
    ∀ ps : List Predicate, (ps.any fun p => p.isMatch item) = classicalAny item ps
  | [] => by rw [List.any_nil, classicalAny]
  | p :: ps => by rw [List.any_cons, classicalAny, isMatch_eq_classical item p, any_isMatch_eq_classicalAny item ps]

end

/-- The rules of rearranging, De Morgan's laws and double negation. -/
inductive IsClassicalLaw : Predicate → Predicate → Prop
  | rearranges {p q : Predicate} (h : Rearranges p q) : IsClassicalLaw p q
  | notAnd (ps : List Predicate) : IsClassicalLaw (not (and ps)) (or (ps.map not))
  | notOr (ps : List Predicate) : IsClassicalLaw (not (or ps)) (and (ps.map not))
  | notNot (p : Predicate) : IsClassicalLaw (not (not p)) p

theorem isMatch_eq_of_isClassicalLaw (item : WorkItem) {p q : Predicate} (h : IsClassicalLaw p q) :
    p.isMatch item = q.isMatch item := by
  cases h with
  | rearranges h => exact congrArg Truth.isHolds (evaluate_eq_of_rearranges item h)
  | notAnd ps => simp [List.not_all_eq_any_not, Function.comp_def]
  | notOr ps => simp [List.not_any_eq_all_not, Function.comp_def]
  | notNot p => simp

theorem isCompositional_isMatch (item : WorkItem) : IsCompositional fun p => p.isMatch item where
  and_congr h := by
    have hall : ∀ ps : List Predicate, (and ps).isMatch item = (ps.map fun p => p.isMatch item).all id := fun ps => by
      rw [isMatch_and, List.all_map]
      rfl
    rw [hall, hall, h]
  or_congr h := by
    have hany : ∀ ps : List Predicate, (or ps).isMatch item = (ps.map fun p => p.isMatch item).any id := fun ps => by
      rw [isMatch_or, List.any_map]
      rfl
    rw [hany, hany, h]
  not_congr h := by rw [isMatch_not, isMatch_not, h]

/-- **Matching obeys the laws of classical logic** at any depth. -/
theorem isMatch_congr_classical (item : WorkItem) {p q : Predicate} (h : Rewrites IsClassicalLaw p q) :
    p.isMatch item = q.isMatch item :=
  h.value_eq (isCompositional_isMatch item) fun _ _ => isMatch_eq_of_isClassicalLaw item

/-! ## Both views of evaluation -/

/-- What is said of the evaluation of predicates for an item: what it is from inside, with three truth values, and what
it is from outside, where only matching shows. -/
structure IsKleeneFor (item : WorkItem) : Prop where
  /-- A conjunction comes to the least value of its children, and holds without any. -/
  evaluate_and : ∀ ps, evaluate item (and ps) = least (ps.map (evaluate item))
  /-- A disjunction comes to the greatest value of its children, and fails without any. -/
  evaluate_or : ∀ ps, evaluate item (or ps) = greatest (ps.map (evaluate item))
  /-- The truth value itself is the same after children change places, are repeated or are grouped, at any depth. -/
  rearranged : ∀ p q, Rewrites Rearranges p q → evaluate item p = evaluate item q
  /-- An item matches exactly if the predicate is true in logic with two values. -/
  isMatch_classical : ∀ p, p.isMatch item = classical item p
  /-- So the matches of a conjunction are the common matches of its children, -/
  isMatch_and_iff : ∀ ps, (and ps).isMatch item = true ↔ ∀ p ∈ ps, p.isMatch item = true
  /-- those of a disjunction are the matches of all its children together, -/
  isMatch_or_iff : ∀ ps, (or ps).isMatch item = true ↔ ∃ p ∈ ps, p.isMatch item = true
  /-- and those of a negation are all other items. -/
  isMatch_not_iff : ∀ p, (not p).isMatch item = true ↔ ¬p.isMatch item = true
  /-- The matches are the same after De Morgan's laws and double negation are applied as well, at any depth. -/
  lawful : ∀ p q, Rewrites IsClassicalLaw p q → p.isMatch item = q.isMatch item

/-- **Evaluation is Kleene's logic**, and matching is classical logic. -/
theorem isKleeneFor (item : WorkItem) : IsKleeneFor item where
  evaluate_and := evaluate_and item
  evaluate_or := evaluate_or item
  rearranged _ _ := evaluate_congr_rearrange item
  isMatch_classical := isMatch_eq_classical item
  isMatch_and_iff ps := by rw [isMatch_and, List.all_eq_true]
  isMatch_or_iff ps := by rw [isMatch_or, List.any_eq_true]
  isMatch_not_iff p := by rw [isMatch_not, Bool.not_eq_true', Bool.not_eq_true]
  lawful _ _ := isMatch_congr_classical item

/-- Double negation keeps the matches, but not the unknown. -/
example :
    let item := WorkItem.new "1" ⟨⟨2024, 2, 29, 16, 45, 0, 0⟩, by decide⟩ "a" "bug" "Crash"
    let planned := leaf ⟨.iteration, .eq "s"⟩
    evaluate item planned = .unknown ∧ evaluate item (not (not planned)) = .fails := by
  decide

end Predicate
end Backlog
