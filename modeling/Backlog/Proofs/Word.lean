import Backlog.Text.Decimal
/-!
# Word — numbers of 64 bits

Arithmetic on words either refuses what has no result (`sub?`, `mul?`, `div?`) or stops at the end of the range
(`addUpToMax`, `subDownToZero`).  Where there is a result, it is the one that the numbers have.
-/
namespace Backlog
namespace Word

theorem toNat_max (a b : UInt64) : (max a b).toNat = max a.toNat b.toNat := by
  show (if a ≤ b then b else a).toNat = _
  split <;> simp only [UInt64.le_iff_toNat_le] at * <;> omega

theorem toNat_min (a b : UInt64) : (min a b).toNat = min a.toNat b.toNat := by
  show (if a ≤ b then a else b).toNat = _
  split <;> simp only [UInt64.le_iff_toNat_le] at * <;> omega

theorem toNat_le_maxWord (n : UInt64) : n.toNat ≤ Text.maxWord :=
  Nat.le_of_lt_succ n.toNat_lt

theorem toNat_eq_zero_iff {a : UInt64} : a.toNat = 0 ↔ a = 0 :=
  UInt64.toNat_inj (b := 0)

/-! ## Operations that refuse -/

def sub? (a b : UInt64) : Option UInt64 :=
  if b ≤ a then some (a - b) else none

def mul? (a b : UInt64) : Option UInt64 :=
  if a.toNat * b.toNat ≤ Text.maxWord then some (a * b) else none

def div? (a b : UInt64) : Option UInt64 :=
  if b = 0 then none else some (a / b)

theorem exists_sub? {a b : UInt64} (h : b.toNat ≤ a.toNat) : ∃ c, sub? a b = some c ∧ c.toNat = a.toNat - b.toNat := by
  have hle : b ≤ a := UInt64.le_iff_toNat_le.2 h
  exact ⟨a - b, if_pos hle, UInt64.toNat_sub_of_le a b hle⟩

theorem exists_mul? {a b : UInt64} (h : a.toNat * b.toNat ≤ Text.maxWord) :
    ∃ c, mul? a b = some c ∧ c.toNat = a.toNat * b.toNat := by
  refine ⟨a * b, if_pos h, ?_⟩
  rw [UInt64.toNat_mul]
  exact Nat.mod_eq_of_lt (Nat.lt_succ_of_le h)

theorem exists_div? {b : UInt64} (h : b.toNat ≠ 0) (a : UInt64) :
    ∃ c, div? a b = some c ∧ c.toNat = a.toNat / b.toNat :=
  ⟨a / b, if_neg (mt toNat_eq_zero_iff.2 h), UInt64.toNat_div a b⟩

/-! ## Operations that stop -/

def addUpToMax (a b : UInt64) : UInt64 :=
  if a.toNat + b.toNat ≤ Text.maxWord then a + b else UInt64.ofNat Text.maxWord

def subDownToZero (a b : UInt64) : UInt64 :=
  if b ≤ a then a - b else 0

theorem toNat_addUpToMax (a b : UInt64) : (addUpToMax a b).toNat = min (a.toNat + b.toNat) Text.maxWord := by
  unfold addUpToMax
  split
  · next h =>
    rw [UInt64.toNat_add, Nat.min_eq_left h]
    exact Nat.mod_eq_of_lt (Nat.lt_succ_of_le h)
  · next h =>
    rw [Nat.min_eq_right (Nat.le_of_not_le h)]
    rfl

theorem toNat_subDownToZero (a b : UInt64) : (subDownToZero a b).toNat = a.toNat - b.toNat := by
  unfold subDownToZero
  split
  · next h => exact UInt64.toNat_sub_of_le a b h
  · next h =>
    rw [UInt64.le_iff_toNat_le] at h
    rw [UInt64.toNat_zero]
    omega

end Word
end Backlog
