import Backlog.Text.Blank
import Backlog.Text.Decimal
/-!
# Numeral — the texts that are read as numbers

A number of 64 bits is read from exactly the texts that write one that is small enough (`readWord?_eq_some_iff`): zeros in
front and a sign make no difference to the number, and nothing but digits may follow the sign.  The text with which a
number is written is one of these, and it has no blanks that could be taken off (`readWord?_trim_decimal`).
-/
namespace Backlog
namespace Text

variable {cs ds : List Char} {m n : Nat}

/-- Whether a text writes a number: with decimal digits after an optional `+`. -/
def IsNumeral (cs : List Char) (n : Nat) : Prop :=
  ∃ ds, (cs = ds ∨ cs = '+' :: ds) ∧ ds ≠ [] ∧ (∀ d ∈ ds, d.isDigit = true) ∧ Nat.ofDigitChars 10 ds 0 = n

theorem ofDigits?_eq_some_iff :
    ofDigits? ds = some n ↔ ds ≠ [] ∧ (∀ d ∈ ds, d.isDigit = true) ∧ Nat.ofDigitChars 10 ds 0 = n := by
  rw [ofDigits?, ← List.all_eq_true]
  cases ds with
  | nil => simp
  | cons d ds => cases (d :: ds).all Char.isDigit <;> simp

def unsigned (cs : List Char) : List Char :=
  match cs with | '+' :: r => r | r => r

theorem unsigned_of_isDigit (h : ∀ d ∈ ds, d.isDigit = true) : unsigned ds = ds := by
  unfold unsigned
  split
  · -- a sign is no digit
    exact absurd (h '+' List.mem_cons_self) (by decide)
  · rfl

theorem readWord?_eq_filter (cs : List Char) :
    readWord? cs = (ofDigits? (unsigned cs)).filter fun n => n ≤ maxWord := by
  unfold readWord?
  split
  · next n hn =>
    have hn : ofDigits? (unsigned cs) = some n := hn
    rw [hn, Option.filter_some]
    simp
  · next hnone =>
    have hnone : ofDigits? (unsigned cs) = none := hnone
    rw [hnone]
    rfl

theorem isNumeral_iff : IsNumeral cs n ↔ ofDigits? (unsigned cs) = some n := by
  rw [ofDigits?_eq_some_iff]
  constructor
  · rintro ⟨ds, rfl | rfl, hds⟩
    · rwa [unsigned_of_isDigit hds.2.1]
    · exact hds
  · intro hds
    unfold unsigned at hds
    split at hds
    · next r => exact ⟨r, .inr rfl, hds⟩
    · exact ⟨cs, .inl rfl, hds⟩

theorem IsNumeral.unique (hm : IsNumeral cs m) (hn : IsNumeral cs n) : m = n := by
  rw [isNumeral_iff] at hm hn
  exact Option.some.inj (hm.symm.trans hn)

/-- **A number is read from the texts that write it**, unless it is too large. -/
theorem readWord?_eq_some_iff : readWord? cs = some n ↔ IsNumeral cs n ∧ n ≤ maxWord := by
  rw [readWord?_eq_filter, Option.filter_eq_some_iff, isNumeral_iff, decide_eq_true_eq]

theorem readWord?_trim_decimal (h : n ≤ maxWord) : readWord? (trim (decimal n).toList) = some n := by
  have hdigits : ∀ c ∈ digits n, isBlank c = false := fun c hc =>
    isBlank_of_isDigit (List.all_eq_true.1 (all_isDigit_digits n) c hc)
  rw [decimal, String.toList_ofList, trim_eq_self hdigits, readWord?_digits h]

end Text
end Backlog
