/-!
# Decimal — whole numbers in text

A whole number is written with its decimal digits and no leading zero.  Reading takes one or more ASCII digits after an
optional `+`, leading zeros included, and refuses a value that does not fit 64 bits (`maxWord`).
-/
namespace Backlog
namespace Text

def maxWord : Nat := 18446744073709551615

def maxSigned : Nat := 9223372036854775807

def digits (n : Nat) : List Char :=
  Nat.toDigits 10 n

def decimal (n : Nat) : String :=
  String.ofList (digits n)

def ofDigits? (cs : List Char) : Option Nat :=
  if cs.isEmpty || !cs.all Char.isDigit then none else some (Nat.ofDigitChars 10 cs 0)

def readWord? (cs : List Char) : Option Nat :=
  match ofDigits? (match cs with | '+' :: r => r | r => r) with
  | some n => if n ≤ maxWord then some n else none
  | none => none

theorem digits_ne_nil (n : Nat) : digits n ≠ [] := by
  intro h
  have hn := Nat.ofDigitChars_toDigits (b := 10) (n := n) (by omega) (by omega)
  rw [digits] at h
  rw [h] at hn
  subst hn
  exact absurd h (by decide)

theorem all_isDigit_digits (n : Nat) : (digits n).all Char.isDigit = true :=
  List.all_eq_true.2 fun _ h => Nat.isDigit_of_mem_toDigits (by omega) (by omega) h

theorem ofDigits?_digits (n : Nat) : ofDigits? (digits n) = some n := by
  have hn := Nat.ofDigitChars_toDigits (b := 10) (n := n) (by omega) (by omega)
  rw [ofDigits?, all_isDigit_digits]
  simp [digits, hn]

theorem readWord?_digits {n : Nat} (h : n ≤ maxWord) : readWord? (digits n) = some n := by
  rw [readWord?, ofDigits?_digits]
  · exact if_pos h
  · intro r hplus
    have hdigit : '+'.isDigit = true :=
      List.all_eq_true.1 (all_isDigit_digits n) '+' (hplus ▸ List.mem_cons_self)
    exact absurd hdigit (by decide)

theorem decimal_inj {m n : Nat} : decimal m = decimal n ↔ m = n := by
  refine ⟨fun h => ?_, fun h => h ▸ rfl⟩
  have hm := ofDigits?_digits m
  rw [show digits m = digits n from String.ofList_injective h, ofDigits?_digits] at hm
  exact (Option.some.inj hm).symm

end Text
end Backlog
