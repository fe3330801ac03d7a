/-!
# Hexadecimal — digits to the base sixteen

A hexadecimal digit is read in either case (`hexValue?`).  Numbers are written with lower-case digits (`hexDigits`),
single digits in the case that the place asks for.
-/
namespace Backlog
namespace Text

def hexValue? (c : Char) : Option Nat :=
  if c.isDigit then some (c.toNat - '0'.toNat)
  else if 'a' ≤ c && c ≤ 'f' then some (c.toNat - 'a'.toNat + 10)
  else if 'A' ≤ c && c ≤ 'F' then some (c.toNat - 'A'.toNat + 10)
  else none

def hexLower (n : Nat) : Char :=
  n.digitChar

def hexUpper (n : Nat) : Char :=
  n.digitChar.toUpper

def hexDigits (n : Nat) : List Char :=
  Nat.toDigits 16 n

def hexBytes? : List Char → Option (List UInt8)
  | [] => some []
  | a :: b :: r => do
    let x ← hexValue? a
    let y ← hexValue? b
    let bytes ← hexBytes? r
    return UInt8.ofNat (16 * x + y) :: bytes
  | [_] => none

/-- **A digit that is written reads back**, in either case. -/
theorem hexValue?_digit : ∀ n : Fin 16, hexValue? (hexLower n) = some n.val ∧ hexValue? (hexUpper n) = some n.val := by
  decide

end Text
end Backlog
