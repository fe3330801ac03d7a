import Backlog.Binary64.Shortest
/-!
# Number — the numbers of a JSON text

A number without fraction and exponent that fits 64 bits, signed or unsigned, is a whole number and is written as one.
Every other number is a 64-bit float: its first digits as long as they fit 64 bits, the rest dropped, and a power of
ten. `Number.ofLexeme` makes that distinction for what the reader found, `Number.text` writes a number: a float with its
shortest digits, positionally from 10⁻⁵ up to 10¹⁶ and with `.0` when it has no fraction, else with a signed exponent.
-/
namespace Backlog
namespace Json

/-- A number: whole, or a sign, digits and a power of ten. -/
inductive Number
  | integer (value : Int)
  | decimal (negative : Bool) (significand : Nat) (exponent : Int)
deriving DecidableEq, Repr

namespace Number

/-- The digits read so far as a number below 2⁶⁴, and the power of ten that goes with it. -/
structure Digits where
  significand : Nat
  exponent : Int
  full : Bool

/-- One more digit before the point: appended while the number fits 64 bits, counted in the exponent from then on. -/
def Digits.pushWhole (d : Digits) (c : Char) : Digits :=
  let next := 10 * d.significand + (c.toNat - '0'.toNat)
  if d.full || Text.maxWord < next then { d with exponent := d.exponent + 1, full := true }
  else { d with significand := next }

/-- One more digit after the point: appended while the number fits 64 bits, dropped from then on. -/
def Digits.pushFraction (d : Digits) (c : Char) : Digits :=
  let next := 10 * d.significand + (c.toNat - '0'.toNat)
  if d.full || Text.maxWord < next then { d with full := true }
  else { d with significand := next, exponent := d.exponent - 1 }

/-- The number of a sign, the digits before and after the point, and an exponent. -/
def ofLexeme (negative : Bool) (whole fraction : List Char) (exponent : Option Int) : Number :=
  let n := Nat.ofDigitChars 10 whole 0
  if fraction.isEmpty && exponent.isNone && !negative && n ≤ Text.maxWord then integer n
  else if fraction.isEmpty && exponent.isNone && negative && 0 < n && n ≤ Text.maxSigned + 1 then integer (-n)
  else
    let d := whole.foldl Digits.pushWhole ⟨0, 0, false⟩
    let d := fraction.foldl Digits.pushFraction { d with full := false }
    decimal negative d.significand (d.exponent + exponent.getD 0)

def isFinite : Number → Bool
  | integer _ => true
  | decimal _ significand exponent => (Binary64.ofDecimal significand exponent).isSome

def decimalText (d : Binary64.Decimal) : List Char :=
  let ds := Text.digits d.digits
  let point := Int.ofNat ds.length + d.exponent
  if 0 ≤ d.exponent && point ≤ 16 then ds ++ List.replicate d.exponent.toNat '0' ++ ['.', '0']
  else if 0 < point && point ≤ 16 then ds.take point.toNat ++ '.' :: ds.drop point.toNat
  else if -5 < point && point ≤ 0 then ['0', '.'] ++ List.replicate (-point).toNat '0' ++ ds
  else
    let exponent := point - 1
    let fraction := if ds.length = 1 then [] else '.' :: ds.drop 1
    ds.take 1 ++ fraction ++ 'e' :: (if exponent < 0 then '-' else '+') :: Text.digits exponent.natAbs

def text : Number → List Char
  | integer value => (if value < 0 then ['-'] else []) ++ Text.digits value.natAbs
  | decimal negative significand exponent =>
    let shown := ((Binary64.ofDecimal significand exponent).map Binary64.shortest).getD ⟨significand, exponent⟩
    (if negative then ['-'] else []) ++ decimalText shown

end Number
end Json
end Backlog
