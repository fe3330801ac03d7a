import Backlog.Text.Decimal
/-!
# Binary64 — the finite numbers of 64-bit floating point, exactly

A non-negative finite number of the binary64 format is a whole number of units of 2⁻¹⁰⁷⁴, and it has at most 53 binary
digits between its first and its last one.  `nearest` rounds a quotient to such a number, a tie to the even neighbour;
`product` and `quotient` are the format's two operations.  A decimal is read in two ways: `ofDecimal` rounds its digits,
the power of ten and the result, `nearestDecimal` the result alone.  All of it is arithmetic on natural numbers.  A sign
is kept by whoever needs one.
-/
namespace Backlog

/-- A non-negative finite number: `units` times 2⁻¹⁰⁷⁴. -/
structure Binary64 where
  units : Nat
deriving DecidableEq, Repr

namespace Binary64

def one : Nat := 1 <<< 1074

/-- The first number of units that is too large for the format: 2¹⁰²⁴. -/
def limit : Nat := 1 <<< 2098

/-- A quotient rounded to a whole number, a tie to the even neighbour; the denominator is positive. -/
def roundHalfEven (num den : Nat) : Nat :=
  let q := num / den
  let twice := 2 * (num % den)
  if twice < den || (twice == den && q % 2 == 0) then q else q + 1

/-- The distance between neighbours around a number of units: one up to 2⁵³, and doubling with every further digit. -/
def step (units : Nat) : Nat :=
  1 <<< (Nat.log2 units + 1 - 53)

def nearestUnits (num den : Nat) : Nat :=
  let s := step (num / den)
  roundHalfEven num (den * s) * s

def nearest (num den : Nat) : Option Binary64 :=
  let u := nearestUnits num den
  if u < limit then some ⟨u⟩ else none

def ofNat (n : Nat) : Option Binary64 :=
  nearest (n * one) 1

def product (a b : Binary64) : Option Binary64 :=
  nearest (a.units * b.units) one

def quotient (a b : Binary64) : Option Binary64 :=
  nearest (a.units * one) b.units

def maxPower : Nat := 308

def power (k : Nat) : Binary64 :=
  ⟨nearestUnits (Nat.pow 10 k * one) 1⟩

/-- A number below 2⁶⁴ divided by `10 ^ k` in steps of at most `maxPower` digits, each of them rounded.  Nothing is left
of such a number after two full steps. -/
def divPower : (steps : Nat) → Binary64 → Nat → Option Binary64
  | 0, _, _ => some ⟨0⟩
  | steps + 1, a, k =>
    if k ≤ maxPower then a.quotient (power k)
    else match a.quotient (power maxPower) with
      | some b => divPower steps b (k - maxPower)
      | none => none

/-- `significand · 10 ^ exponent` by one multiplication or division of rounded numbers, unless it is too large. -/
def ofDecimal (significand : Nat) (exponent : Int) : Option Binary64 :=
  match ofNat significand with
  | none => none
  | some a =>
    match exponent with
    | .ofNat k =>
      if k ≤ maxPower then a.product (power k)
      else if significand = 0 then some a
      else none
    | .negSucc k => divPower 3 a (k + 1)

/-- The number nearest to `significand · 10 ^ exponent`, rounded once, unless it is too large.  Beyond four hundred
places before or after the point, no digit has to be looked at. -/
def nearestDecimal (significand : Nat) (exponent : Int) : Option Binary64 :=
  let places := Int.ofNat (Text.digits significand).length + exponent
  if significand = 0 || places < -400 then some ⟨0⟩
  else if 400 < places then none
  else match exponent with
    | .ofNat k => nearest (significand * Nat.pow 10 k * one) 1
    | .negSucc k => nearest (significand * one) (Nat.pow 10 (k + 1))

end Binary64
end Backlog
