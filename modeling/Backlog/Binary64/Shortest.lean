import Backlog.Binary64
import Backlog.Text.Decimal
/-!
# Shortest — the fewest digits that read back

Every number of the format is the nearest one to all reals of an interval around it, whose ends belong to it when the
number's last binary digit is even.  `shortest` looks for the decimal with the fewest digits in that interval: for one
digit, two digits and so on up to seventeen it tries the two neighbours of the number on the grid of that many digits,
and takes the nearer of those inside, on a tie the even one.
-/
namespace Backlog
namespace Binary64

structure Decimal where
  digits : Nat
  exponent : Int
deriving DecidableEq, Repr

/-- How often a fraction has to be multiplied by ten until it reaches one; at most `fuel` times. -/
def leadingZeros (fuel : Nat) (num den : Nat) : Nat :=
  match fuel with
  | 0 => 0
  | fuel + 1 => if num < den then leadingZeros fuel (num * 10) den + 1 else 0

def firstExponent (a : Binary64) : Int :=
  if one ≤ a.units then Int.ofNat ((Text.digits (a.units / one)).length - 1)
  else -Int.ofNat (leadingZeros 400 a.units one)

def roundsTo (a : Binary64) (d : Decimal) : Bool :=
  let s := step a.units
  let below := if a.units == 1 <<< Nat.log2 a.units && 1 < s then s else 2 * s
  let lo := 4 * a.units - below
  let hi := 4 * a.units + 2 * s
  let ends := a.units / s % 2 == 0
  match d.exponent with
  | .ofNat k =>
    let v := 4 * d.digits * Nat.pow 10 k * one
    if ends then lo ≤ v && v ≤ hi else lo < v && v < hi
  | .negSucc k =>
    let v := 4 * d.digits * one
    let t := Nat.pow 10 (k + 1)
    if ends then lo * t ≤ v && v ≤ hi * t else lo * t < v && v < hi * t

/-- The neighbour of the number on the grid of multiples of `10 ^ exponent` that is nearest and rounds to it. -/
def onGrid (a : Binary64) (exponent : Int) : Option Decimal :=
  let (num, den) := match exponent with
    | .ofNat k => (a.units, one * Nat.pow 10 k)
    | .negSucc k => (a.units * Nat.pow 10 (k + 1), one)
  let near : Decimal := ⟨roundHalfEven num den, exponent⟩
  let far : Decimal := ⟨if near.digits = num / den then num / den + 1 else num / den, exponent⟩
  if roundsTo a near then some near else if roundsTo a far then some far else none

/-- The first grid of at least `count` digits with a hit, tried `tries` times. -/
def searchGrids (a : Binary64) (first : Int) (count : Nat) : Nat → Option Decimal
  | 0 => none
  | tries + 1 =>
    match onGrid a (first + 1 - Int.ofNat count) with
    | some d => some d
    | none => searchGrids a first (count + 1) tries

/-- A decimal without zeros at its end, at most `fuel` of them taken away. -/
def Decimal.strip (fuel : Nat) (d : Decimal) : Decimal :=
  match fuel with
  | 0 => d
  | fuel + 1 => if d.digits != 0 && d.digits % 10 == 0 then strip fuel ⟨d.digits / 10, d.exponent + 1⟩ else d

def shortest (a : Binary64) : Decimal :=
  if a.units = 0 then ⟨0, 0⟩
  else ((searchGrids a (firstExponent a) 1 17).getD ⟨a.units, -1074⟩).strip 17

end Binary64
end Backlog
