import Backlog.Binary64
import Backlog.Json.Basic
import Backlog.Text.Decimal
import Backlog.Text.Hexadecimal
import Backlog.Text.Parts
import Backlog.Timestamp
/-!
# Scalar — the words of a configuration text that are values

A word is a longest run of letters, digits and a few signs.  It is a truth value, a whole number of 64 bits with sign, a
float or a date with or without a time, or it is nothing; `scalar?` says which.  Between two digits of a number there
may be an underscore.

As JSON has no dates, a date is an object with one member, and as it has no infinity and nothing for what is not a
number, both are zero; no setting is a float or a date, so nothing more than the kind of such a value counts.
-/
namespace Backlog
namespace Toml

def isWordChar (c : Char) : Bool :=
  c.isAlphanum || c == '_' || c == '+' || c == '-' || c == '.' || c == ':'

/-! ## Numbers -/

def digitRun? (isDigit : Char → Bool) (cs : List Char) : Option (List Char) :=
  let parts := Text.splitAtEvery '_' cs
  if parts.all fun p => !p.isEmpty && p.all isDigit then some parts.flatten else none

/-- The digits of a run that has no leading zero unless it is one. -/
def plainRun? (cs : List Char) : Option (List Char) :=
  match digitRun? Char.isDigit cs with
  | some ('0' :: _ :: _) => none
  | run => run

def splitSign : List Char → Bool × List Char
  | '-' :: r => (true, r)
  | '+' :: r => (false, r)
  | r => (false, r)

def signedWord? (n : Int) : Option Int :=
  if -Int.ofNat Text.maxSigned - 1 ≤ n && n ≤ Int.ofNat Text.maxSigned then some n else none

def ofDigitsTo? (base : Nat) (cs : List Char) : Option Int := do
  let ds ← digitRun? (fun c => (Text.hexValue? c).any (· < base)) cs
  signedWord? (ds.foldl (fun n c => base * n + (Text.hexValue? c).getD 0) 0 : Nat)

/-- A whole number: decimal with a sign, or without one to the base 16, 8 or 2. -/
def integer? : List Char → Option Int
  | '0' :: 'x' :: r => ofDigitsTo? 16 r
  | '0' :: 'o' :: r => ofDigitsTo? 8 r
  | '0' :: 'b' :: r => ofDigitsTo? 2 r
  | cs => do
    let (negative, r) := splitSign cs
    let n := Int.ofNat (Nat.ofDigitChars 10 (← plainRun? r) 0)
    signedWord? (if negative then -n else n)

def exponent? (cs : List Char) : Option Int := do
  let (negative, r) := splitSign cs
  let n := Int.ofNat (Nat.ofDigitChars 10 (← digitRun? Char.isDigit r) 0)
  return if negative then -n else n

/-- A float without its sign: its digits before and after the point, and its exponent.  One of the latter two is there.
-/
def unsignedFloat? (cs : List Char) : Option (List Char × List Char × Int) := do
  let isE (c : Char) := c == 'e' || c == 'E'
  let mantissa := cs.takeWhile fun c => !isE c
  let whole ← plainRun? (mantissa.takeWhile (· != '.'))
  match mantissa.dropWhile (· != '.'), cs.dropWhile fun c => !isE c with
  | [], [] => none
  | [], _ :: e => return (whole, [], ← exponent? e)
  | _ :: f, [] => return (whole, ← digitRun? Char.isDigit f, 0)
  | _ :: f, _ :: e => return (whole, ← digitRun? Char.isDigit f, ← exponent? e)

/-- A float; a positive one must not be too large for its format. -/
def float? (cs : List Char) : Option Json.Number :=
  let (negative, r) := splitSign cs
  if r = ['i', 'n', 'f'] || r = ['n', 'a', 'n'] then some (.decimal negative 0 0)
  else do
    let (whole, fraction, exponent) ← unsignedFloat? r
    let significand := Nat.ofDigitChars 10 (whole ++ fraction) 0
    let exponent := exponent - Int.ofNat fraction.length
    if !negative && (Binary64.nearestDecimal significand exponent).isNone then none
    else return .decimal negative significand exponent

/-! ## Dates and times -/

def fixedNumber? (width : Nat) (cs : List Char) : Option Nat :=
  if cs.length = width then Text.ofDigits? cs else none

def isDate (cs : List Char) : Bool :=
  match Text.splitAtEvery '-' cs with
  | [y, m, d] =>
    match fixedNumber? 4 y, fixedNumber? 2 m, fixedNumber? 2 d with
    | some y, some m, some d => 1 ≤ m && m ≤ 12 && 1 ≤ d && d ≤ daysInMonth y m
    | _, _, _ => false
  | _ => false

def isClock (cs : List Char) : Bool :=
  match Text.splitAtEvery ':' cs with
  | [h, m] => (fixedNumber? 2 h).any (· ≤ 23) && (fixedNumber? 2 m).any (· ≤ 59)
  | _ => false

def isSecond (cs : List Char) : Bool :=
  (fixedNumber? 2 (cs.take 2)).any (· ≤ 60) &&
    match cs.drop 2 with
    | [] => true
    | '.' :: f => !f.isEmpty && f.all Char.isDigit
    | _ => false

def isTime (cs : List Char) : Bool :=
  isClock (cs.take 5) && cs[5]? == some ':' && isSecond (cs.drop 6)

def isTimeWithOffset (cs : List Char) : Bool :=
  let time := cs.takeWhile fun c => c.isDigit || c == ':' || c == '.'
  isTime time &&
    match cs.drop time.length with
    | [] => true
    | ['Z'] => true
    | ['z'] => true
    | '+' :: r => isClock r
    | '-' :: r => isClock r
    | _ => false

def isMoment (cs : List Char) : Bool :=
  isDate cs || isTime cs ||
    (isDate (cs.take 10) && (cs[10]? == some 'T' || cs[10]? == some 't') && isTimeWithOffset (cs.drop 11))

def moment (cs : List Char) : Json :=
  .obj [("date", .str (String.ofList cs))]

/-! ## Words -/

/-- **The value that a word denotes.** -/
def scalar? (cs : List Char) : Option Json :=
  if cs = "true".toList then some (.bool true)
  else if cs = "false".toList then some (.bool false)
  else if isMoment cs then some (moment cs)
  else match integer? cs with
    | some n => some (.num (.integer n))
    | none => (float? cs).map .num

end Toml
end Backlog
