import Backlog.Text.Blank
import Backlog.Text.Decimal
/-!
# Timestamp — a moment in universal time and its text

A timestamp is a date of the Gregorian calendar and a time of day, both in UTC, with nanoseconds.  A leap second keeps
the 59th second and counts a billion nanoseconds and more.  `Timestamp.read?` takes the form of RFC 3339 with any offset
and is lenient about it: blanks may stand before a number and around a separator, leading zeros may be missing, a space
or either case of `T` separates date and time, `Z` or `UTC` in any case is the zero offset.  `Timestamp.text` writes the
one form in UTC with `Z`, the fraction left out when it is zero and else with 3, 6 or 9 digits, as few as are exact.

The order in time is the order of the fields, the year first (`Timestamp.fields`).
-/
namespace Backlog

def isLeapYear (year : Int) : Bool :=
  year % 4 == 0 && (year % 100 != 0 || year % 400 == 0)

def daysInMonth (year : Int) (month : Nat) : Nat :=
  if month == 2 then (if isLeapYear year then 29 else 28)
  else if month == 4 || month == 6 || month == 9 || month == 11 then 30
  else 31

def nanosPerSecond : Nat := 1000000000

structure DateTime where
  year : Int
  month : Nat
  day : Nat
  hour : Nat
  minute : Nat
  second : Nat
  nano : Nat
deriving DecidableEq, Repr

namespace DateTime

def Exists (t : DateTime) : Prop :=
  -262143 ≤ t.year ∧ t.year ≤ 262142 ∧ 1 ≤ t.month ∧ t.month ≤ 12 ∧ 1 ≤ t.day ∧ t.day ≤ daysInMonth t.year t.month ∧
    t.hour ≤ 23 ∧ t.minute ≤ 59 ∧ t.second ≤ 59 ∧ t.nano < 2 * nanosPerSecond ∧
    (nanosPerSecond ≤ t.nano → t.second = 59)

instance (t : DateTime) : Decidable t.Exists := by
  unfold Exists; infer_instance

def nextDay (t : DateTime) : DateTime :=
  if t.day < daysInMonth t.year t.month then { t with day := t.day + 1 }
  else if t.month < 12 then { t with month := t.month + 1, day := 1 }
  else { t with year := t.year + 1, month := 1, day := 1 }

def previousDay (t : DateTime) : DateTime :=
  if 1 < t.day then { t with day := t.day - 1 }
  else if 1 < t.month then { t with month := t.month - 1, day := daysInMonth t.year (t.month - 1) }
  else { t with year := t.year - 1, month := 12, day := 31 }

def toUtc (t : DateTime) (offset : Int) : DateTime :=
  let m := Int.ofNat (t.hour * 60 + t.minute) - offset
  if m < 0 then
    let m := (m + 1440).toNat
    { t.previousDay with hour := m / 60, minute := m % 60 }
  else if 1440 ≤ m then
    let m := (m - 1440).toNat
    { t.nextDay with hour := m / 60, minute := m % 60 }
  else { t with hour := m.toNat / 60, minute := m.toNat % 60 }

/-! ## Text -/

def padded (width n : Nat) : List Char :=
  List.replicate (width - (Text.digits n).length) '0' ++ Text.digits n

def yearText (year : Int) : List Char :=
  if 0 ≤ year && year ≤ 9999 then padded 4 year.toNat
  else (if year < 0 then '-' else '+') :: padded 4 year.natAbs

def fractionText (nano : Nat) : List Char :=
  if nano = 0 then []
  else if nano % 1000000 = 0 then '.' :: padded 3 (nano / 1000000)
  else if nano % 1000 = 0 then '.' :: padded 6 (nano / 1000)
  else '.' :: padded 9 nano

def shownSecond (t : DateTime) : Nat :=
  if nanosPerSecond ≤ t.nano then t.second + 1 else t.second

def text (t : DateTime) : List Char :=
  yearText t.year ++ '-' :: (padded 2 t.month ++ '-' :: (padded 2 t.day ++ 'T' :: (padded 2 t.hour ++ ':' ::
    (padded 2 t.minute ++ ':' :: (padded 2 t.shownSecond ++ (fractionText (t.nano % nanosPerSecond) ++ ['Z']))))))

/-! ## Reading -/

/-- A number of at most `width` digits, blanks before it skipped. -/
def number? (width : Nat) (cs : List Char) : Option (Nat × List Char) :=
  let cs := Text.dropBlanks cs
  let ds := (cs.take width).takeWhile Char.isDigit
  if ds.isEmpty then none else some (Nat.ofDigitChars 10 ds 0, cs.drop ds.length)

/-- A number of digits without a limit, no blank before it. -/
def longNumber? (cs : List Char) : Option (Nat × List Char) :=
  let ds := cs.takeWhile Char.isDigit
  if ds.isEmpty then none else some (Nat.ofDigitChars 10 ds 0, cs.drop ds.length)

/-- A year: up to four digits, or a sign and any number of them. -/
def year? (cs : List Char) : Option (Int × List Char) :=
  match Text.dropBlanks cs with
  | '-' :: r => (longNumber? r).map fun (n, t) => (-Int.ofNat n, t)
  | '+' :: r => (longNumber? r).map fun (n, t) => (Int.ofNat n, t)
  | r => (number? 4 r).map fun (n, t) => (Int.ofNat n, t)

/-- The rest of a text after a character it starts with, blanks before it skipped. -/
def mark? (c : Char) (cs : List Char) : Option (List Char) :=
  match Text.dropBlanks cs with
  | d :: r => if d == c then some r else none
  | [] => none

/-- The nanoseconds of a fraction, of which the first nine digits count; zero without a point. -/
def nano? : List Char → Option (Nat × List Char)
  | '.' :: r =>
    let ds := r.takeWhile Char.isDigit
    if ds.isEmpty then none
    else
      let first := ds.take 9
      some (Nat.ofDigitChars 10 first 0 * Nat.pow 10 (9 - first.length), r.drop ds.length)
  | r => some (0, r)

def twoDigits? : List Char → Option (Nat × List Char)
  | a :: b :: r => if a.isDigit && b.isDigit then some (Nat.ofDigitChars 10 [a, b] 0, r) else none
  | _ => none

/-- Hours and minutes of an offset, in minutes; colons and blanks may stand between them. -/
def offsetMinutes? (cs : List Char) : Option (Nat × List Char) := do
  let (hours, r) ← twoDigits? cs
  let (minutes, r) ← twoDigits? (r.dropWhile fun c => c == ':' || Text.isBlank c)
  if 59 < minutes || 23 < hours then none else some (hours * 60 + minutes, r)

/-- An offset from UTC in minutes: a letter for none, or a sign with hours and minutes. -/
def offset? (cs : List Char) : Option (Int × List Char) :=
  if (cs.take 3).map Char.toUpper == ['U', 'T', 'C'] then some (0, cs.drop 3)
  else match cs with
    | 'Z' :: r => some (0, r)
    | 'z' :: r => some (0, r)
    | '+' :: r => (offsetMinutes? r).map fun (n, t) => (Int.ofNat n, t)
    | '-' :: r => (offsetMinutes? r).map fun (n, t) => (-Int.ofNat n, t)
    | '\u2212' :: r => (offsetMinutes? r).map fun (n, t) => (-Int.ofNat n, t)
    | _ => none

def readLocal? (cs : List Char) : Option (DateTime × Int × List Char) := do
  let (year, r) ← year? cs
  let (month, r) ← number? 2 (← mark? '-' r)
  let (day, r) ← number? 2 (← mark? '-' r)
  let r ← match r with
    | c :: r => if c == 'T' || c == 't' || c == ' ' then some r else none
    | [] => none
  let (hour, r) ← number? 2 r
  let (minute, r) ← number? 2 (← mark? ':' r)
  let (second, r) ← number? 2 (← mark? ':' r)
  let (nano, r) ← nano? r
  let (offset, r) ← offset? (Text.dropBlanks r)
  let t : DateTime :=
    if second = 60 then ⟨year, month, day, hour, minute, 59, nano + nanosPerSecond⟩
    else ⟨year, month, day, hour, minute, second, nano⟩
  return (t, offset, r)

end DateTime

structure Timestamp where
  utc : DateTime
  exists_utc : utc.Exists
deriving DecidableEq

namespace Timestamp

def ofUtc? (t : DateTime) : Option Timestamp :=
  if h : t.Exists then some ⟨t, h⟩ else none

def fields (t : Timestamp) : List Int :=
  [t.utc.year, t.utc.month, t.utc.day, t.utc.hour, t.utc.minute, t.utc.second, t.utc.nano]

def text (t : Timestamp) : String :=
  String.ofList t.utc.text

def read? (s : String) : Option Timestamp :=
  match DateTime.readLocal? s.toList with
  | some (t, offset, r) =>
    if t.Exists && (Text.dropBlanks r).isEmpty then ofUtc? (t.toUtc offset) else none
  | none => none

theorem ext_fields {a b : Timestamp} (h : a.fields = b.fields) : a = b := by
  obtain ⟨⟨y, mo, d, ho, mi, s, n⟩, ha⟩ := a
  obtain ⟨⟨y', mo', d', ho', mi', s', n'⟩, hb⟩ := b
  simp only [fields, List.cons.injEq, Int.natCast_inj, and_true] at h
  obtain ⟨rfl, rfl, rfl, rfl, rfl, rfl, rfl⟩ := h
  rfl

end Timestamp
end Backlog
