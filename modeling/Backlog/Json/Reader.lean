import Backlog.Json.Basic
import Backlog.Text.Hexadecimal
/-!
# Reader — from text to JSON values

The grammar is that of RFC 8259 and nothing more: four kinds of blanks, no comma after the last item, no control
character inside a string, escapes of UTF-16 surrogates only in pairs, nothing after the value.  Arrays and objects nest
at most `maxDepth` deep, and a number has to be finite.  `readLoosely?` is for texts of which only known parts are
looked at: it lifts the last two limits, and halves of surrogate pairs are passed over where nobody looks.

Every reader takes a text and gives what it read with the rest of the text.  Nesting is followed by recursion on the
depth that is left, a list of items by recursion on a count, for which the length of the whole text is enough.
-/
namespace Backlog
namespace Json

def isBlank (c : Char) : Bool :=
  c == ' ' || c == '\n' || c == '\r' || c == '\t'

def skipBlanks (cs : List Char) : List Char :=
  cs.dropWhile isBlank

def unit? (a b c d : Char) : Option Nat := do
  let a ← Text.hexValue? a
  let b ← Text.hexValue? b
  let c ← Text.hexValue? c
  let d ← Text.hexValue? d
  return ((a * 16 + b) * 16 + c) * 16 + d

def shortEscape? (c : Char) : Option Char :=
  match c with
  | '"' => some '"'
  | '\\' => some '\\'
  | '/' => some '/'
  | 'b' => some '\x08'
  | 'f' => some '\x0c'
  | 'n' => some '\n'
  | 'r' => some '\r'
  | 't' => some '\t'
  | _ => none

def isHighSurrogate (u : Nat) : Bool :=
  0xD800 ≤ u && u ≤ 0xDBFF

def isLowSurrogate (u : Nat) : Bool :=
  0xDC00 ≤ u && u ≤ 0xDFFF

/-- The characters of a string up to its closing quotation mark; the opening one is already read. -/
def stringBody : List Char → Option (List Char × List Char)
  | [] => none
  | '"' :: r => some ([], r)
  | '\\' :: 'u' :: a :: b :: c :: d :: r =>
    match unit? a b c d with
    | none => none
    | some u =>
      if isHighSurrogate u then
        match r with
        | '\\' :: 'u' :: e :: f :: g :: h :: r' =>
          match unit? e f g h with
          | none => none
          | some l =>
            if isLowSurrogate l then
              (stringBody r').map fun (s, t) => (Char.ofNat (0x10000 + (u - 0xD800) * 0x400 + (l - 0xDC00)) :: s, t)
            else none
        | _ => none
      else if isLowSurrogate u then none
      else (stringBody r).map fun (s, t) => (Char.ofNat u :: s, t)
  | '\\' :: c :: r =>
    match shortEscape? c with
    | some e => (stringBody r).map fun (s, t) => (e :: s, t)
    | none => none
  | c :: r => if c.toNat < 0x20 then none else (stringBody r).map fun (s, t) => (c :: s, t)

/-- The rest of a text after the closing quotation mark of a string, whatever UTF-16 units its escapes spell. -/
def afterString? : List Char → Option (List Char)
  | [] => none
  | '"' :: r => some r
  | '\\' :: 'u' :: a :: b :: c :: d :: r => if (unit? a b c d).isSome then afterString? r else none
  | '\\' :: c :: r => if (shortEscape? c).isSome then afterString? r else none
  | c :: r => if c.toNat < 0x20 then none else afterString? r

/-- How a text is read: as a whole, or for the known parts of it, while the others are passed over. -/
inductive Scrutiny
  | whole
  | known
deriving DecidableEq, Repr

namespace Scrutiny

/-- Whether a number is taken: one that is too large is only passed over. -/
def takes : Scrutiny → Number → Bool
  | whole, n => n.isFinite
  | known, _ => true

/-- A string after its opening quotation mark.  One with half of a surrogate pair is no text and only passed over. -/
def string (s : Scrutiny) (cs : List Char) : Option (Option String × List Char) :=
  match stringBody cs with
  | some (t, r) => some (some (String.ofList t), r)
  | none =>
    match s with
    | whole => none
    | known => (afterString? cs).map fun r => (none, r)

end Scrutiny

/-- What stands for a string that is no text.  No known part is a number with a fraction, so it is refused where it is
looked at. -/
def passedOver : Json := .num (.decimal false 0 0)

def ofString : Option String → Json
  | some s => .str s
  | none => passedOver

/-- The value of members, each of whose names has to be a text. -/
def ofMembers (ms : List (Option String × Json)) : Json :=
  match ms.mapM fun (name, v) => name.map fun n => (n, v) with
  | some ms => .obj ms
  | none => passedOver

def digitRun (cs : List Char) : List Char × List Char :=
  (cs.takeWhile Char.isDigit, cs.dropWhile Char.isDigit)

/-- The digits before the point: a zero alone, or a run that starts with another digit. -/
def wholePart : List Char → Option (List Char × List Char)
  | '0' :: r => some (['0'], r)
  | cs => match digitRun cs with
    | ([], _) => none
    | run => some run

def fractionPart : List Char → Option (List Char × List Char)
  | '.' :: r => match digitRun r with
    | ([], _) => none
    | run => some run
  | cs => some ([], cs)

/-- The number after the letter `e`, which may have a sign. -/
def exponentDigits (negative : Bool) (cs : List Char) : Option (Option Int × List Char) :=
  match digitRun cs with
  | ([], _) => none
  | (ds, r) =>
    let n := Int.ofNat (Nat.ofDigitChars 10 ds 0)
    some (some (if negative then -n else n), r)

def exponentPart : List Char → Option (Option Int × List Char)
  | c :: r =>
    if c == 'e' || c == 'E' then
      match r with
      | '+' :: r' => exponentDigits false r'
      | '-' :: r' => exponentDigits true r'
      | r' => exponentDigits false r'
    else some (none, c :: r)
  | [] => some (none, [])

def unsignedNumber (negative : Bool) (cs : List Char) : Option (Number × List Char) := do
  let (whole, r) ← wholePart cs
  let (fraction, r) ← fractionPart r
  let (exponent, r) ← exponentPart r
  return (Number.ofLexeme negative whole fraction exponent, r)

def number : List Char → Option (Number × List Char)
  | '-' :: r => unsignedNumber true r
  | cs => unsignedNumber false cs

/-- The rest of a text after a word it has to start with. -/
def afterWord? (w : List Char) (cs : List Char) : Option (List Char) :=
  if w.isPrefixOf cs then some (cs.drop w.length) else none

/-- The items of an array that is not empty, up to its closing bracket; at most `count` of them. -/
def items (item : List Char → Option (Json × List Char)) : (count : Nat) → List Char → Option (List Json × List Char)
  | 0, _ => none
  | count + 1, cs =>
    match item cs with
    | none => none
    | some (v, r) =>
      match skipBlanks r with
      | ',' :: r' => (items item count r').map fun (vs, t) => (v :: vs, t)
      | ']' :: r' => some ([v], r')
      | _ => none

def memberName (s : Scrutiny) (cs : List Char) : Option (Option String × List Char) :=
  match skipBlanks cs with
  | '"' :: r =>
    match s.string r with
    | none => none
    | some (name, r') =>
      match skipBlanks r' with
      | ':' :: r'' => some (name, r'')
      | _ => none
  | _ => none

/-- The members of an object that is not empty, up to its closing brace; at most `count` of them. -/
def members (s : Scrutiny) (item : List Char → Option (Json × List Char)) :
    (count : Nat) → List Char → Option (List (Option String × Json) × List Char)
  | 0, _ => none
  | count + 1, cs =>
    match memberName s cs with
    | none => none
    | some (name, r) =>
      match item r with
      | none => none
      | some (v, r') =>
        match skipBlanks r' with
        | ',' :: r'' => (members s item count r'').map fun (ms, t) => ((name, v) :: ms, t)
        | '\x7d' :: r'' => some ([(name, v)], r'')
        | _ => none

def arrayBody (item : List Char → Option (Json × List Char)) (count : Nat) (cs : List Char) :
    Option (Json × List Char) :=
  match skipBlanks cs with
  | ']' :: r => some (.arr [], r)
  | r => (items item count r).map fun (vs, t) => (.arr vs, t)

def objectBody (s : Scrutiny) (item : List Char → Option (Json × List Char)) (count : Nat) (cs : List Char) :
    Option (Json × List Char) :=
  match skipBlanks cs with
  | '\x7d' :: r => some (.obj [], r)
  | r => (members s item count r).map fun (ms, t) => (ofMembers ms, t)

/-- A value that is neither array nor object and starts with no blank. -/
def scalar (s : Scrutiny) (cs : List Char) : Option (Json × List Char) :=
  match cs with
  | '"' :: r => (s.string r).map fun (text, t) => (ofString text, t)
  | 't' :: r => (afterWord? "rue".toList r).map fun t => (.bool true, t)
  | 'f' :: r => (afterWord? "alse".toList r).map fun t => (.bool false, t)
  | 'n' :: r => (afterWord? "ull".toList r).map fun t => (.null, t)
  | _ => match number cs with
    | some (n, t) => if s.takes n then some (.num n, t) else none
    | none => none

/-- A value, in which arrays and objects nest at most `depth` deep and have at most `count` items. -/
def value (s : Scrutiny) (count : Nat) : (depth : Nat) → List Char → Option (Json × List Char)
  | 0, cs =>
    match skipBlanks cs with
    | '[' :: _ => none
    | '\x7b' :: _ => none
    | r => scalar s r
  | depth + 1, cs =>
    match skipBlanks cs with
    | '[' :: r => arrayBody (value s count depth) count r
    | '\x7b' :: r => objectBody s (value s count depth) count r
    | r => scalar s r

def readWith? (s : Scrutiny) (depth : Nat) (cs : List Char) : Option Json :=
  match value s cs.length depth cs with
  | some (v, r) => if (skipBlanks r).isEmpty then some v else none
  | none => none

def maxDepth : Nat := 127

def read? (s : String) : Option Json :=
  readWith? .whole maxDepth s.toList

/-- The value of a text of which only known parts are looked at, whatever its depth. -/
def readLoosely? (s : String) : Option Json :=
  readWith? .known s.toList.length s.toList

end Json
end Backlog
