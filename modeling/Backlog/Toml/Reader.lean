import Backlog.Toml.Scalar
import Backlog.Toml.Table
/-!
# Reader — from a configuration text to a value

The text is in TOML 1.0.  It consists of lines: a header in brackets that opens a table, a name with a value, or
nothing; each may end with a comment.  Strings and arrays may go over several lines, tables that are values may not.
Arrays and tables as values nest at most `maxDepth` deep, and a dotted name has at most as many parts.

As in the reader of JSON, every reader takes a text and gives what it read with the rest of the text.
-/
namespace Backlog
namespace Toml

/-- How deep values may nest, and how many parts a dotted name may have. -/
def maxDepth : Nat := 79

/-! ## Blanks, comments and line ends -/

def isBlank (c : Char) : Bool :=
  c == ' ' || c == '\t'

/-- The characters that may stand in a comment: all but control characters, with the tab. -/
def isVisible (c : Char) : Bool :=
  c == '\t' || (0x20 ≤ c.toNat && c.toNat != 0x7F)

def skipBlanks (cs : List Char) : List Char :=
  cs.dropWhile isBlank

def skipComment : List Char → List Char
  | '#' :: r => r.dropWhile isVisible
  | cs => cs

def newline? : List Char → Option (List Char)
  | '\n' :: r => some r
  | '\r' :: '\n' :: r => some r
  | _ => none

/-- The rest of a text after blanks, a comment and the end of the line or of the text. -/
def lineEnd? (cs : List Char) : Option (List Char) :=
  match skipComment (skipBlanks cs) with
  | [] => some []
  | r => newline? r

/-- A text without what may stand between the items of an array: blanks, line ends and comments. -/
def skipFiller (inComment : Bool) : List Char → Option (List Char)
  | [] => some []
  | '\n' :: r => skipFiller false r
  | '\r' :: '\n' :: r => skipFiller false r
  | c :: r =>
    if inComment then (if isVisible c then skipFiller true r else none)
    else if isBlank c then skipFiller false r
    else if c == '#' then skipFiller true r
    else some (c :: r)

/-! ## Strings -/

/-- The character with a number, which must not be that of a surrogate. -/
def character? (digits : List Char) : Option Char := do
  let values ← digits.mapM Text.hexValue?
  let n := values.foldl (fun n v => 16 * n + v) 0
  if h : n.isValidChar then return Char.ofNatAux n h else none

def escape? : List Char → Option (Char × List Char)
  | 'u' :: a :: b :: c :: d :: r => (character? [a, b, c, d]).map (·, r)
  | 'U' :: a :: b :: c :: d :: e :: f :: g :: h :: r => (character? [a, b, c, d, e, f, g, h]).map (·, r)
  | '"' :: r => some ('"', r)
  | '\\' :: r => some ('\\', r)
  | 'b' :: r => some ('\x08', r)
  | 'f' :: r => some ('\x0c', r)
  | 'n' :: r => some ('\n', r)
  | 'r' :: r => some ('\r', r)
  | 't' :: r => some ('\t', r)
  | _ => none

theorem length_lt_of_escape? {cs r : List Char} {c : Char} (h : escape? cs = some (c, r)) : r.length < cs.length := by
  unfold escape? at h
  split at h
  · obtain ⟨_, _, he⟩ := Option.map_eq_some_iff.1 h
    cases he
    simp only [List.length_cons]
    omega
  · obtain ⟨_, _, he⟩ := Option.map_eq_some_iff.1 h
    cases he
    simp only [List.length_cons]
    omega
  all_goals first
    | (cases h; simp only [List.length_cons]; omega)
    | cases h

def basicBody (cs : List Char) : Option (List Char × List Char) :=
  match cs with
  | [] => none
  | '"' :: r => some ([], r)
  | '\\' :: r =>
    match h : escape? r with
    | none => none
    | some (c, t) =>
      have := length_lt_of_escape? h
      (basicBody t).map fun (s, u) => (c :: s, u)
  | c :: r => if isVisible c then (basicBody r).map fun (s, u) => (c :: s, u) else none
termination_by cs.length
decreasing_by all_goals (simp only [List.length_cons]; omega)

/-- A string without escapes up to its closing apostrophe. -/
def literalBody : List Char → Option (List Char × List Char)
  | [] => none
  | '\'' :: r => some ([], r)
  | c :: r => if isVisible c then (literalBody r).map fun (s, u) => (c :: s, u) else none

/-- What follows three closing marks: up to two more of them belong to the string. -/
def closing (mark : Char) : List Char → List Char × List Char
  | a :: b :: r => if a == mark then (if b == mark then ([a, b], r) else ([a], b :: r)) else ([], a :: b :: r)
  | [a] => if a == mark then ([a], []) else ([], [a])
  | [] => ([], [])

/-- A string with escapes over several lines.  A backslash at the end of a line takes the blanks and line ends that
follow out of the string; `skipping` says that these are being skipped. -/
def longBasicBody (skipping : Bool) (cs : List Char) : Option (List Char × List Char) :=
  match cs with
  | [] => none
  | '"' :: '"' :: '"' :: r => some (closing '"' r)
  | '\n' :: r =>
    if skipping then longBasicBody true r else (longBasicBody false r).map fun (s, u) => ('\n' :: s, u)
  | '\r' :: '\n' :: r =>
    if skipping then longBasicBody true r else (longBasicBody false r).map fun (s, u) => ('\n' :: s, u)
  | '\\' :: r =>
    if (newline? (skipBlanks r)).isSome then longBasicBody true r
    else match h : escape? r with
      | none => none
      | some (c, t) =>
        have := length_lt_of_escape? h
        (longBasicBody false t).map fun (s, u) => (c :: s, u)
  | c :: r =>
    if skipping && isBlank c then longBasicBody true r
    else if isVisible c then (longBasicBody false r).map fun (s, u) => (c :: s, u)
    else none
termination_by cs.length
decreasing_by all_goals (simp only [List.length_cons]; omega)

def longLiteralBody : List Char → Option (List Char × List Char)
  | [] => none
  | '\'' :: '\'' :: '\'' :: r => some (closing '\'' r)
  | '\n' :: r => (longLiteralBody r).map fun (s, u) => ('\n' :: s, u)
  | '\r' :: '\n' :: r => (longLiteralBody r).map fun (s, u) => ('\n' :: s, u)
  | c :: r => if isVisible c then (longLiteralBody r).map fun (s, u) => (c :: s, u) else none

/-- A text without the line end that may follow the opening marks of a long string. -/
def skipFirstNewline (cs : List Char) : List Char :=
  (newline? cs).getD cs

def string? : List Char → Option (List Char × List Char)
  | '"' :: '"' :: '"' :: r => longBasicBody false (skipFirstNewline r)
  | '\'' :: '\'' :: '\'' :: r => longLiteralBody (skipFirstNewline r)
  | '"' :: r => basicBody r
  | '\'' :: r => literalBody r
  | _ => none

/-! ## Names -/

def isNameChar (c : Char) : Bool :=
  c.isAlphanum || c == '_' || c == '-'

def namePart? : List Char → Option (List Char × List Char)
  | '"' :: r => basicBody r
  | '\'' :: r => literalBody r
  | cs =>
    let part := cs.takeWhile isNameChar
    if part.isEmpty then none else some (part, cs.drop part.length)

def nameParts : (count : Nat) → List Char → Option (List String × List Char)
  | 0, _ => none
  | count + 1, cs => do
    let (part, r) ← namePart? (skipBlanks cs)
    match skipBlanks r with
    | '.' :: r =>
      let (parts, t) ← nameParts count r
      return (String.ofList part :: parts, t)
    | r => return ([String.ofList part], r)

def name (cs : List Char) : Option (List String × String × List Char) := do
  let (parts, r) ← nameParts maxDepth cs
  let last ← parts.getLast?
  return (parts.dropLast, last, r)

/-! ## Values -/

abbrev ValueReader := List Char → Option (Json × List Char)

def word (cs : List Char) : Option (Json × List Char) :=
  let first := cs.takeWhile isWordChar
  let r := cs.drop first.length
  let second := (r.drop 1).takeWhile isWordChar
  if isDate first && r.head? == some ' ' && !second.isEmpty then
    if isTimeWithOffset second then some (moment (first ++ ' ' :: second), r.drop (1 + second.length)) else none
  else (scalar? first).map (·, r)

/-- The items of an array up to its closing bracket, at most `count` of them. -/
def items (item : ValueReader) : (count : Nat) → List Char → Option (List Json × List Char)
  | 0, _ => none
  | count + 1, cs => do
    match ← skipFiller false cs with
    | ']' :: r => return ([], r)
    | r =>
      let (v, r) ← item r
      match ← skipFiller false r with
      | ',' :: r =>
        let (vs, t) ← items item count r
        return (v :: vs, t)
      | ']' :: r => return ([v], r)
      | _ => none

def assignment (item : ValueReader) (add : List String → String → Json → Option Entries) (cs : List Char) :
    Option (Entries × List Char) := do
  let (front, last, r) ← name cs
  match r with
  | '=' :: r =>
    let (v, t) ← item (skipBlanks r)
    return (← add front last v, t)
  | _ => none

/-- The entries of a table that is a value up to its closing brace, at most `count` of them, added to those so far. -/
def inlineEntries (item : ValueReader) : (count : Nat) → Entries → List Char → Option (Entries × List Char)
  | 0, _, _ => none
  | count + 1, es, cs => do
    let (es, r) ← assignment item (fun front last v => es.assign? front last v .header) cs
    match skipBlanks r with
    | ',' :: r => inlineEntries item count es r
    | '\x7d' :: r => return (es, r)
    | _ => none

def inlineTable (item : ValueReader) (count : Nat) (cs : List Char) : Option (Json × List Char) :=
  match skipBlanks cs with
  | '\x7d' :: r => some (.obj [], r)
  | r => (inlineEntries item count [] r).map fun (es, t) => (.obj (membersOf es), t)

def simpleValue (cs : List Char) : Option (Json × List Char) :=
  if cs.head? == some '"' || cs.head? == some '\'' then (string? cs).map fun (s, t) => (.str (String.ofList s), t)
  else word cs

/-- A value, in which arrays and tables nest at most `depth` deep and have at most `count` items. -/
def value (count : Nat) : (depth : Nat) → List Char → Option (Json × List Char)
  | 0, cs => simpleValue cs
  | depth + 1, cs =>
    match cs with
    | '[' :: r => (items (value count depth) count r).map fun (vs, t) => (.arr vs, t)
    | '\x7b' :: r => inlineTable (value count depth) count r
    | _ => simpleValue cs

/-! ## Documents -/

/-- What the lines read so far come to: all entries, and the name of the table that is open. -/
structure Progress where
  entries : Entries
  opened : List String

namespace Progress

/-- A header between brackets: the progress with a table opened, and the rest of the text. -/
def header (p : Progress) (openAt : String → Origin → Entries → Option Entries) (cs : List Char) :
    Option (Progress × List Char) := do
  let (front, last, r) ← name cs
  return (⟨← p.entries.modify? false (openAt last) front .header, front ++ [last]⟩, r)

/-- A line that is not empty, in which a value has at most `count` items. -/
def line (count : Nat) (p : Progress) : List Char → Option (Progress × List Char)
  | '[' :: '[' :: r => do
    match ← p.header Entries.openNext? r with
    | (p, ']' :: ']' :: r) => return (p, r)
    | _ => none
  | '[' :: r => do
    match ← p.header Entries.openTable? r with
    | (p, ']' :: r) => return (p, r)
    | _ => none
  | cs => do
    let add front last v :=
      p.entries.modify? false (fun origin es => es.assign? front last v origin) p.opened .header
    let (es, r) ← assignment (value count maxDepth) add cs
    return (⟨es, p.opened⟩, r)

def lines : (count : Nat) → Progress → List Char → Option Entries
  | 0, _, _ => none
  | count + 1, p, cs =>
    match lineEnd? cs with
    | some [] => some p.entries
    | some r => lines count p r
    | none => do
      let (p, r) ← p.line count (skipBlanks cs)
      match ← lineEnd? r with
      | [] => return p.entries
      | r => lines count p r

end Progress

/-- **The value of a configuration text**, which may start with a byte order mark. -/
def read? (s : String) : Option Json :=
  let cs := match s.toList with
    | '\uFEFF' :: r => r
    | r => r
  (Progress.lines (cs.length + 1) ⟨[], []⟩ cs).map fun es => .obj (membersOf es)

end Toml
end Backlog
