import Backlog.QueryError
import Backlog.Text.Blank
import Backlog.Uuid
/-!
# Conversion — from the value that a caller wrote to the value that is stored

Comparisons are made between stored forms.  What the stored form of a value is depends on the kind of its field: an
identifier that has the shape of a UUID is stored in the one form of UUIDs, a number with its decimal digits, a word of
a closed list as the list has it.  `standard` is the conversion that is used unless another one is supplied; it forgives
blanks around a value, and letter case where the stored form has none of its own.
-/
namespace Backlog
namespace Filter

inductive FieldKind
  | identifier
  | text
  | number
  | enumeration (values : List String)
deriving DecidableEq, Repr

/-- A conversion of values: the name of a field, the kind of its values and the value as written give the stored form.
-/
abbrev Converter := (field : String) → FieldKind → (raw : String) → Except QueryError String

namespace Conversion

def trimmed (raw : String) : List Char :=
  Text.trim raw.toList

def identifier (raw : String) : String :=
  match Uuid.digits? (trimmed raw) with
  | some ds => String.ofList (Uuid.render ds)
  | none => raw

/-- Whether two texts are the same but for the case of ASCII letters. -/
def equalIgnoringCase (a b : List Char) : Bool :=
  a.map Char.toLower == b.map Char.toLower

def standard : Converter := fun field kind raw =>
  match kind with
  | .identifier => .ok (identifier raw)
  | .text => .ok raw
  | .number =>
    match Text.readWord? (trimmed raw) with
    | some n => .ok (Text.decimal n)
    | none => .error (.invalidCombination (.notANumber raw field))
  | .enumeration values =>
    match values.find? fun v => equalIgnoringCase v.toList (trimmed raw) with
    | some v => .ok v
    | none => .error (.invalidCombination (.notInList raw field values))

end Conversion
end Filter
end Backlog
