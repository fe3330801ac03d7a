import Backlog.Json.Basic
import Backlog.Text.Decimal
/-!
# Record — reading the fields of a structure

A record with named fields is read from an object, in which the members may stand in any order and members with other
names are passed over, or from an array of the field values in the order of the fields.  A field that occurs twice in an
object is an error.  An array may stop early where the fields left out have defaults (`record?`), has to have all fields
and no more (`wholeRecord?`), or has to have all and may have more, which do not count (`openRecord?`).

The readers below take the fields in the form that `record?` gives them: one optional value per name.
-/
namespace Backlog
namespace Json

/-- The value of a name among members, when it occurs at most once. -/
def uniqueMember? (ms : List (String × Json)) (name : String) : Option (Option Json) :=
  match ms.filter (·.1 == name) with
  | [] => some none
  | [(_, v)] => some (some v)
  | _ => none

def record? (names : List String) : Json → Option (List (Option Json))
  | .obj ms => names.mapM (uniqueMember? ms)
  | .arr vs =>
    if vs.length ≤ names.length then some (vs.map some ++ List.replicate (names.length - vs.length) none) else none
  | _ => none

/-- The values of named fields, where an array has to have all of them. -/
def wholeRecord? (names : List String) : Json → Option (List (Option Json))
  | .arr vs => if vs.length = names.length then some (vs.map some) else none
  | v => record? names v

/-- The values of named fields, where an array has to have all of them and may have more. -/
def openRecord? (names : List String) : Json → Option (List (Option Json))
  | .arr vs => if names.length ≤ vs.length then some ((vs.take names.length).map some) else none
  | v => record? names v

def text? : Json → Option String
  | .str s => some s
  | _ => none

def bool? : Json → Option Bool
  | .bool b => some b
  | _ => none

def word? : Json → Option Nat
  | .num (.integer n) => if 0 ≤ n && n ≤ Int.ofNat Text.maxWord then some n.toNat else none
  | _ => none

def list? {α : Type} (item : Json → Option α) : Json → Option (List α)
  | .arr vs => vs.mapM item
  | _ => none

def texts? : Json → Option (List String) :=
  list? text?

def needed {α : Type} (read : Json → Option α) (field : Option Json) : Option α :=
  field.bind read

def optional {α : Type} (read : Json → Option α) : Option Json → Option (Option α)
  | none => some none
  | some .null => some none
  | some v => (read v).map some

def defaulted {α : Type} (read : Json → Option α) (default : α) : Option Json → Option α
  | none => some default
  | some v => read v

/-- A name from a list of names with their meanings: the name alone, or as the only member of an object, with null. -/
def variant? {α : Type} (names : List (String × α)) : Json → Option α
  | .str s => names.lookup s
  | .obj [(s, .null)] => names.lookup s
  | _ => none

def ofText? : Option String → Json
  | some s => .str s
  | none => .null

def ofTexts (ss : List String) : Json :=
  .arr (ss.map .str)

def ofTexts? : Option (List String) → Json
  | some ss => ofTexts ss
  | none => .null

end Json
end Backlog
