import Backlog.Json.Printer
import Backlog.Json.Embedding
import Backlog.QueryError
/-!
# Reader — from the text of a filter to its document

A condition is written as an object.  A member with the name of a field compares it: a string or null stands for
equality, an object with one operator for that operator.  The members `$AND` and `$OR` join the conditions of a list,
`negate` set to true negates the only other member, and several members besides are joined by "and".  At the outermost
object, `$OPTS` holds the options.

Of members with one name the last counts, and members are read in ascending order of their names.  The first fault in
that order is the one reported.
-/
namespace Backlog
namespace Filter

abbrev Reading (α : Type) := Except SyntaxFault α

namespace Connective

def memberName : Connective → String
  | .and => "$AND"
  | .or => "$OR"

end Connective

namespace Operator

def memberName : Operator → String
  | .eq => "$EQ"
  | .ne => "$NE"
  | .isIn => "$IN"
  | .substr => "$SUBSTR"

def ofMemberName? (name : String) : Option Operator :=
  [eq, ne, isIn, substr].find? fun o => o.memberName == name

end Operator

def negateName : String := "negate"

def optionsName : String := "$OPTS"

def treeViewName : String := "tree_view"

/-! ## Comparisons -/

def readScalar (field : String) : Json → Reading Value
  | .str s => .ok (.text s)
  | .null => .ok .null
  | v => .error (.unsupportedValue v.compact field)

def readTexts (field : String) : List Json → Reading (List String)
  | [] => .ok []
  | .str s :: vs => (readTexts field vs).map (s :: ·)
  | _ :: _ => .error (.inItemNotString field)

def readOperand (field : String) : Operator → Json → Reading Value
  | .isIn, .arr items => (readTexts field items).map .texts
  | .isIn, _ => .error (.inNotArray field)
  | .substr, .str s => .ok (.text s)
  | .substr, _ => .error (.substrNotString field)
  | _, v => readScalar field v

def readComparison (field : String) : Json → Reading Comparison
  | .obj [(name, v)] =>
    match Operator.ofMemberName? name with
    | some operator => (readOperand field operator v).map fun value => ⟨field, operator, value, false⟩
    | none => .error (.unknownFieldOperator name field)
  | .obj _ => .error (.operatorCount field)
  | .arr _ => .error (.bareList field)
  | v => (readScalar field v).map fun value => ⟨field, .eq, value, false⟩

/-! ## Conditions -/

def readNegate (members : List (String × Json)) : Reading Bool :=
  match members.lookup negateName with
  | none => .ok false
  | some (.bool flag) => .ok flag
  | some _ => .error .negateNotBool

def assemble (negate : Bool) : List Node → Reading Node
  | [] => .error .emptyObject
  | [n] => .ok (if negate then n.negated else n)
  | n :: ns => if negate then .error .ambiguousNegate else .ok (.combinator .and (n :: ns) false)

def readLeaf (name : String) (v : Json) : Reading Node :=
  if name = optionsName then .error .nestedOptions
  else if isReserved name then .error (.unknownOperator name)
  else if name = "" then .error .emptyKey
  else (readComparison name v).map .comparison

mutual

def readMember (name : String) : Json → Reading Node
  | .arr items =>
    if name = "$AND" then readList .and items
    else if name = "$OR" then readList .or items
    else readLeaf name (.arr items)
  | v =>
    if name = "$AND" || name = "$OR" then .error (.combinatorNotArray name)
    else readLeaf name v

def readList (connective : Connective) : List Json → Reading Node
  | [] => .error (.combinatorEmpty connective.memberName)
  | v :: vs => do return .combinator connective ((← readItem connective v) :: (← readItems connective vs)) false

def readItems (connective : Connective) : List Json → Reading (List Node)
  | [] => .ok []
  | v :: vs => do return (← readItem connective v) :: (← readItems connective vs)

def readItem (connective : Connective) : Json → Reading Node
  | .obj members => do assemble (← readNegate members) (← readMembers members)
  | _ => .error (.combinatorItemNotObject connective.memberName)

def readMembers : List (String × Json) → Reading (List Node)
  | [] => .ok []
  | (name, v) :: members =>
    if name = negateName then readMembers members
    else do return (← readMember name v) :: (← readMembers members)

end

def readObject (members : List (String × Json)) : Reading Node := do
  assemble (← readNegate members) (← readMembers members)

/-! ## Documents -/

def readOptionMembers (soFar : Bool) : List (String × Json) → Reading Bool
  | [] => .ok soFar
  | (name, v) :: members =>
    if name = treeViewName then
      match v with
      | .bool flag => readOptionMembers flag members
      | _ => .error .treeViewNotBool
    else .error (.unknownOption name)

def readOptions : Option Json → Reading Bool
  | none => .ok false
  | some (.obj members) => readOptionMembers false members
  | some _ => .error .optionsNotAnObject

namespace Document

def ofJson : Json → Reading Document
  | .obj members => do
    let treeView ← readOptions (members.lookup optionsName)
    let conditions := members.filter fun m => m.1 != optionsName
    if conditions.isEmpty then throw .noCondition
    return ⟨← readObject conditions, treeView⟩
  | _ => .error .notAnObject

def ofText (s : String) : Except QueryError Document :=
  match Json.readEmbedded? s with
  | some v => (ofJson v.canonical).mapError .illFormed
  | none => .error (.illFormed .malformedJson)

def ofBytes (bytes : ByteArray) : Except QueryError Document :=
  match String.fromUTF8? bytes with
  | some s => ofText s
  | none => .error (.illFormed .malformedJson)

end Document
end Filter
end Backlog
