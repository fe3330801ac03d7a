import Backlog.Json.Number
/-!
# Json — values of a JSON text

An object keeps its members as they were written: in order, and with a name as often as it occurs.  `canonical` is the
reading in which neither shows: of members with one name the last counts, and members stand in ascending order of their
names.  Names are compared character by character, which is also the order of their UTF-8 bytes.
-/
namespace Backlog

inductive Json
  | null
  | bool (value : Bool)
  | num (value : Json.Number)
  | str (value : String)
  | arr (items : List Json)
  | obj (members : List (String × Json))
deriving Repr, Inhabited

namespace Json

def ofNat (n : Nat) : Json :=
  .num (.integer n)

def insertMember (name : String) (value : Json) : List (String × Json) → List (String × Json)
  | [] => [(name, value)]
  | (n, v) :: ms =>
    if name < n then (name, value) :: (n, v) :: ms
    else if name = n then (name, value) :: ms
    else (n, v) :: insertMember name value ms

/-- Members in order of names; of one name the last stays. -/
def sortMembers (ms : List (String × Json)) : List (String × Json) :=
  ms.foldl (fun sorted (n, v) => insertMember n v sorted) []

mutual

/-- A value whose objects, at every depth, have their members in order of names and each name once. -/
def canonical : Json → Json
  | .arr items => .arr (canonicalItems items)
  | .obj members => .obj (sortMembers (canonicalMembers members))
  | .null => .null
  | .bool b => .bool b
  | .num n => .num n
  | .str s => .str s

def canonicalItems : List Json → List Json
  | [] => []
  | v :: vs => canonical v :: canonicalItems vs

def canonicalMembers : List (String × Json) → List (String × Json)
  | [] => []
  | (n, v) :: ms => (n, canonical v) :: canonicalMembers ms

end

end Json
end Backlog
