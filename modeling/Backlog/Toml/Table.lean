import Backlog.Json.Basic
/-!
# Table — the tables of a configuration text, and when one may be extended

Tables come into being in three ways: a header opens one, a header or a dotted name implies those on its way, and a
value may be a table of its own.  Each table is defined once.  A header may open a table that other headers have only
implied; a dotted name may extend only what dotted names have made; a value is closed.  Under a name there may also be a
list of tables, each opened by a header of its own, and whatever goes through that name goes to the last of them.

All rules stand in the steps of `modify?`, which follows a path through the tables, and in the three operations at its
end.
-/
namespace Backlog
namespace Toml

/-- How a table came into being: by its own header, by the header of a table inside it, or by a dotted name. -/
inductive Origin
  | header
  | implied
  | dotted
deriving DecidableEq, Repr

inductive Item
  | value (value : Json)
  | table (origin : Origin) (entries : List (String × Item))
  | tables (all : List (List (String × Item)))

abbrev Entries := List (String × Item)

namespace Entries

def replace (name : String) (item : Item) : Entries → Entries
  | [] => []
  | (n, i) :: es => if n = name then (n, item) :: es else (n, i) :: replace name item es

/-- A change of the last table of a list, which must not be empty. -/
def modifyLast? (change : Entries → Option Entries) : List Entries → Option (List Entries)
  | [] => none
  | [t] => (change t).map fun t => [t]
  | t :: ts => (modifyLast? change ts).map (t :: ·)

/-- A change of the table at the end of a path that starts at a table with an origin.  Tables on the way that do not
exist are made, by a dotted name if `dotted` is true and by a header otherwise. -/
def modify? (dotted : Bool) (change : Origin → Entries → Option Entries) :
    (path : List String) → Origin → Entries → Option Entries
  | [], origin, es => change origin es
  | name :: path, _, es =>
    match es.lookup name with
    | none =>
      let origin := if dotted then .dotted else .implied
      (modify? dotted change path origin []).map fun inner => es ++ [(name, .table origin inner)]
    | some (.value _) => none
    | some (.table origin inner) =>
      if dotted && origin = .header then none
      else (modify? dotted change path origin inner).map fun inner => replace name (.table origin inner) es
    | some (.tables all) =>
      (modifyLast? (modify? dotted change path .header) all).map fun all => replace name (.tables all) es

/-- A table with a value under a name that it does not have.  The name is the last part of a dotted one exactly if the
table has to have been made by dotted names. -/
def addValue? (isDotted : Bool) (name : String) (v : Json) (origin : Origin) (es : Entries) : Option Entries :=
  if isDotted != (origin = .dotted) then none
  else match es.lookup name with
    | none => some (es ++ [(name, .value v)])
    | some _ => none

def openTable? (name : String) (_ : Origin) (es : Entries) : Option Entries :=
  match es.lookup name with
  | none => some (es ++ [(name, .table .header [])])
  | some (.table .implied inner) => some (replace name (.table .header inner) es)
  | some _ => none

def openNext? (name : String) (_ : Origin) (es : Entries) : Option Entries :=
  match es.lookup name with
  | none => some (es ++ [(name, .tables [[]])])
  | some (.tables all) => some (replace name (.tables (all ++ [[]])) es)
  | some _ => none

/-- The entries with a value under a dotted name, given by its parts before the last and the last. -/
def assign? (front : List String) (name : String) (v : Json) : Origin → Entries → Option Entries :=
  modify? true (addValue? (!front.isEmpty) name v) front

end Entries

/-! ## Tables as objects -/

mutual

def Item.toJson : Item → Json
  | .value v => v
  | .table _ entries => .obj (membersOf entries)
  | .tables all => .arr (objectsOf all)

def membersOf : List (String × Item) → List (String × Json)
  | [] => []
  | (name, item) :: es => (name, item.toJson) :: membersOf es

def objectsOf : List (List (String × Item)) → List Json
  | [] => []
  | t :: ts => .obj (membersOf t) :: objectsOf ts

end

end Toml
end Backlog
