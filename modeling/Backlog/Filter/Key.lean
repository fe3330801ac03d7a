/-!
# Key — the names that a filter can compare without a type group

A comparison names what it looks at.  These are the names with a fixed meaning, in the order in which they are listed to
people.  Every other name is taken for the name of a type group.
-/
namespace Backlog
namespace Filter

inductive Key
  | id
  | number
  | space
  | state
  | type
  | workItemType
  | title
  | description
  | iteration
  | creator
  | assignee
  | label
  | iterationName
  | labelName
  | typeGroupName
deriving DecidableEq, Repr

namespace Key

def name : Key → String
  | id => "id"
  | number => "number"
  | space => "space"
  | state => "state"
  | type => "type"
  | workItemType => "workitemtype"
  | title => "title"
  | description => "description"
  | iteration => "iteration"
  | creator => "creator"
  | assignee => "assignee"
  | label => "label"
  | iterationName => "iteration.name"
  | labelName => "label.name"
  | typeGroupName => "typegroup.name"

def all : List Key :=
  [id, number, space, state, type, workItemType, title, description, iteration, creator, assignee, label, iterationName,
    labelName, typeGroupName]

def ofName? (s : String) : Option Key :=
  all.find? fun k => k.name == s

def names : List String :=
  all.map name

theorem ofName?_name (k : Key) : ofName? k.name = some k := by
  cases k <;> decide

/-- **A text is a key exactly when it is the key's name.** -/
theorem ofName?_eq_some_iff {s : String} {k : Key} : ofName? s = some k ↔ k.name = s := by
  refine ⟨fun h => by simpa using List.find?_some h, fun h => h ▸ ofName?_name k⟩

end Key
end Filter
end Backlog
