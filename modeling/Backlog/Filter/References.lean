import Backlog.Filter.Document
import Backlog.Filter.Key
import Backlog.Store
/-!
# References — spaces and types that a filter names but nobody declared

A filter that names a space or a type which does not exist compiles all the same and finds nothing.  So that a slip of
the pen does not pass unseen, there is a warning about every reference of a filter that the catalog does not know, in the
order in which they occur, and no warning is repeated.  A catalog that declares no spaces at all is not held against a
filter, nor one without types.  Values are compared as they are written.
-/
namespace Backlog
namespace Filter

inductive Reference
  | space (id : String)
  | type (id : String)
deriving DecidableEq, Repr

namespace Value

def allTexts : Value → List String
  | text value => [value]
  | null => []
  | texts values => values

end Value

namespace Comparison

def references (c : Comparison) : List Reference :=
  if c.operator = .substr then []
  else match Key.ofName? c.field with
    | some .space => c.value.allTexts.map .space
    | some .type => c.value.allTexts.map .type
    | some .workItemType => c.value.allTexts.map .type
    | _ => []

end Comparison

namespace Document

/-- What a request refers to: its space first, then what its comparisons refer to. -/
def references (d : Document) (space : Option String) : List Reference :=
  space.toList.map .space ++ d.root.comparisons.flatMap Comparison.references

end Document

structure Catalog where
  spaces : List Space
  types : List WorkItemType

namespace Catalog

def ofStore (s : Store) : Catalog :=
  ⟨s.spaces.entries, s.types.entries⟩

/-- Whether a catalog has nothing against a reference.  A type has to be one of the space of the request, if there is
one. -/
def allows (c : Catalog) (space : Option String) : Reference → Bool
  | .space id => c.spaces.isEmpty || c.spaces.any fun s => s.id == id
  | .type id => c.types.isEmpty || c.types.any fun t => t.id == id && space.all (· == t.space)

end Catalog

namespace Reference

def warning (space : Option String) : Reference → String
  | .space id => s!"Space '{id}' is not declared in the dataset"
  | .type id =>
    match space with
    | some space => s!"Work item type '{id}' is not declared in space '{space}'"
    | none => s!"Work item type '{id}' is not declared in the dataset"

end Reference

namespace Catalog

/-- The references of a request that a catalog does not know, as often as they occur. -/
def undeclared (c : Catalog) (d : Document) (space : Option String) : List Reference :=
  (d.references space).filter fun r => !c.allows space r

/-- **The warnings about a request**, each text once. -/
def warnings (c : Catalog) (d : Document) (space : Option String) : List String :=
  ((c.undeclared d space).map (Reference.warning space)).eraseDups

end Catalog

def warnings (s : Store) (d : Document) (space : Option String) : List String :=
  (Catalog.ofStore s).warnings d space

end Filter
end Backlog
