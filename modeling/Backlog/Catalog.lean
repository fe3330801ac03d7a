import Backlog.Registry
/-!
# Catalog — what work items are classified by

Spaces divide the work.  Within a space there are the types a work item can have, the iterations it can be planned into,
the labels it can carry, and named groups of types that serve as shorthand in filters.
-/
namespace Backlog

structure Space where
  id : String
  name : String
deriving DecidableEq

instance : Keyed Space := ⟨Space.id⟩

structure WorkItemType where
  id : String
  space : String
  name : String
deriving DecidableEq

instance : Keyed WorkItemType := ⟨WorkItemType.id⟩

/-- The level of planning that a group of types is for. -/
inductive Bucket
  | portfolio
  | requirement
  | iteration
deriving DecidableEq

/-- A named set of types in a space, in the order in which they are shown. -/
structure TypeGroup where
  name : String
  space : String
  bucket : Bucket
  types : List String
deriving DecidableEq

structure Iteration where
  id : String
  space : String
  name : String
deriving DecidableEq

instance : Keyed Iteration := ⟨Iteration.id⟩

structure Label where
  id : String
  space : String
  name : String
deriving DecidableEq

instance : Keyed Label := ⟨Label.id⟩

end Backlog
