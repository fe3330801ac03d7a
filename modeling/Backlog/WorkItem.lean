import Backlog.Registry
import Backlog.Timestamp
/-!
# WorkItem — a unit of tracked work

A work item lives in a space, has a type and moves through states; what else is known about it may be unset.  Assignees
and labels tell "never set" from "set to none".  The number counts the items of a space in 64 bits; zero means that none
has been assigned yet.  `parent` is not a property of the item: it is filled in where a search shows the hierarchy.
-/
namespace Backlog

structure WorkItem where
  id : String
  number : UInt64
  space : String
  type : String
  title : String
  description : Option String
  state : String
  iteration : Option String
  creator : Option String
  assignees : Option (List String)
  labels : Option (List String)
  createdAt : Timestamp
  updatedAt : Timestamp
  parent : Option String
deriving DecidableEq

namespace WorkItem

instance : Keyed WorkItem := ⟨WorkItem.id⟩

/-- A new item: in the state `new`, without a number, with nothing else known about it. -/
def new (id : String) (now : Timestamp) (space type title : String) : WorkItem where
  id := id
  number := 0
  space := space
  type := type
  title := title
  description := none
  state := "new"
  iteration := none
  creator := none
  assignees := none
  labels := none
  createdAt := now
  updatedAt := now
  parent := none

/-- What the order of search results goes by, the most significant first: the moment of creation, then the identifier.
-/
def precedes (a b : WorkItem) : Bool :=
  a.createdAt.fields < b.createdAt.fields || (a.createdAt.fields == b.createdAt.fields && a.id < b.id)

def insertInOrder (a : WorkItem) : List WorkItem → List WorkItem
  | [] => [a]
  | b :: bs => if a.precedes b then a :: b :: bs else b :: insertInOrder a bs

def sort (items : List WorkItem) : List WorkItem :=
  items.foldl (fun sorted a => insertInOrder a sorted) []

end WorkItem

/-- A change of a work item: of the fields that are given, the others stay. -/
structure WorkItemUpdate where
  title : Option String
  description : Option String
  state : Option String
  iteration : Option String
  assignees : Option (List String)
  labels : Option (List String)
deriving DecidableEq

namespace WorkItemUpdate

def applyTo (u : WorkItemUpdate) (now : Timestamp) (item : WorkItem) : WorkItem :=
  { item with
    title := u.title.getD item.title
    description := u.description <|> item.description
    state := u.state.getD item.state
    iteration := u.iteration <|> item.iteration
    assignees := u.assignees <|> item.assignees
    labels := u.labels <|> item.labels
    updatedAt := now }

end WorkItemUpdate
end Backlog
