import Backlog.Registry
/-!
# Link — directed links between work items

A link has a type, and the type has a topology and a name for either direction.  The types whose links lead from a
parent to its child in the hierarchy of work items are those with the topology of a tree and the forward name `parent
of`.
-/
namespace Backlog

/-- What the links of a type may form. -/
inductive Topology
  | tree
  | network
  | directedNetwork
  | dependency
deriving DecidableEq

structure LinkType where
  id : String
  name : String
  topology : Topology
  forward : String
  reverse : String
deriving DecidableEq

namespace LinkType

instance : Keyed LinkType := ⟨LinkType.id⟩

def parentOf : String := "parent of"

def parenting (id : String) : LinkType :=
  ⟨id, "Parenting", .tree, parentOf, "child of"⟩

def isParentChild (t : LinkType) : Bool :=
  t.topology == .tree && t.forward == parentOf

end LinkType

structure Link where
  id : String
  source : String
  target : String
  type : String
deriving DecidableEq

end Backlog
