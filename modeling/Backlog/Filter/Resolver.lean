import Backlog.Filter.Conversion
import Backlog.Store
/-!
# Resolver — what the names in a filter stand for

A resolver answers what a name compares: an attribute of work items, the name of an iteration or a label, or the members
of a type group.  It works for one request at a time and remembers the groups it has looked up, by their names; `Memory`
is what it remembers, and it keeps what it remembers when a question is refused.

The names of iterations, labels and type groups are looked up in the spaces that a filter is about (`Scope`).  A filter
that is about no space in particular is about all of them, so the empty scope holds every space.
-/
namespace Backlog
namespace Filter

/-! ## Spaces -/

/-- A set of spaces, of which the empty one stands for all. -/
structure Scope where
  spaces : StringSet
deriving DecidableEq

namespace Scope

def unrestricted : Scope := ⟨.empty⟩

def ofList (spaces : List String) : Scope := ⟨.ofList spaces⟩

def insert (s : Scope) (space : String) : Scope := ⟨s.spaces.insert space⟩

def isUnrestricted (s : Scope) : Bool := s.spaces.isEmpty

def contains (s : Scope) (space : String) : Bool :=
  s.isUnrestricted || s.spaces.contains space

end Scope

/-! ## Names -/

inductive Resolution
  | direct (subject : Attribute) (kind : FieldKind)
  | collection (subject : Attribute)
  | labelReference
  | iterationName
  | labelName
  | typeGroupName
  | typeGroup (name : String) (types : Option StringSet)
deriving DecidableEq

/-- What the answers of a resolver depend on: the stored data, the conversion of values, the states that there are, and
whether a name without a meaning is refused. -/
structure Resolver where
  store : Store
  convert : Converter
  states : List String
  strict : Bool

/-- The members of the groups looked up so far, by the name of the group; none for a name that no group had. -/
abbrev Memory := List (String × Option StringSet)

/-- A question to a resolver: it changes what is remembered, and may be refused. -/
abbrev Resolving := ExceptT QueryError (StateM Memory)

namespace Resolver

def collect (lists : List (List String)) : StringSet :=
  .ofList lists.flatten

/-- The groups with a name in a scope: all of them, or the first of each space. -/
def groupsIn (s : Store) (scope : Scope) (name : String) : List TypeGroup :=
  if scope.isUnrestricted then s.groupsNamed name
  else scope.spaces.entries.filterMap fun space => s.group? space name

def membersIn (s : Store) (scope : Scope) (name : String) : Option StringSet :=
  match groupsIn s scope name with
  | [] => none
  | groups => some (collect (groups.map TypeGroup.types))

/-- The members of the groups with a name in a scope, as remembered or else looked up. -/
def groupTypes (r : Resolver) (scope : Scope) (name : String) : StateM Memory (Option StringSet) := do
  match (← get).lookup name with
  | some types => return types
  | none =>
    let types := membersIn r.store scope name
    modify ((name, types) :: ·)
    return types

def iterationsWhere (r : Resolver) (scope : Scope) (accept : String → Bool) : StringSet :=
  .ofList ((r.store.iterations.entries.filter fun i => scope.contains i.space && accept i.name).map Iteration.id)

def labelsWhere (r : Resolver) (scope : Scope) (accept : String → Bool) : StringSet :=
  .ofList ((r.store.labels.entries.filter fun l => scope.contains l.space && accept l.name).map Label.id)

def ofKey (r : Resolver) : Key → Resolution
  | .id => .direct .id .identifier
  | .number => .direct .number .number
  | .space => .direct .space .identifier
  | .state => .direct .state (.enumeration r.states)
  | .type => .direct .type .identifier
  | .workItemType => .direct .type .identifier
  | .title => .direct .title .text
  | .description => .direct .description .text
  | .iteration => .direct .iteration .identifier
  | .creator => .direct .creator .identifier
  | .assignee => .collection .assignees
  | .label => .labelReference
  | .iterationName => .iterationName
  | .labelName => .labelName
  | .typeGroupName => .typeGroupName

def resolve (r : Resolver) (scope : Scope) (name : String) : Resolving Resolution :=
  match Key.ofName? name with
  | some key => return r.ofKey key
  | none => do
    let types ← r.groupTypes scope name
    if types.isNone && r.strict then throw (.unknownKey name)
    return .typeGroup name types

end Resolver
end Filter
end Backlog
