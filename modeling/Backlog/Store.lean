import Backlog.Dataset
import Backlog.Predicate
import Backlog.Text.Decimal
/-!
# Store — what is tracked, and the questions about it

A store holds entries of eight kinds.  Those with an identifier are kept under it, so the last one saved under an
identifier is the one there is; type groups and links are kept in the order in which they were saved.

Questions about work items go through `find`, which takes a predicate and answers with a page of the matches in the
order of their creation; questions about the hierarchy go through `parentOf?`, which follows the stored links.

A store refuses to change what it does not hold and to link what it does not hold, and it has no answer where the stored
links contradict each other (`StoreError`).
-/
namespace Backlog

inductive StoreError
  | missingItem (id : String)
  | missingLinkType (id : String)
  | unknownLinkType (link type : String)
  | severalParents (item : String) (parents : List String)
deriving DecidableEq, Repr

namespace StoreError

def message : StoreError → String
  | missingItem id => s!"Work item not found: {id}"
  | missingLinkType id => s!"Link type not found: {id}"
  | unknownLinkType link type => s!"Link {link} references unknown link type {type}"
  | severalParents item parents =>
    s!"Work item {item} has " ++ Text.decimal parents.length ++ " tree parents: " ++ ", ".intercalate parents

end StoreError

structure Store where
  spaces : Registry Space
  types : Registry WorkItemType
  groups : List TypeGroup
  iterations : Registry Iteration
  labels : Registry Label
  linkTypes : Registry LinkType
  links : List Link
  items : Registry WorkItem
deriving DecidableEq

namespace Store

def empty : Store := ⟨.empty, .empty, [], .empty, .empty, .empty, [], .empty⟩

def ofDataset (d : Dataset) : Store :=
  ⟨.ofList d.spaces, .ofList d.types, d.groups, .ofList d.iterations, .ofList d.labels, .ofList d.linkTypes, d.links,
    .ofList d.items⟩

/-- The entries of a store: in order of their identifiers, work items in order of their creation. -/
def toDataset (s : Store) : Dataset :=
  ⟨s.spaces.entries, s.types.entries, s.groups, s.iterations.entries, s.labels.entries, s.linkTypes.entries, s.links,
    WorkItem.sort s.items.entries⟩

/-! ## Work items -/

def load (s : Store) (id : String) : Except StoreError WorkItem :=
  match s.items.get? id with
  | some item => .ok item
  | none => .error (.missingItem id)

theorem load_eq (s : Store) (id : String) : s.load id = (s.items.get? id).elim (.error (.missingItem id)) .ok := by
  rw [load]
  cases s.items.get? id <;> rfl

theorem load_eq_ok_iff {s : Store} {id : String} {item : WorkItem} :
    s.load id = .ok item ↔ item ∈ s.items.entries ∧ item.id = id := by
  refine Iff.trans ?_ Registry.get?_eq_some_iff
  rw [load_eq]
  cases s.items.get? id <;> simp

theorem load_eq_error_iff {s : Store} {id : String} {e : StoreError} :
    s.load id = .error e ↔ s.items.contains id = false ∧ e = .missingItem id := by
  rw [load_eq, Registry.contains_eq_isSome]
  cases s.items.get? id <;> simp [eq_comm]

def matchesOf (s : Store) (p : Predicate) : List WorkItem :=
  WorkItem.sort (s.items.entries.filter p.isMatch)

/-- Up to `limit` of the matches of a predicate after the first `offset`, and the number of all. -/
def find (s : Store) (p : Predicate) (offset limit : Nat) : List WorkItem × Nat :=
  (((s.matchesOf p).drop offset).take limit, (s.matchesOf p).length)

/-- The largest number among the items of a space other than one item, zero without such items. -/
def largestNumber (s : Store) (space except : String) : UInt64 :=
  (s.items.entries.filter fun other => other.space == space && other.id != except).foldl
    (fun largest other => max largest other.number) 0

/-- An item as it is stored: one without a number gets the number after the largest in its space.  After the last number
of 64 bits comes zero, as in a build whose sums wrap; a build that checks its sums stops there, with nothing stored. -/
def numbered (s : Store) (item : WorkItem) : WorkItem :=
  if item.number = 0 then { item with number := s.largestNumber item.space item.id + 1 } else item

def saveItem (s : Store) (item : WorkItem) : Store :=
  { s with items := s.items.insert (s.numbered item) }

def update (s : Store) (id : String) (u : WorkItemUpdate) (now : Timestamp) : Except StoreError Store :=
  (s.load id).map fun item => { s with items := s.items.insert (u.applyTo now item) }

/-! ## The catalog -/

def saveSpace (s : Store) (space : Space) : Store :=
  { s with spaces := s.spaces.insert space }

def saveType (s : Store) (type : WorkItemType) : Store :=
  { s with types := s.types.insert type }

/-- Whether two groups have the same name in the same space. -/
def sameGroup (g h : TypeGroup) : Bool :=
  g.space == h.space && g.name == h.name

/-- The store with a type group, which takes the place of the groups with its name in its space. -/
def saveGroup (s : Store) (group : TypeGroup) : Store :=
  { s with groups := s.groups.filter (fun g => !sameGroup g group) ++ [group] }

def saveIteration (s : Store) (iteration : Iteration) : Store :=
  { s with iterations := s.iterations.insert iteration }

def saveLabel (s : Store) (label : Label) : Store :=
  { s with labels := s.labels.insert label }

def group? (s : Store) (space name : String) : Option TypeGroup :=
  s.groups.find? fun g => g.space == space && g.name == name

def groupsNamed (s : Store) (name : String) : List TypeGroup :=
  s.groups.filter fun g => g.name == name

/-! ## Links -/

def saveLinkType (s : Store) (type : LinkType) : Store :=
  { s with linkTypes := s.linkTypes.insert type }

def saveLink (s : Store) (link : Link) : Except StoreError Store :=
  if !s.items.contains link.source then .error (.missingItem link.source)
  else if !s.items.contains link.target then .error (.missingItem link.target)
  else if !s.linkTypes.contains link.type then .error (.missingLinkType link.type)
  else .ok { s with links := s.links ++ [link] }

def parentsIn (s : Store) : List Link → Except StoreError StringSet
  | [] => .ok .empty
  | l :: ls =>
    match s.linkTypes.get? l.type with
    | none => .error (.unknownLinkType l.id l.type)
    | some t => (s.parentsIn ls).map fun parents => if t.isParentChild then parents.insert l.source else parents

/-- The parent of a work item in the hierarchy, which must not have several. -/
def parentOf? (s : Store) (id : String) : Except StoreError (Option String) := do
  let parents ← s.parentsIn (s.links.filter fun l => l.target == id)
  match parents.entries with
  | [] => return none
  | [parent] => return some parent
  | several => throw (.severalParents id several)

end Store
end Backlog
