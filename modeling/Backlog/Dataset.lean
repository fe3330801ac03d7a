import Backlog.Catalog
import Backlog.Json.Printer
import Backlog.Json.Reader
import Backlog.Json.Record
import Backlog.Link
import Backlog.WorkItem
/-!
# Dataset — everything that is tracked, as plain lists

A dataset is what a file holds.  Nothing is checked about it: identifiers may occur twice, and links may lead nowhere.

In JSON every kind of entry is an object with the same fields in the same order.  What is unset is written as null, except the
parent of a work item, which is left out.  Reading also takes a record as an array of its fields, passes over members
with other names, and lets unset fields and whole lists be absent.

A file holds one dataset over several lines (`Dataset.text`).  In what reading passes over, numbers may have any size
and values may nest to any depth (`Dataset.ofText?`).
-/
namespace Backlog

structure Dataset where
  spaces : List Space
  types : List WorkItemType
  groups : List TypeGroup
  iterations : List Iteration
  labels : List Label
  linkTypes : List LinkType
  links : List Link
  items : List WorkItem
deriving DecidableEq

namespace Dataset

def empty : Dataset := ⟨[], [], [], [], [], [], [], []⟩

end Dataset

/-! ## Entries as JSON -/

open Json (ofText? ofTexts ofTexts? text? texts? list? word? record? wholeRecord? needed optional defaulted variant?)

namespace Timestamp

def toJson (t : Timestamp) : Json :=
  .str t.text

def ofJson? (v : Json) : Option Timestamp :=
  (text? v).bind read?

end Timestamp

namespace Space

def toJson (s : Space) : Json :=
  .obj [("id", .str s.id), ("name", .str s.name)]

def ofJson? (v : Json) : Option Space := do
  match ← record? ["id", "name"] v with
  | [id, name] => return ⟨← needed text? id, ← needed text? name⟩
  | _ => none

end Space

namespace WorkItemType

def toJson (t : WorkItemType) : Json :=
  .obj [("id", .str t.id), ("space_id", .str t.space), ("name", .str t.name)]

def ofJson? (v : Json) : Option WorkItemType := do
  match ← record? ["id", "space_id", "name"] v with
  | [id, space, name] => return ⟨← needed text? id, ← needed text? space, ← needed text? name⟩
  | _ => none

end WorkItemType

namespace Bucket

def names : List (String × Bucket) :=
  [("portfolio", portfolio), ("requirement", requirement), ("iteration", iteration)]

def name : Bucket → String
  | portfolio => "portfolio"
  | requirement => "requirement"
  | iteration => "iteration"

theorem lookup_name (b : Bucket) : names.lookup b.name = some b := by cases b <;> rfl

end Bucket

namespace TypeGroup

def toJson (g : TypeGroup) : Json :=
  .obj [("name", .str g.name), ("space_id", .str g.space), ("bucket", .str g.bucket.name),
    ("type_ids", ofTexts g.types)]

def ofJson? (v : Json) : Option TypeGroup := do
  match ← record? ["name", "space_id", "bucket", "type_ids"] v with
  | [name, space, bucket, types] =>
    return ⟨← needed text? name, ← needed text? space, ← needed (variant? Bucket.names) bucket, ← needed texts? types⟩
  | _ => none

end TypeGroup

namespace Iteration

def toJson (i : Iteration) : Json :=
  .obj [("id", .str i.id), ("space_id", .str i.space), ("name", .str i.name)]

def ofJson? (v : Json) : Option Iteration := do
  match ← record? ["id", "space_id", "name"] v with
  | [id, space, name] => return ⟨← needed text? id, ← needed text? space, ← needed text? name⟩
  | _ => none

end Iteration

namespace Label

def toJson (l : Label) : Json :=
  .obj [("id", .str l.id), ("space_id", .str l.space), ("name", .str l.name)]

def ofJson? (v : Json) : Option Label := do
  match ← record? ["id", "space_id", "name"] v with
  | [id, space, name] => return ⟨← needed text? id, ← needed text? space, ← needed text? name⟩
  | _ => none

end Label

namespace Topology

def names : List (String × Topology) :=
  [("tree", tree), ("network", network), ("directed_network", directedNetwork), ("dependency", dependency)]

def name : Topology → String
  | tree => "tree"
  | network => "network"
  | directedNetwork => "directed_network"
  | dependency => "dependency"

theorem lookup_name (t : Topology) : names.lookup t.name = some t := by cases t <;> rfl

end Topology

namespace LinkType

def toJson (t : LinkType) : Json :=
  .obj [("id", .str t.id), ("name", .str t.name), ("topology", .str t.topology.name), ("forward_name", .str t.forward),
    ("reverse_name", .str t.reverse)]

def ofJson? (v : Json) : Option LinkType := do
  match ← record? ["id", "name", "topology", "forward_name", "reverse_name"] v with
  | [id, name, topology, forward, reverse] =>
    return ⟨← needed text? id, ← needed text? name, ← needed (variant? Topology.names) topology, ← needed text? forward,
      ← needed text? reverse⟩
  | _ => none

end LinkType

namespace Link

def toJson (l : Link) : Json :=
  .obj [("id", .str l.id), ("source_id", .str l.source), ("target_id", .str l.target), ("link_type_id", .str l.type)]

def ofJson? (v : Json) : Option Link := do
  match ← record? ["id", "source_id", "target_id", "link_type_id"] v with
  | [id, source, target, type] =>
    return ⟨← needed text? id, ← needed text? source, ← needed text? target, ← needed text? type⟩
  | _ => none

end Link

namespace WorkItem

def fieldNames : List String :=
  ["id", "number", "space_id", "type_id", "title", "description", "state", "iteration_id", "creator", "assignees",
    "labels", "created_at", "updated_at", "parent"]

def toJson (i : WorkItem) : Json :=
  .obj ([("id", .str i.id), ("number", .ofNat i.number.toNat), ("space_id", .str i.space), ("type_id", .str i.type),
    ("title", .str i.title), ("description", ofText? i.description), ("state", .str i.state),
    ("iteration_id", ofText? i.iteration), ("creator", ofText? i.creator), ("assignees", ofTexts? i.assignees),
    ("labels", ofTexts? i.labels), ("created_at", i.createdAt.toJson), ("updated_at", i.updatedAt.toJson)] ++
    match i.parent with
    | some parent => [("parent", .str parent)]
    | none => [])

def ofJson? (v : Json) : Option WorkItem := do
  match ← record? fieldNames v with
  | [id, number, space, type, title, description, state, iteration, creator, assignees, labels, createdAt, updatedAt,
      parent] =>
    let id ← needed text? id
    let number ← needed word? number
    let space ← needed text? space
    let type ← needed text? type
    let title ← needed text? title
    let description ← optional text? description
    let state ← needed text? state
    let iteration ← optional text? iteration
    let creator ← optional text? creator
    let assignees ← optional texts? assignees
    let labels ← optional texts? labels
    let createdAt ← needed Timestamp.ofJson? createdAt
    let updatedAt ← needed Timestamp.ofJson? updatedAt
    let parent ← optional text? parent
    return ⟨id, UInt64.ofNat number, space, type, title, description, state, iteration, creator, assignees, labels,
      createdAt, updatedAt, parent⟩
  | _ => none

end WorkItem

namespace WorkItemUpdate

def ofJson? (v : Json) : Option WorkItemUpdate := do
  match ← wholeRecord? ["title", "description", "state", "iteration_id", "assignees", "labels"] v with
  | [title, description, state, iteration, assignees, labels] =>
    return ⟨← optional text? title, ← optional text? description, ← optional text? state, ← optional text? iteration,
      ← optional texts? assignees, ← optional texts? labels⟩
  | _ => none

end WorkItemUpdate

namespace Dataset

def fieldNames : List String :=
  ["spaces", "work_item_types", "type_groups", "iterations", "labels", "link_types", "links", "work_items"]

def toJson (d : Dataset) : Json :=
  .obj [("spaces", .arr (d.spaces.map Space.toJson)), ("work_item_types", .arr (d.types.map WorkItemType.toJson)),
    ("type_groups", .arr (d.groups.map TypeGroup.toJson)), ("iterations", .arr (d.iterations.map Iteration.toJson)),
    ("labels", .arr (d.labels.map Label.toJson)), ("link_types", .arr (d.linkTypes.map LinkType.toJson)),
    ("links", .arr (d.links.map Link.toJson)), ("work_items", .arr (d.items.map WorkItem.toJson))]

def ofJson? (v : Json) : Option Dataset := do
  match ← record? fieldNames v with
  | [spaces, types, groups, iterations, labels, linkTypes, links, items] =>
    let spaces ← defaulted (list? Space.ofJson?) [] spaces
    let types ← defaulted (list? WorkItemType.ofJson?) [] types
    let groups ← defaulted (list? TypeGroup.ofJson?) [] groups
    let iterations ← defaulted (list? Iteration.ofJson?) [] iterations
    let labels ← defaulted (list? Label.ofJson?) [] labels
    let linkTypes ← defaulted (list? LinkType.ofJson?) [] linkTypes
    let links ← defaulted (list? Link.ofJson?) [] links
    let items ← defaulted (list? WorkItem.ofJson?) [] items
    return ⟨spaces, types, groups, iterations, labels, linkTypes, links, items⟩
  | _ => none

def text (d : Dataset) : String :=
  d.toJson.pretty

def ofText? (s : String) : Option Dataset :=
  (Json.readLoosely? s).bind ofJson?

end Dataset
end Backlog
