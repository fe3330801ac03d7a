import Backlog.Json.Basic
/-!
# Schema — the JSON Schema of a successful answer

What `SearchResult.toJson` writes, told to programs: which members the objects have, of which type they are, and which
of them are always there.
-/
namespace Backlog
namespace Schema

def textType : List (String × Json) :=
  [("type", .str "string")]

def optionalTextType : List (String × Json) :=
  [("type", .arr [.str "string", .str "null"])]

def optionalTextsType : List (String × Json) :=
  [("items", .obj textType), ("type", .arr [.str "array", .str "null"])]

def momentType : List (String × Json) :=
  [("format", .str "date-time"), ("type", .str "string")]

def naturalType (format : String) : List (String × Json) :=
  [("format", .str format), ("minimum", .num (.decimal false 0 0)), ("type", .str "integer")]

def described (description : String) (type : List (String × Json)) : Json :=
  .obj (("description", .str description) :: type)

def nullable (description : String) (type : List (String × Json)) : Json :=
  .obj (("default", .null) :: ("description", .str description) :: type)

def reference (name : String) : Json :=
  .obj [("$ref", .str ("#/definitions/" ++ name))]

def objectType (required : List String) (properties : List (String × Json)) : List (String × Json) :=
  [("properties", .obj properties), ("required", .arr (required.map .str)), ("type", .str "object")]

def links : Json :=
  described "Paging links" (objectType ["first", "last"]
    [("first", .obj textType), ("last", .obj textType), ("next", .obj optionalTextType),
      ("prev", .obj optionalTextType)])

def summary : Json :=
  .obj (objectType ["totalCount"] [("totalCount", described "Number of matches ignoring paging" (naturalType "uint"))])

def workItem : Json :=
  described "A unit of tracked work" (objectType
    ["created_at", "id", "number", "space_id", "state", "title", "type_id", "updated_at"]
    [("assignees", nullable "Assigned identities. `None` means never set." optionalTextsType),
      ("created_at", described "Creation timestamp, the primary result ordering key" momentType),
      ("creator", nullable "Identity that created the item" optionalTextType),
      ("description", nullable "Longer free-text description" optionalTextType),
      ("id", described "Unique identifier (UUID)" textType),
      ("iteration_id", nullable "Iteration the item is planned into" optionalTextType),
      ("labels", nullable "Attached label IDs. `None` means never set." optionalTextsType),
      ("number", described "Human-friendly sequence number within the space" (naturalType "uint64")),
      ("parent", described "Tree parent, filled in only by tree-view queries" optionalTextType),
      ("space_id", described "Space this work item belongs to" textType),
      ("state", described "Workflow state (e.g., \"new\", \"open\", \"resolved\")" textType),
      ("title", described "Short summary" textType),
      ("type_id", described "Work item type identifier" textType),
      ("updated_at", described "Last modification timestamp" momentType)])

def workItems (description : String) : Json :=
  described description [("items", reference "WorkItem"), ("type", .str "array")]

/-- **The schema of an answer.** -/
def searchResponse : Json :=
  .obj ([("$schema", .str "http://json-schema.org/draft-07/schema#"),
    ("definitions", .obj [("Links", links), ("Meta", summary), ("WorkItem", workItem)]),
    ("description", .str "Response body of a successful search")] ++
    objectType ["data", "included", "links", "meta"]
      [("data", workItems "Matched work items, in result order"),
        ("included", workItems "Ancestors of `data` items (tree-view only)"),
        ("links", reference "Links"),
        ("meta", reference "Meta")] ++
    [("title", .str "SearchResponse")])

end Schema
end Backlog
