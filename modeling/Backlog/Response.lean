import Backlog.Dataset
import Backlog.Page.Link
import Backlog.Search
/-!
# Response — what is written about a search

A search that succeeds is written as one object with the page, the ancestors, the number of all matches and the
addresses of the pages around; one that fails as an object with a list of one error.  The error carries an identifier
that is fresh for every report, and of a failure of the search itself nothing but that it happened.
-/
namespace Backlog

namespace PageLinks

/-- Addresses of pages as JSON; those that there are not are left out. -/
def toJson (l : PageLinks) : Json :=
  .obj ([("first", .str l.first), ("last", .str l.last)] ++ (l.previous.toList.map fun s => ("prev", .str s)) ++
    l.next.toList.map fun s => ("next", .str s))

end PageLinks

namespace SearchResult

/-- **The answer to a search.** -/
def toJson (r : SearchResult) (target : LinkTarget) : Json :=
  .obj [("data", .arr (r.items.map WorkItem.toJson)), ("included", .arr (r.included.map WorkItem.toJson)),
    ("meta", .obj [("totalCount", .ofNat r.total)]), ("links", (target.links r.page r.total).toJson)]

end SearchResult

namespace Request

/-- What the addresses of all pages of a request have in common, under the path where searches are served. -/
def target (r : Request) (base : String) : LinkTarget :=
  ⟨base, r.expression, r.space⟩

end Request

namespace QueryError

/-- **The report of an error**, under an identifier. -/
def toJson (e : QueryError) (id : String) : Json :=
  .obj [("errors", .arr [.obj [("id", .str id), ("code", .str e.code), ("status", .str (Text.decimal e.status)),
    ("title", .str e.title), ("detail", .str e.clientDetail)]])]

end QueryError
end Backlog
