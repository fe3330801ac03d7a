import Backlog.Proofs.Dataset.RoundTrip
import Backlog.Response
/-!
# RoundTrip — what an answer to a search shows

Whoever reads the answer to a search finds in it the items of the page and the ancestors with all their fields, the
number of all matches and the addresses of the pages around (`SearchAnswer.ofJson?_toJson`).  So nothing that was found
is lost or changed on the way to the reader.
-/
namespace Backlog

open Json (record?_obj)

/-- What an answer to a search shows. -/
structure SearchAnswer where
  items : List WorkItem
  included : List WorkItem
  total : Nat
  links : PageLinks

def PageLinks.ofJson? (v : Json) : Option PageLinks := do
  match ← Json.record? ["first", "last", "prev", "next"] v with
  | [first, last, previous, next] =>
    return ⟨← Json.needed Json.text? first, ← Json.needed Json.text? last, ← Json.optional Json.text? previous,
      ← Json.optional Json.text? next⟩
  | _ => none

theorem PageLinks.ofJson?_toJson (l : PageLinks) : ofJson? l.toJson = some l := by
  obtain ⟨first, last, previous, next⟩ := l
  cases previous <;> cases next <;> rfl

namespace SearchAnswer

def count? : Json → Option Nat
  | .num (.integer (.ofNat n)) => some n
  | _ => none

def meta? (v : Json) : Option Nat := do
  match ← Json.record? ["totalCount"] v with
  | [total] => Json.needed count? total
  | _ => none

def ofJson? (v : Json) : Option SearchAnswer := do
  match ← Json.record? ["data", "included", "meta", "links"] v with
  | [items, included, total, links] =>
    return ⟨← Json.needed (Json.list? WorkItem.ofJson?) items, ← Json.needed (Json.list? WorkItem.ofJson?) included,
      ← Json.needed meta? total, ← Json.needed PageLinks.ofJson? links⟩
  | _ => none

theorem ofJson?_toJson (result : SearchResult) (target : LinkTarget) :
    ofJson? (result.toJson target) =
      some ⟨result.items, result.included, result.total, target.links result.page result.total⟩ := by
  have hmeta : meta? (.obj [("totalCount", .ofNat result.total)]) = some result.total := rfl
  have hlinks := (target.links result.page result.total).ofJson?_toJson
  rw [ofJson?, SearchResult.toJson, record?_obj []]
  · simp only [List.map_cons, List.map_nil, List.append_nil, Option.bind_eq_bind, Option.bind_some,
      WorkItem.recovers.list.needed]
    rw [Json.needed, Json.needed, Option.bind_some, Option.bind_some, hmeta, hlinks]
    rfl
  · rfl
  · decide

end SearchAnswer

/-- Whether a document shows what was found: the page, the ancestors and the count, whatever the addresses in it are. -/
def SearchResult.ShownBy (result : SearchResult) (document : Json) : Prop :=
  ∃ links, SearchAnswer.ofJson? document = some ⟨result.items, result.included, result.total, links⟩

theorem SearchResult.shownBy_toJson (result : SearchResult) (target : LinkTarget) :
    result.ShownBy (result.toJson target) :=
  ⟨_, SearchAnswer.ofJson?_toJson result target⟩

end Backlog
