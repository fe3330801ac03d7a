import Backlog.Page
import Backlog.Text.Percent
/-!
# Link — the addresses of pages

The address of a page repeats the request that it is a page of: the expression, the space if there is one, the offset
and the limit, as the query string of the path where searches are served.  The expression and the space stand in it
percent-encoded.
-/
namespace Backlog

/-- What all pages of a request have in common in their addresses. -/
structure LinkTarget where
  base : String
  expression : String
  space : Option String
deriving DecidableEq, Repr

structure PageLinks where
  first : String
  last : String
  previous : Option String
  next : Option String
deriving DecidableEq, Repr

def dropTrailingSlashes (s : String) : String :=
  String.ofList (s.toList.reverse.dropWhile (· == '/')).reverse

namespace LinkTarget

def query (t : LinkTarget) (p : Page) : String :=
  "filter[expression]=" ++ Text.percentEncode t.expression ++
    (match t.space with
      | some space => "&spaceID=" ++ Text.percentEncode space
      | none => "") ++
    "&page[offset]=" ++ Text.decimal p.offset ++ "&page[limit]=" ++ Text.decimal p.limit

def link (t : LinkTarget) (p : Page) : String :=
  dropTrailingSlashes t.base ++ "/search?" ++ t.query p

/-- **The addresses of the pages around a page**, of which `total` matches are shown. -/
def links (t : LinkTarget) (p : Page) (total : Nat) : PageLinks where
  first := t.link p.nonempty.first
  last := t.link (p.nonempty.last total)
  previous := (p.nonempty.previous? total).map t.link
  next := (p.nonempty.next? total).map t.link

end LinkTarget
end Backlog
