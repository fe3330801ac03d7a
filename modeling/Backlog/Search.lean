import Backlog.Filter.Compile
import Backlog.Filter.References
import Backlog.Hierarchy
import Backlog.Page
/-!
# Search — from a request to a page of work items

An engine is a store together with all that the meaning of a filter depends on.  A search reads the filter of a request,
compiles it, finds the page of the matches, and if the filter wants ancestors adds those of the page; otherwise no item
shows a parent.  A check compiles a filter without running it and lists the references that the catalog does not know.
-/
namespace Backlog

open Backlog.Filter (Document Compiled Converter Resolver)

/-- A store with all that the meaning of a filter depends on. -/
structure Engine where
  store : Store
  convert : Converter
  settings : Settings
  states : List String

/-- A request for a page of the work items that match a filter. -/
structure Request where
  expression : String
  space : Option String
  offset : Option Nat
  limit : Option Nat
deriving DecidableEq, Repr

/-- A page of matches, the ancestors that come with it, the number of all matches, and which page it is. -/
structure SearchResult where
  items : List WorkItem
  included : List WorkItem
  total : Nat
  page : Page
deriving DecidableEq

namespace Engine

def ofConfig (s : Store) (c : Config) : Engine :=
  ⟨s, Filter.Conversion.standard, c.settings, c.allStates⟩

def resolver (e : Engine) : Resolver :=
  ⟨e.store, e.convert, e.states, e.settings.strictKeys⟩

def compile (e : Engine) (d : Document) (space : Option String) : Except QueryError Compiled :=
  e.resolver.compile d space

def check (e : Engine) (d : Document) (space : Option String) : Except QueryError (List String) :=
  (e.compile d space).map fun _ => Filter.warnings e.store d space

def arrange (e : Engine) (treeView : Bool) (items : List WorkItem) :
    Except QueryError (List WorkItem × List WorkItem) :=
  if treeView then (Hierarchy.withAncestors e.store e.settings.maxTreeDepth items).mapError (.internal [])
  else .ok (Hierarchy.withoutParents items, [])

def runCompiled (e : Engine) (c : Compiled) (page : Page) : Except QueryError SearchResult := do
  let (found, total) := e.store.find c.predicate page.offset page.limit
  let (items, included) ← e.arrange c.treeView found
  return ⟨items, included, total, page⟩

/-- **The answer to a request.** -/
def search (e : Engine) (r : Request) : Except QueryError SearchResult := do
  let document ← Document.ofText r.expression
  let compiled ← e.compile document r.space
  e.runCompiled compiled (.ofRequest e.settings r.offset r.limit)

end Engine
end Backlog
