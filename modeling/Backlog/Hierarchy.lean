import Backlog.QueryError
import Backlog.Store
/-!
# Hierarchy — the ancestors of the work items on a page

The hierarchy of work items is what the store answers about parents.  The walk from an item to the top follows one
parent after the other; it fails at a parent that it has met before and at one beyond the allowed number of levels, so
it always ends (`ancestors`).  For a page of items, the ancestors that are not on the page themselves are listed once,
those nearer to the top first, and every item carries its parent (`withAncestors`).
-/
namespace Backlog
namespace Hierarchy

/-- The ancestors above an item, the nearest first, where `met` are the items met so far and `left` more levels may
follow; the walk started at `start`, which may have `levels` ancestors. -/
def climb (s : Store) (start : String) (levels : Nat) :
    (left : Nat) → (current : String) → (met : List String) → Except InternalFault (List String)
  | left, current, met =>
    match s.parentOf? current with
    | .error e => .error (.store e)
    | .ok none => .ok []
    | .ok (some parent) =>
      if met.contains parent then .error (.cycle parent)
      else match left with
        | 0 => .error (.tooDeep start levels)
        | left + 1 => (climb s start levels left parent (parent :: met)).map (parent :: ·)

/-- The ancestors of an item, the nearest first, of which there may be up to `levels`. -/
def ancestors (s : Store) (levels : Nat) (id : String) : Except InternalFault (List String) :=
  climb s id levels levels id [id]

/-- The ancestors of a page item that are to be listed, from the top of its chain downwards: those that `skip` does not
have.  Each carries the next of the chain as its parent. -/
def ancestorsToList (s : Store) (skip : String → Bool) : (chain : List String) → Except InternalFault (List WorkItem)
  | [] => .ok []
  | id :: above => do
    let listed ← ancestorsToList s skip above
    if skip id then return listed
    match s.load id with
    | .ok item => return listed ++ [{ item with parent := above.head? }]
    | .error e => throw (.store e)

/-- The items of a page with their parents, and their ancestors that are neither on the page nor listed yet. -/
def listAncestors (s : Store) (levels : Nat) (onPage : String → Bool) :
    (listed : List WorkItem) → List WorkItem → Except InternalFault (List WorkItem × List WorkItem)
  | listed, [] => .ok ([], listed)
  | listed, item :: items => do
    let chain ← ancestors s levels item.id
    let more ← ancestorsToList s (fun id => onPage id || listed.any (·.id == id)) chain
    let (rest, all) ← listAncestors s levels onPage (listed ++ more) items
    return ({ item with parent := chain.head? } :: rest, all)

/-- **The items of a page with their parents, and the ancestors of all of them that are not on the page.** -/
def withAncestors (s : Store) (levels : Nat) (items : List WorkItem) :
    Except InternalFault (List WorkItem × List WorkItem) :=
  listAncestors s levels (fun id => items.any (·.id == id)) [] items

def withoutParents (items : List WorkItem) : List WorkItem :=
  items.map fun item => { item with parent := none }

end Hierarchy
end Backlog
