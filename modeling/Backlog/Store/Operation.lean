import Backlog.Store
/-!
# Operation — what can be done to a store

Every change of a store is one of these operations.  An operation that is refused leaves the store as it was, so a
sequence of operations has a result whatever happens on the way (`Store.run`).
-/
namespace Backlog

inductive Operation
  | saveSpace (space : Space)
  | saveType (type : WorkItemType)
  | saveGroup (group : TypeGroup)
  | saveIteration (iteration : Iteration)
  | saveLabel (label : Label)
  | saveLinkType (type : LinkType)
  | saveLink (link : Link)
  | saveItem (item : WorkItem)
  | update (id : String) (change : WorkItemUpdate) (now : Timestamp)

namespace Store

def apply (s : Store) : Operation → Except StoreError Store
  | .saveSpace space => .ok (s.saveSpace space)
  | .saveType type => .ok (s.saveType type)
  | .saveGroup group => .ok (s.saveGroup group)
  | .saveIteration iteration => .ok (s.saveIteration iteration)
  | .saveLabel label => .ok (s.saveLabel label)
  | .saveLinkType type => .ok (s.saveLinkType type)
  | .saveLink link => s.saveLink link
  | .saveItem item => .ok (s.saveItem item)
  | .update id change now => s.update id change now

/-- The store after an operation, and why the operation was refused if it was. -/
def step (s : Store) (o : Operation) : Store × Option StoreError :=
  match s.apply o with
  | .ok after => (after, none)
  | .error e => (s, some e)

def run (s : Store) (os : List Operation) : Store :=
  os.foldl (fun s o => (s.step o).1) s

end Store
end Backlog
