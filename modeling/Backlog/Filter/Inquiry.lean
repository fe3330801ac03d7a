import Backlog.Filter.Resolver
/-!
# Inquiry — one question after the other to a resolver

One resolver can be asked several questions, each about the names in some scope, and it remembers what it has read.  Of
iterations and labels it remembers all that there are, and picks from them at each question.  Of groups it remembers the
members that it has found, by the name of the group alone: `Memory` does not hold the scope in which a name was looked
up.
-/
namespace Backlog
namespace Filter

inductive Question
  | resolve (name : String)
  | groupTypes (name : String)
  | iterationsWhere (accept : String → Bool)
  | labelsWhere (accept : String → Bool)

structure Inquiry where
  question : Question
  scope : Scope

inductive Reply
  | resolution (outcome : Except QueryError Resolution)
  | members (types : Option StringSet)
  | identifiers (ids : StringSet)

structure Recollection where
  groups : Memory
  iterations : Option (List Iteration)
  labels : Option (List Label)

/-- What a resolver remembers before the first question. -/
def Recollection.empty : Recollection := ⟨[], none, none⟩

namespace Resolver

def ofGroups {α : Type} (lookup : StateM Memory α) : StateM Recollection α := fun m =>
  let (a, groups) := lookup.run m.groups
  (a, { m with groups })

def remembered {α : Type} (kept : Recollection → Option (List α)) (keep : List α → Recollection → Recollection)
    (stored : List α) : StateM Recollection (List α) := do
  match kept (← get) with
  | some entries => return entries
  | none =>
    modify (keep stored)
    return stored

def pick {α : Type} (id space name : α → String) (scope : Scope) (accept : String → Bool) (entries : List α) : StringSet :=
  .ofList ((entries.filter fun a => scope.contains (space a) && accept (name a)).map id)

def ask (r : Resolver) (q : Inquiry) : StateM Recollection Reply := do
  match q.question with
  | .resolve name => return .resolution (← ofGroups (r.resolve q.scope name).run)
  | .groupTypes name => return .members (← ofGroups (r.groupTypes q.scope name))
  | .iterationsWhere accept =>
    let iterations ← remembered Recollection.iterations (fun entries m => { m with iterations := some entries })
      r.store.iterations.entries
    return .identifiers (pick Iteration.id Iteration.space Iteration.name q.scope accept iterations)
  | .labelsWhere accept =>
    let labels ← remembered Recollection.labels (fun entries m => { m with labels := some entries }) r.store.labels.entries
    return .identifiers (pick Label.id Label.space Label.name q.scope accept labels)

/-- The answer of a resolver that has not been asked before. -/
def askFresh (r : Resolver) (q : Inquiry) : Reply :=
  ((r.ask q).run .empty).1

/-- **The answers to several questions** that one resolver is asked one after the other. -/
def askAll (r : Resolver) (qs : List Inquiry) : List Reply :=
  ((qs.mapM r.ask).run .empty).1

end Resolver
end Filter
end Backlog
