import Backlog.Filter.Compile
/-!
# Meaning — what a filter says about a work item

A filter is read against a store, without compiling it: each comparison says something about an item that holds or does
not hold, "and" and "or" are those of ordinary logic, and a negated condition says that the condition does not hold.

What a comparison says depends on its key.  An item has the attribute that the key stands for once or not at all
(`OfOne`), or any number of times (`OfMany`).  A comparison with null asks whether it is unset; one that asks for a
difference holds of what is set and different, or where there can be several values, of what has no such value.  The
names of iterations, labels and type groups are looked up in the spaces that the filter is about (`World.Covers`).
-/
namespace Backlog
namespace Filter

/-- What a filter is read against: the stored data, the states that there are, and which spaces are named. -/
structure World where
  store : Store
  states : List String
  named : String → Prop

/-! ## Values -/

/-- Whether one text stands somewhere in another one. -/
def IsPart (part whole : String) : Prop :=
  part.toList <:+: whole.toList

/-- Whether a value is the identifier `id`. -/
def SameIdentifier (value id : String) : Prop :=
  Conversion.identifier value = id

/-- Whether a value is the number `n`. -/
def SameNumber (value : String) (n : Nat) : Prop :=
  Text.readWord? (Conversion.trimmed value) = some n

namespace World

variable (m : World)

/-- Whether names are looked up in a space: it is named, or no space is. -/
def Covers (space : String) : Prop :=
  (∃ other, m.named other) → m.named space

/-- Whether a value is the state `state`: the first one that there is which differs from the value in letter case
only. -/
def SameState (value state : String) : Prop :=
  m.states.find? (fun s => Conversion.equalIgnoringCase s.toList (Conversion.trimmed value)) = some state

/-- Whether an iteration with the identifier `id` has such a name. -/
def IsIteration (name : String → Prop) (id : String) : Prop :=
  ∃ i ∈ m.store.iterations.entries, i.id = id ∧ m.Covers i.space ∧ name i.name

/-- Whether a label with the identifier `id` has such a name. -/
def IsLabel (name : String → Prop) (id : String) : Prop :=
  ∃ l ∈ m.store.labels.entries, l.id = id ∧ m.Covers l.space ∧ name l.name

/-- Whether a group counts for its name: any group if no space is named, else the first of its name in a named space. -/
def Counts (g : TypeGroup) : Prop :=
  (∃ other, m.named other) → m.named g.space ∧ m.store.group? g.space g.name = some g

/-- Whether a type is a member of a group with this name. -/
def IsMember (name type : String) : Prop :=
  ∃ g ∈ m.store.groups, g.name = name ∧ m.Counts g ∧ type ∈ g.types

end World

/-! ## Comparisons -/

/-- What a comparison says of something that an item has once or not at all, where `same` tells which values it is and
`part` which texts are a part of it. -/
def OfOne {α : Type} (same part : String → α → Prop) (has : Option α) : Operator → Value → Prop
  | .eq, .null => has = none
  | .ne, .null => has ≠ none
  | .eq, .text v => ∃ x ∈ has, same v x
  | .ne, .text v => ∃ x ∈ has, ¬same v x
  | .isIn, .texts vs => ∃ x ∈ has, ∃ v ∈ vs, same v x
  | .substr, .text v => ∃ x ∈ has, part v x
  | _, _ => False

/-- What a comparison says of something that an item has any number of times. -/
def OfMany {α : Type} (same part : String → α → Prop) (has : List α) : Operator → Value → Prop
  | .eq, .null => has = []
  | .ne, .null => has ≠ []
  | .eq, .text v => ∃ x ∈ has, same v x
  | .ne, .text v => ¬∃ x ∈ has, same v x
  | .isIn, .texts vs => ∃ x ∈ has, ∃ v ∈ vs, same v x
  | .substr, .text v => ∃ x ∈ has, part v x
  | _, _ => False

/-- What a comparison with a key says of an item.  A number has no parts, and neither has a group. -/
def World.OfKey (m : World) (item : WorkItem) : Key → Operator → Value → Prop
  | .id => OfOne SameIdentifier IsPart (some item.id)
  | .number => OfOne SameNumber (fun _ _ => False) (some item.number.toNat)
  | .space => OfOne SameIdentifier IsPart (some item.space)
  | .state => OfOne m.SameState IsPart (some item.state)
  | .type => OfOne SameIdentifier IsPart (some item.type)
  | .workItemType => OfOne SameIdentifier IsPart (some item.type)
  | .title => OfOne (· = ·) IsPart (some item.title)
  | .description => OfOne (· = ·) IsPart item.description
  | .iteration => OfOne SameIdentifier IsPart item.iteration
  | .creator => OfOne SameIdentifier IsPart item.creator
  | .assignee => OfMany SameIdentifier IsPart (item.assignees.getD [])
  | .label =>
    OfMany (fun v id => m.IsLabel (· = v) id ∨ SameIdentifier v id) (fun v => m.IsLabel (IsPart v))
      (item.labels.getD [])
  | .iterationName => OfOne (fun v => m.IsIteration (· = v)) (fun v => m.IsIteration (IsPart v)) item.iteration
  | .labelName => OfMany (fun v => m.IsLabel (· = v)) (fun v => m.IsLabel (IsPart v)) (item.labels.getD [])
  | .typeGroupName => OfOne m.IsMember (fun _ _ => False) (some item.type)

/-- What a comparison with the name of a group as its field says of an item; its value does not count. -/
def World.OfGroup (m : World) (item : WorkItem) (name : String) : Operator → Prop
  | .eq => m.IsMember name item.type
  | .ne => ¬m.IsMember name item.type
  | _ => False

/-- A statement, negated or as it is. -/
def NegateIf (negate : Bool) (p : Prop) : Prop :=
  if negate then ¬p else p

/-- **What a comparison says of an item.** -/
def Comparison.Holds (m : World) (item : WorkItem) (c : Comparison) : Prop :=
  NegateIf c.negate (match Key.ofName? c.field with
    | some key => m.OfKey item key c.operator c.value
    | none => m.OfGroup item c.field c.operator)

/-! ## Conditions -/

mutual

/-- **What a condition says of an item.** -/
def Node.Holds (m : World) (item : WorkItem) : Node → Prop
  | .comparison c => c.Holds m item
  | .combinator .and children negate => NegateIf negate (Node.AllHold m item children)
  | .combinator .or children negate => NegateIf negate (Node.SomeHolds m item children)

/-- All of several conditions. -/
def Node.AllHold (m : World) (item : WorkItem) : List Node → Prop
  | [] => True
  | n :: ns => n.Holds m item ∧ Node.AllHold m item ns

/-- Some of several conditions. -/
def Node.SomeHolds (m : World) (item : WorkItem) : List Node → Prop
  | [] => False
  | n :: ns => n.Holds m item ∨ Node.SomeHolds m item ns

end

/-! ## Documents -/

/-- Whether a comparison asks for a space: it is not negated and has the space among its values. -/
def Comparison.AsksFor (c : Comparison) (space : String) : Prop :=
  c.field = Key.space.name ∧ c.negate = false ∧ ∃ v, SameIdentifier v space ∧
    (c.operator = .eq ∧ c.value = .text v ∨ c.operator = .isIn ∧ ∃ vs, c.value = .texts vs ∧ v ∈ vs)

namespace Document

/-- Whether a space is named by a filter, or is the one that the request is confined to. -/
def Names (d : Document) (request : Option String) (space : String) : Prop :=
  (∃ raw ∈ request, SameIdentifier raw space) ∨ ∃ c ∈ d.root.comparisons, c.AsksFor space

def world (d : Document) (request : Option String) (s : Store) (states : List String) : World :=
  ⟨s, states, d.Names request⟩

/-- **Whether a filter selects an item**: the item is in the space that the request is confined to, if it is confined to
one, and the condition holds of it. -/
def Selects (d : Document) (request : Option String) (s : Store) (states : List String) (item : WorkItem) : Prop :=
  (∀ raw ∈ request, SameIdentifier raw item.space) ∧ d.root.Holds (d.world request s states) item

end Document
end Filter
end Backlog
