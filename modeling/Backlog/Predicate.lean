import Backlog.Text.Decimal
import Backlog.Text.Parts
import Backlog.WorkItem
/-!
# Predicate — tests on the attributes of a work item, and their logic

A predicate is what a filter comes down to: no names are left in it that would need a look-up.  Its leaves test one
attribute of an item, and evaluation has three outcomes, because a test of an attribute that is unset is neither met nor
failed.  An item matches when the predicate holds, so what is unknown does not match; a negation is met exactly when
what it negates does not hold, so it takes the unknown for failed.

Attributes of which an item can have several values are never unset: no values are the same as none.
-/
namespace Backlog

inductive Truth
  | holds
  | fails
  | unknown
deriving DecidableEq, Repr

namespace Truth

def ofBool (b : Bool) : Truth :=
  if b then holds else fails

def isHolds : Truth → Bool
  | holds => true
  | _ => false

end Truth

/-- An attribute of work items that predicates can test. -/
inductive Attribute
  | id
  | number
  | space
  | state
  | type
  | title
  | description
  | iteration
  | creator
  | assignees
  | labels
deriving DecidableEq, Repr

/-- What an item has in an attribute: one value or none, or any number of values. -/
inductive Content
  | single (value : Option String)
  | several (values : List String)
deriving DecidableEq, Repr

namespace Attribute

def content (item : WorkItem) : Attribute → Content
  | id => .single (some item.id)
  | number => .single (some (Text.decimal item.number.toNat))
  | space => .single (some item.space)
  | state => .single (some item.state)
  | type => .single (some item.type)
  | title => .single (some item.title)
  | description => .single item.description
  | iteration => .single item.iteration
  | creator => .single item.creator
  | assignees => .several (item.assignees.getD [])
  | labels => .several (item.labels.getD [])

end Attribute

inductive Test
  | eq (value : String)
  | ne (value : String)
  | isIn (values : StringSet)
  | notIn (values : StringSet)
  | substr (part : String)
  | isNull
  | isNotNull
deriving DecidableEq

namespace Test

def ofValue (v : String) : Test → Bool
  | eq value => v == value
  | ne value => v != value
  | isIn values => values.contains v
  | notIn values => !values.contains v
  | substr part => Text.occursIn part v
  | isNull => false
  | isNotNull => true

def ofUnset : Test → Truth
  | isNull => .holds
  | isNotNull => .fails
  | _ => .unknown

/-- A test of several values: met by one of them, or by none where it asks for a difference. -/
def ofValues (vs : List String) : Test → Bool
  | eq value => vs.any (· == value)
  | ne value => !vs.any (· == value)
  | isIn values => vs.any values.contains
  | notIn values => !vs.any values.contains
  | substr part => vs.any (Text.occursIn part)
  | isNull => vs.isEmpty
  | isNotNull => !vs.isEmpty

def evaluate (t : Test) : Content → Truth
  | .single (some v) => .ofBool (t.ofValue v)
  | .single none => t.ofUnset
  | .several vs => .ofBool (t.ofValues vs)

end Test

structure Condition where
  subject : Attribute
  test : Test
deriving DecidableEq

namespace Condition

def evaluate (c : Condition) (item : WorkItem) : Truth :=
  c.test.evaluate (c.subject.content item)

end Condition

inductive Predicate
  | const (value : Bool)
  | leaf (condition : Condition)
  | and (children : List Predicate)
  | or (children : List Predicate)
  | not (inner : Predicate)

namespace Predicate

mutual

def evaluate (item : WorkItem) : Predicate → Truth
  | const value => .ofBool value
  | leaf condition => condition.evaluate item
  | and children => evaluateAll item .holds children
  | or children => evaluateAny item .fails children
  | not inner => .ofBool (!(evaluate item inner).isHolds)

/-- The outcome of a conjunction, of which the children so far came to `soFar`; it ends at the first that fails. -/
def evaluateAll (item : WorkItem) (soFar : Truth) : List Predicate → Truth
  | [] => soFar
  | p :: ps =>
    match evaluate item p with
    | .fails => .fails
    | .unknown => evaluateAll item .unknown ps
    | .holds => evaluateAll item soFar ps

/-- The outcome of a disjunction, of which the children so far came to `soFar`; it ends at the first that holds. -/
def evaluateAny (item : WorkItem) (soFar : Truth) : List Predicate → Truth
  | [] => soFar
  | p :: ps =>
    match evaluate item p with
    | .holds => .holds
    | .unknown => evaluateAny item .unknown ps
    | .fails => evaluateAny item soFar ps

end

def negateIf (negate : Bool) (p : Predicate) : Predicate :=
  if negate then not p else p

def isMatch (p : Predicate) (item : WorkItem) : Bool :=
  (p.evaluate item).isHolds

end Predicate
end Backlog
