/-!
# Document — what a filter says, before any name in it is looked up

A filter is a tree.  Its leaves compare a field with a value by one of four operators, its inner nodes join conditions
by "and" or "or", and every node can be negated.  Beside the tree stands one option: whether the ancestors of what is
found are wanted as well.

A tree can pair an operator with a value that it has no meaning for; `Comparison.isWellFormed` and `Node.isWellFormed`
single out the trees that have a written form.
-/
namespace Backlog
namespace Filter

inductive Operator
  | eq
  | ne
  | isIn
  | substr
deriving DecidableEq, Repr

inductive Value
  | text (value : String)
  | null
  | texts (values : List String)
deriving DecidableEq, Repr

structure Comparison where
  field : String
  operator : Operator
  value : Value
  negate : Bool
deriving DecidableEq, Repr

inductive Connective
  | and
  | or
deriving DecidableEq, Repr

/-- A condition: a comparison, or conditions that are joined. -/
inductive Node
  | comparison (comparison : Comparison)
  | combinator (connective : Connective) (children : List Node) (negate : Bool)
deriving Repr

/-- A filter: a condition and whether ancestors are wanted. -/
structure Document where
  root : Node
  treeView : Bool
deriving Repr

namespace Node

def negated : Node → Node
  | comparison c => comparison { c with negate := true }
  | combinator connective children _ => combinator connective children true

mutual

def comparisons : Node → List Comparison
  | comparison c => [c]
  | combinator _ children _ => comparisonsOfAll children

def comparisonsOfAll : List Node → List Comparison
  | [] => []
  | n :: ns => comparisons n ++ comparisonsOfAll ns

end

end Node

/-! ## Conditions with a written form -/

/-- Whether a name is one of those that are not names of fields: it starts with a dollar sign. -/
def isReserved (name : String) : Bool :=
  name.toList.head? == some '$'

namespace Comparison

def pairs : Operator → Value → Bool
  | .eq, .text _ => true
  | .eq, .null => true
  | .ne, .text _ => true
  | .ne, .null => true
  | .isIn, .texts _ => true
  | .substr, .text _ => true
  | _, _ => false

/-- A field that can be written: not empty, not an operator, and not the word that negates. -/
def isFieldName (field : String) : Bool :=
  field != "" && !isReserved field && field != "negate"

def isWellFormed (c : Comparison) : Bool :=
  isFieldName c.field && pairs c.operator c.value

end Comparison

namespace Node

mutual

/-- A condition that can be written: none of its combinators is empty, and its comparisons can be written. -/
def isWellFormed : Node → Bool
  | comparison c => c.isWellFormed
  | combinator _ children _ => !children.isEmpty && areWellFormed children

def areWellFormed : List Node → Bool
  | [] => true
  | n :: ns => isWellFormed n && areWellFormed ns

end

end Node
end Filter
end Backlog
