import Backlog.Filter.Reader
import Backlog.Filter.Resolver
/-!
# Compile — from a filter to a predicate

A filter is compiled into a predicate in which every name has been looked up: comparisons of names become tests for the
identifiers that have these names, in the spaces that the filter is about.  These are the space of the request and every
space that some comparison asks for without negating it, wherever in the tree it stands (`collectScope`).

Compilation goes through the tree from left to right and ends at the first comparison that has no meaning.
-/
namespace Backlog
namespace Filter

/-- A filter that is ready to run: the predicate, the spaces in which names were looked up, and whether ancestors are
wanted. -/
structure Compiled where
  predicate : Predicate
  scope : Scope
  treeView : Bool

namespace Comparison

def mismatch (c : Comparison) : QueryError :=
  .illFormed (.mismatch c.operator c.value c.field)

def nullTest (c : Comparison) : Except QueryError Test :=
  match c.operator with
  | .eq => .ok .isNull
  | .ne => .ok .isNotNull
  | _ => .error c.mismatch

def requestedSpaces (c : Comparison) : List String :=
  if c.field != Key.space.name || c.negate then []
  else match c.operator, c.value with
    | .eq, .text v => [v]
    | .isIn, .texts vs => vs
    | _, _ => []

end Comparison

namespace Resolver

def convertSpace (r : Resolver) (raw : String) : Except QueryError String :=
  r.convert Key.space.name .identifier raw

def collectScope (r : Resolver) (root : Node) : Except QueryError Scope :=
  return .ofList (← (root.comparisons.flatMap Comparison.requestedSpaces).mapM r.convertSpace)

def directTest (r : Resolver) (c : Comparison) (kind : FieldKind) : Except QueryError Test :=
  match c.operator, c.value with
  | _, .null => c.nullTest
  | .eq, .text v => (r.convert c.field kind v).map .eq
  | .ne, .text v => (r.convert c.field kind v).map .ne
  | .isIn, .texts vs => (vs.mapM (r.convert c.field kind)).map fun vs => .isIn (.ofList vs)
  | .substr, .text part =>
    if kind = .number then .error (.invalidCombination (.substrUnsupported c.field)) else .ok (.substr part)
  | _, _ => .error c.mismatch

def joinTest (c : Comparison) (ofValue : String → Except QueryError StringSet) (ofPart : String → StringSet) :
    Except QueryError Test :=
  match c.operator, c.value with
  | _, .null => c.nullTest
  | .eq, .text v => (ofValue v).map .isIn
  | .ne, .text v => (ofValue v).map .notIn
  | .isIn, .texts vs => (vs.mapM ofValue).map fun sets => .isIn (sets.foldl StringSet.union .empty)
  | .substr, .text part => .ok (.isIn (ofPart part))
  | _, _ => .error c.mismatch

def iterationNameTest (r : Resolver) (scope : Scope) (c : Comparison) : Except QueryError Test :=
  joinTest c (fun v => .ok (r.iterationsWhere scope (· == v))) fun part => r.iterationsWhere scope (Text.occursIn part)

def labelNameTest (r : Resolver) (scope : Scope) (c : Comparison) : Except QueryError Test :=
  joinTest c (fun v => .ok (r.labelsWhere scope (· == v))) fun part => r.labelsWhere scope (Text.occursIn part)

/-- The labels that a value stands for: those with this name in the scope, and the one with this identifier. -/
def labelsOfValue (r : Resolver) (scope : Scope) (field value : String) : Except QueryError StringSet :=
  return (r.labelsWhere scope (· == value)).insert (← r.convert field .identifier value)

def labelTest (r : Resolver) (scope : Scope) (c : Comparison) : Except QueryError Test :=
  joinTest c (r.labelsOfValue scope c.field) fun part => r.labelsWhere scope (Text.occursIn part)

def groupNames (c : Comparison) : Except QueryError (List String) :=
  match c.operator, c.value with
  | _, .null => .error (.invalidCombination (.nullUnsupported c.field))
  | .substr, _ => .error (.invalidCombination (.substrUnsupported c.field))
  | .eq, .text v => .ok [v]
  | .ne, .text v => .ok [v]
  | .isIn, .texts vs => .ok vs
  | _, _ => .error c.mismatch

/-- The test of the type that a comparison of the name of a group stands for.  Without a group of such a name nothing
matches, and everything where a difference is asked for. -/
def compileGroupName (r : Resolver) (scope : Scope) (c : Comparison) : Resolving Predicate := do
  let names ← groupNames c
  let found ← names.mapM fun name => r.groupTypes scope name
  let types := (found.filterMap id).foldl StringSet.union .empty
  if c.operator = .ne then return .leaf ⟨.type, .notIn types⟩
  if found.all Option.isNone then return .const false
  return .leaf ⟨.type, .isIn types⟩

/-- The test of the type that a comparison with a group's name as its field stands for; its value does not count. -/
def compileGroup (c : Comparison) (name : String) (types : Option StringSet) : Except QueryError Predicate :=
  if c.value = .null then .error (.invalidCombination (.groupWithNull name))
  else match c.operator, types with
    | .eq, some types => .ok (.leaf ⟨.type, .isIn types⟩)
    | .ne, some types => .ok (.leaf ⟨.type, .notIn types⟩)
    | .eq, none => .ok (.const false)
    | .ne, none => .ok (.const true)
    | _, _ => .error (.invalidCombination (.groupOperator name))

/-- The predicate of a comparison without regard to its negation, once its field is looked up. -/
def compileResolved (r : Resolver) (scope : Scope) (c : Comparison) : Resolution → Resolving Predicate
  | .direct subject kind => return .leaf ⟨subject, ← r.directTest c kind⟩
  | .collection subject => return .leaf ⟨subject, ← r.directTest c .identifier⟩
  | .labelReference => return .leaf ⟨.labels, ← r.labelTest scope c⟩
  | .iterationName => return .leaf ⟨.iteration, ← r.iterationNameTest scope c⟩
  | .labelName => return .leaf ⟨.labels, ← r.labelNameTest scope c⟩
  | .typeGroupName => r.compileGroupName scope c
  | .typeGroup name types => compileGroup c name types

def compileComparison (r : Resolver) (scope : Scope) (c : Comparison) : Resolving Predicate := do
  if c.negate && c.value = .null then throw (.invalidCombination (.negatedNull c.field))
  let resolution ← r.resolve scope c.field
  let predicate ← r.compileResolved scope c resolution
  return predicate.negateIf c.negate

def joined : Connective → List Predicate → Predicate
  | .and, children => .and children
  | .or, children => .or children

mutual

def compileNode (r : Resolver) (scope : Scope) : Node → Resolving Predicate
  | .comparison c => r.compileComparison scope c
  | .combinator connective children negate => do
    return (joined connective (← compileNodes r scope children)).negateIf negate

def compileNodes (r : Resolver) (scope : Scope) : List Node → Resolving (List Predicate)
  | [] => return []
  | n :: ns => do return (← compileNode r scope n) :: (← compileNodes r scope ns)

end

def compileDocument (r : Resolver) (d : Document) (space : Option String) : Resolving Compiled := do
  match space with
  | none =>
    let scope ← r.collectScope d.root
    return ⟨← r.compileNode scope d.root, scope, d.treeView⟩
  | some raw =>
    let space ← r.convertSpace raw
    let scope := (← r.collectScope d.root).insert space
    return ⟨.and [.leaf ⟨.space, .eq space⟩, ← r.compileNode scope d.root], scope, d.treeView⟩

/-- **A filter as a predicate**, for a request that may be confined to one space. -/
def compile (r : Resolver) (d : Document) (space : Option String) : Except QueryError Compiled :=
  ((r.compileDocument d space).run.run []).1

end Resolver
end Filter
end Backlog
