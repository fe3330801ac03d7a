import Backlog.Filter.Document
import Backlog.Filter.Key
import Backlog.Store
import Backlog.Text.Decimal
import Backlog.Text.Quoted
/-!
# QueryError — why a query has no result

A query fails in one of four ways: what was asked is not a filter, it compares a name that nothing has, it puts together
what has no meaning together, or the search itself failed.  The first three are the caller's doing and are told in full;
of the fourth the caller learns nothing but that it happened.

Every cause is a value; the wording is in `message`, `display` and `actionable`.
-/
namespace Backlog

open Backlog.Filter (Operator Value)

/-- Why a text is not a filter, or a request not a search. -/
inductive SyntaxFault
  | malformedJson
  | notAnObject
  | optionsNotAnObject
  | treeViewNotBool
  | unknownOption (name : String)
  | noCondition
  | negateNotBool
  | nestedOptions
  | unknownOperator (name : String)
  | emptyKey
  | emptyObject
  | ambiguousNegate
  | combinatorNotArray (name : String)
  | combinatorEmpty (name : String)
  | combinatorItemNotObject (name : String)
  | operatorCount (field : String)
  | unknownFieldOperator (name field : String)
  | inNotArray (field : String)
  | inItemNotString (field : String)
  | substrNotString (field : String)
  | bareList (field : String)
  | unsupportedValue (text field : String)
  | mismatch (operator : Operator) (value : Value) (field : String)
  | missingExpression
  | badPageNumber (parameter value : String)
  | other (message : String)
deriving DecidableEq, Repr

/-- Why a comparison has no meaning. -/
inductive CombinationFault
  | negatedNull (field : String)
  | substrUnsupported (field : String)
  | nullUnsupported (field : String)
  | groupWithNull (name : String)
  | groupOperator (name : String)
  | notANumber (raw field : String)
  | notInList (raw field : String) (allowed : List String)
  | other (message : String)
deriving DecidableEq, Repr

inductive InternalFault
  | store (error : StoreError)
  | cycle (item : String)
  | tooDeep (item : String) (levels : Nat)
  | other (message : String)
deriving DecidableEq, Repr

/-- Why a query has no result.  A failure of the search itself carries what was being done, the outermost first. -/
inductive QueryError
  | illFormed (fault : SyntaxFault)
  | unknownKey (key : String)
  | invalidCombination (fault : CombinationFault)
  | internal (contexts : List String) (fault : InternalFault)
deriving DecidableEq, Repr

/-! ## Wording of the causes -/

namespace Filter

def Operator.shown : Operator → String
  | .eq => "Eq"
  | .ne => "Ne"
  | .isIn => "In"
  | .substr => "Substr"

def Value.shown : Value → String
  | .text value => "String(" ++ Text.quoted value ++ ")"
  | .null => "Null"
  | .texts values => "List(" ++ Text.quotedList values ++ ")"

end Filter

namespace SyntaxFault

/-- What is said about a text that is not a filter.  What the reader of JSON found wrong, and where, is not told: the
message about a text that is no JSON ends where that would follow. -/
def message : SyntaxFault → String
  | malformedJson => "malformed JSON"
  | notAnObject => "filter must be a JSON object"
  | optionsNotAnObject => "$OPTS must be an object"
  | treeViewNotBool => "tree_view must be true or false"
  | unknownOption name => s!"unknown option '{name}'"
  | noCondition => "filter has no condition"
  | negateNotBool => "negate must be true or false"
  | nestedOptions => "$OPTS is only allowed at the top level"
  | unknownOperator name => s!"unknown operator '{name}'"
  | emptyKey => "empty filter key"
  | emptyObject => "empty condition object"
  | ambiguousNegate => "negate is ambiguous next to several conditions; wrap them in $AND"
  | combinatorNotArray name => s!"{name} expects an array"
  | combinatorEmpty name => s!"{name} needs at least one condition"
  | combinatorItemNotObject name => s!"{name} items must be objects"
  | operatorCount field => s!"'{field}' needs exactly one operator"
  | unknownFieldOperator name field => s!"unknown operator '{name}' on '{field}'"
  | inNotArray field => s!"$IN on '{field}' expects an array"
  | inItemNotString field => s!"$IN values for '{field}' must be strings"
  | substrNotString field => s!"$SUBSTR on '{field}' expects a string"
  | bareList field => s!"'{field}' has a list value; use " ++ "\x7b\"$IN\": [...]\x7d"
  | unsupportedValue text field => s!"unsupported value {text} for '{field}'; expected a string or null"
  | mismatch operator value field => s!"operator {operator.shown} cannot take value {value.shown} on '{field}'"
  | missingExpression => "filter[expression] is required"
  | badPageNumber parameter value => s!"{parameter} must be a non-negative integer, got '{value}'"
  | other message => message

end SyntaxFault

namespace CombinationFault

def message : CombinationFault → String
  | negatedNull field => s!"negate cannot be combined with a null value on '{field}'"
  | substrUnsupported field => s!"$SUBSTR is not supported on '{field}'"
  | nullUnsupported field => s!"'{field}' cannot be compared with null"
  | groupWithNull name => s!"type group '{name}' cannot be compared with null"
  | groupOperator name => s!"type group '{name}' supports only $EQ and $NE"
  | notANumber raw field => s!"value '{raw}' is not a valid number for '{field}'"
  | notInList raw field allowed =>
    s!"value '{raw}' is not valid for '{field}' (expected one of: " ++ ", ".intercalate allowed ++ ")"
  | other message => message

end CombinationFault

namespace InternalFault

def message : InternalFault → String
  | store error => error.message
  | cycle item => s!"Cycle detected in parent links at work item {item}"
  | tooDeep item levels => s!"Parent chain of work item {item} exceeds " ++ Text.decimal levels ++ " levels"
  | other message => message

end InternalFault

/-! ## Reports -/

/-- A report to a person: what happened, what usually causes it, and what to do about it. -/
structure Advice where
  summary : String
  causes : List String
  remedies : List String

namespace Advice

/-- A heading with a line for each entry, or nothing without entries. -/
def listing (heading : String) (entries : List String) : String :=
  if entries.isEmpty then ""
  else s!"\n{heading}:\n" ++ String.join (entries.map fun e => s!"  • {e}\n")

def text (a : Advice) : String :=
  s!"Error: {a.summary}\n" ++ listing "Possible causes" a.causes ++ listing "To fix" a.remedies

end Advice

namespace QueryError

def display : QueryError → String
  | illFormed fault => "Invalid filter expression: " ++ fault.message
  | unknownKey key => s!"Unknown filter key '{key}'"
  | invalidCombination fault => "Invalid filter combination: " ++ fault.message
  | internal contexts fault => "Internal error: " ++ ": ".intercalate (contexts ++ [fault.message])

def code : QueryError → String
  | illFormed _ => "syntax_error"
  | unknownKey _ => "unknown_key"
  | invalidCombination _ => "invalid_combination"
  | internal _ _ => "internal_error"

def title : QueryError → String
  | illFormed _ => "Bad filter syntax"
  | unknownKey _ => "Unknown filter key"
  | invalidCombination _ => "Invalid filter combination"
  | internal _ _ => "Internal server error"

def isClientError : QueryError → Bool
  | internal _ _ => false
  | _ => true

def status (e : QueryError) : Nat :=
  if e.isClientError then 400 else 500

def clientDetail (e : QueryError) : String :=
  if e.isClientError then e.display else "An internal error occurred while running the query"

def advice (e : QueryError) : Advice :=
  match e with
  | illFormed _ =>
    ⟨e.display, ["The filter is not a JSON object or is not terminated", "An operator or option is misspelled"],
      ["Use the form \x7b\"$AND\": [\x7b\"space\": \"<id>\"\x7d, \x7b\"state\": \x7b\"$IN\": [\"open\"]\x7d\x7d]\x7d"]⟩
  | unknownKey key =>
    ⟨e.display,
      [s!"'{key}' is not a filterable attribute", "No type group with that name exists in the filtered space"],
      ["Use one of: " ++ ", ".intercalate Filter.Key.names,
        "Set [query] strict_keys = false to treat unknown keys as empty type groups"]⟩
  | invalidCombination _ =>
    ⟨e.display, ["negate cannot be combined with a null value"],
      ["Use \x7b\"key\": \x7b\"$NE\": null\x7d\x7d to match items where the value is set"]⟩
  | internal _ _ =>
    ⟨e.display, ["The work item store failed or holds inconsistent links"],
      ["Check the server log for the full error chain"]⟩

end QueryError
end Backlog
