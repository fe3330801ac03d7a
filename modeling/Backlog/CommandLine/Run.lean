import Backlog.CommandLine
import Backlog.Config
import Backlog.Response
import Backlog.Response.Schema
/-!
# Run — what the program answers to its arguments

A run reads the files that the arguments name, does what it is asked, and ends with one document for programs, a text
for the person at the terminal and a code.  The code is 0 after success, 2 when the request is to blame, 1 when the
search failed, and 10 when a file cannot be used; help and arguments that make no sense end a run before it begins.
-/
namespace Backlog

inductive FileContent
  | missing
  | unreadable
  | text (content : String)
deriving DecidableEq, Repr

abbrev Files := String → FileContent

/-- How a run ends: its code, the document, and the text for the terminal. -/
structure Outcome where
  code : Nat
  document : Json
  diagnostics : String

structure Failure where
  error : QueryError
  code : Nat
deriving DecidableEq, Repr

namespace Usage

def code : Usage → Nat
  | help => 0
  | mistake => 2

end Usage

namespace QueryError

def exitCode (e : QueryError) : Nat :=
  if e.isClientError then 2 else 1

end QueryError

namespace Failure

def ofError (e : QueryError) : Failure :=
  ⟨e, e.exitCode⟩

/-- The failure for a file that cannot be used: what could not be done with it, and why. -/
def ofFile (action path reason : String) : Failure :=
  ⟨.internal [s!"{action} {path}"] (.other reason), 10⟩

end Failure

namespace Invocation

/-- The configuration in a file.  A file that does not exist sets nothing. -/
def loadConfig (files : Files) (path : String) : Except Failure Config :=
  match files path with
  | .missing => .ok .none
  | .unreadable => .error (.ofFile "Failed to read" path "the file cannot be read")
  | .text s =>
    match Config.ofText? s with
    | some c => .ok c
    | none => .error (.ofFile "Failed to parse" path "the file is not a configuration")

def loadStore (files : Files) (path : String) : Except Failure Store :=
  match files path with
  | .missing => .error (.ofFile "Failed to read dataset" path "the file does not exist")
  | .unreadable => .error (.ofFile "Failed to read dataset" path "the file cannot be read")
  | .text s =>
    match Dataset.ofText? s with
    | some d => .ok (.ofDataset d)
    | none => .error (.ofFile "Failed to parse dataset" path "the file is not a dataset")

def checkDocument (treeView : Bool) (warnings : List String) : Json :=
  .obj [("valid", .bool true), ("tree_view", .bool treeView), ("warnings", Json.ofTexts warnings)]

def perform (files : Files) (c : Config) : Command → Except Failure Json
  | .query data filter space offset limit => do
    let store ← loadStore files data
    let request : Request := ⟨filter, space, offset, limit⟩
    let result ← ((Engine.ofConfig store c).search request).mapError .ofError
    return result.toJson (request.target c.linkBase)
  | .check filter data space => do
    let document ← (Filter.Document.ofText filter).mapError .ofError
    match data with
    | none => return checkDocument document.treeView []
    | some data =>
      let store ← loadStore files data
      let warnings ← ((Engine.ofConfig store c).check document space).mapError .ofError
      return checkDocument document.treeView warnings
  | .schema => return Schema.searchResponse

def report (quiet : Bool) (freshId : String) (f : Failure) : Outcome :=
  ⟨f.code, f.error.toJson freshId, if quiet then "" else f.error.advice.text ++ "\n"⟩

/-- **How a run ends**; the report of a failure gets the identifier. -/
def run (i : Invocation) (files : Files) (freshId : String) : Outcome :=
  match (do perform files (← loadConfig files i.config) i.command) with
  | .ok document => ⟨0, document, ""⟩
  | .error f => report i.quiet freshId f

def paths (i : Invocation) : List String :=
  i.config :: match i.command with
    | .query data _ _ _ _ => [data]
    | .check _ data _ => data.toList
    | .schema => []

end Invocation
end Backlog
