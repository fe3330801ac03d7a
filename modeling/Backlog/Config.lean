import Backlog.Json.Record
import Backlog.Toml.Reader
/-!
# Config — what can be set, and what holds where nothing is set

A configuration sets some of eight things; whatever it leaves open has a default.  Two settings depend on each other:
the largest page size is at least one, and the page size that is used when none is asked for lies between one and the
largest. `Config` is what was set, `Settings` what holds for queries.

A configuration is written in TOML, with a table for each of its three sections.  Names without a meaning are passed
over.
-/
namespace Backlog

structure Config where
  defaultLimit : Option Nat
  maxLimit : Option Nat
  strictKeys : Option Bool
  maxTreeDepth : Option Nat
  states : Option (List String)
  bind : Option String
  data : Option String
  baseUrl : Option String
deriving DecidableEq, Repr

/-- What holds for queries: the size of pages, whether names without a meaning are refused, and how many levels the
hierarchy may have above an item. -/
structure Settings where
  defaultLimit : Nat
  maxLimit : Nat
  strictKeys : Bool
  maxTreeDepth : Nat
deriving DecidableEq, Repr

def clamp (lo hi n : Nat) : Nat :=
  if n < lo then lo else if hi < n then hi else n

namespace Config

def none : Config :=
  ⟨.none, .none, .none, .none, .none, .none, .none, .none⟩

def settings (c : Config) : Settings :=
  let maxLimit := max (c.maxLimit.getD 100) 1
  ⟨clamp 1 maxLimit (c.defaultLimit.getD 20), maxLimit, c.strictKeys.getD false, c.maxTreeDepth.getD 64⟩

def allStates (c : Config) : List String :=
  c.states.getD ["new", "open", "in progress", "resolved", "closed"]

def bindAddress (c : Config) : String :=
  c.bind.getD "0.0.0.0:3000"

def dataFile (c : Config) : String :=
  c.data.getD "witrack-data.json"

def linkBase (c : Config) : String :=
  c.baseUrl.getD "/api"

/-! ## Reading -/

open Json (optional word? bool? texts? text?)

abbrev RecordReader := List String → Json → Option (List (Option Json))

def section? (fields : RecordReader) (names : List String) (v : Option Json) : Option (List (Option Json)) :=
  (optional (fields names) v).map fun read => read.getD (names.map fun _ => .none)

/-- The configuration that a value stands for.  Its three sections and their fields are all optional. -/
def ofJson? (fields : RecordReader) (v : Json) : Option Config := do
  match ← fields ["query", "fields", "server"] v with
  | [query, vocabulary, server] =>
    match ← section? fields ["default_limit", "max_limit", "strict_keys", "max_tree_depth"] query,
      ← section? fields ["states"] vocabulary, ← section? fields ["bind", "data", "base_url"] server with
    | [defaultLimit, maxLimit, strictKeys, maxTreeDepth], [states], [bind, data, baseUrl] =>
      return ⟨← optional word? defaultLimit, ← optional word? maxLimit, ← optional bool? strictKeys,
        ← optional word? maxTreeDepth, ← optional texts? states, ← optional text? bind, ← optional text? data,
        ← optional text? baseUrl⟩
    | _, _, _ => .none
  | _ => .none

def ofText? (s : String) : Option Config :=
  (Toml.read? s).bind (ofJson? Json.openRecord?)

end Config
end Backlog
