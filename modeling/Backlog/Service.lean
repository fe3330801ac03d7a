import Backlog.Response
import Backlog.Response.Schema
import Backlog.Text.Blank
/-!
# Service — searches over HTTP

A service answers requests for three paths under its base: whether it is up, a search, and the schema of the answers to
searches.  A path is matched part by part and as it is, with nothing decoded; where a part of the base has a colon, what
follows the colon is a name and stands for anything.  Nothing is served under a base that is no pattern: one with a star,
or with a part that has a colon without a name after it or a second colon.  All three paths are only to be read; a
request for the options of any path is answered without looking at the path, and one for the head alone like one for the
whole, less the body.

The parameters of a search are taken as text, so that a bad number is reported like any other fault of a request.  What
is given twice is refused without a report.
-/
namespace Backlog

inductive Method
  | get
  | head
  | options
  | other
deriving DecidableEq, Repr

/-- A request: what to do with which path, and the parameters in the order in which they were given. -/
structure HttpRequest where
  method : Method
  path : String
  parameters : List (String × String)
deriving DecidableEq, Repr

namespace HttpRequest

/-- A target without the scheme and the host it may start with. -/
def localPart (target : List Char) : List Char :=
  match target.dropWhile (· != ':') with
  | ':' :: '/' :: '/' :: r =>
    if target.head? == some '/' then target
    else match r.dropWhile fun c => c != '/' && c != '?' && c != '#' with
      | '/' :: path => '/' :: path
      | rest => '/' :: rest
  | _ => target

/-- The request for a target, which is a path that a query may follow, after a question mark; a number sign ends both.
Other parameters come after those of the query. -/
def ofTarget (method : Method) (target : String) (parameters : List (String × String)) : HttpRequest :=
  let target := (localPart target.toList).takeWhile (· != '#')
  ⟨method, String.ofList (target.takeWhile (· != '?')),
    Text.splitQuery ((target.dropWhile (· != '?')).drop 1) ++ parameters⟩

end HttpRequest

/-- An answer: its status, and a body if it has one. -/
structure HttpAnswer where
  status : Nat
  body : Option Json

/-! ## The parameters of a search -/

/-- The parameters of a search as they were given. -/
structure SearchParameters where
  expression : Option String
  space : Option String
  offset : Option String
  limit : Option String
deriving DecidableEq, Repr

namespace SearchParameters

/-- The value of a parameter that is given at most once. -/
def value? (ps : List (String × String)) (name : String) : Option (Option String) :=
  match ps.filter (·.1 == name) with
  | [] => some none
  | [(_, v)] => some (some v)
  | _ => none

/-- The parameters of a search among all that were given; none of them may be given twice. -/
def ofPairs? (ps : List (String × String)) : Option SearchParameters :=
  return ⟨← value? ps "filter[expression]", ← value? ps "spaceID", ← value? ps "page[offset]",
    ← value? ps "page[limit]"⟩

def number (name : String) : Option String → Except QueryError (Option Nat)
  | none => .ok none
  | some s =>
    match Text.readWord? (Text.trim s.toList) with
    | some n => .ok (some n)
    | none => .error (.illFormed (.badPageNumber name s))

def wantedExpression (p : SearchParameters) : Except QueryError String :=
  match p.expression with
  | some s => if Text.isAllBlank s then .error (.illFormed .missingExpression) else .ok s
  | none => .error (.illFormed .missingExpression)

/-- The request that the parameters make.  An empty space is the same as none. -/
def toRequest (p : SearchParameters) : Except QueryError Request :=
  return ⟨← p.wantedExpression, p.space.filter (· != ""), ← number "page[offset]" p.offset,
    ← number "page[limit]" p.limit⟩

end SearchParameters

/-! ## The service -/

inductive Resource
  | health
  | search
  | schema
deriving DecidableEq, Repr

namespace Resource

def path : Resource → String
  | health => "/health"
  | search => "/search"
  | schema => "/schema/search"

end Resource

/-- An engine that is served under a base path, which starts with a slash and does not end with one unless it is one. -/
structure Service where
  engine : Engine
  base : String

namespace Service

def normalBase (base : String) : String :=
  String.ofList ('/' :: ((base.toList.dropWhile (· == '/')).reverse.dropWhile (· == '/')).reverse)

def mount (e : Engine) (base : String) : Service :=
  ⟨e, normalBase base⟩

def pathOf (s : Service) (r : Resource) : String :=
  if s.base = "/" then r.path else s.base ++ r.path

/-- Whether a part of a path is one that a part of a pattern stands for: the same, up to a colon if it has one. -/
def fitsPart (pattern part : List Char) : Bool :=
  if pattern.contains ':' then (pattern.takeWhile (· != ':')).isPrefixOf part else pattern == part

def fitsParts : List (List Char) → List (List Char) → Bool
  | [], [] => true
  | pattern :: patterns, part :: parts => fitsPart pattern part && fitsParts patterns parts
  | _, _ => false

def fits (pattern path : String) : Bool :=
  fitsParts (Text.splitAtEvery '/' pattern.toList) (Text.splitAtEvery '/' path.toList)

def isPatternPart (part : List Char) : Bool :=
  !part.contains '*' &&
    match part.dropWhile (· != ':') with
    | [] => true
    | _ :: name => !name.isEmpty && !name.contains ':'

def isServed (s : Service) : Bool :=
  (Text.splitAtEvery '/' s.base.toList).all isPatternPart

def resource? (s : Service) (path : String) : Option Resource :=
  if s.isServed then [.health, .search, .schema].find? fun r => fits (s.pathOf r) path else none

def health : Json :=
  .obj [("status", .str "ok"), ("service", .str "witrack-api"), ("version", .str "0.1.0")]

def search (s : Service) (freshId : String) (ps : List (String × String)) : HttpAnswer :=
  match SearchParameters.ofPairs? ps with
  | none => ⟨400, none⟩
  | some p =>
    match (do let r ← p.toRequest; return (r, ← s.engine.search r)) with
    | .ok (r, result) => ⟨200, some (result.toJson (r.target s.base))⟩
    | .error e => ⟨e.status, some (e.toJson freshId)⟩

def read (s : Service) (freshId : String) (ps : List (String × String)) : Resource → HttpAnswer
  | .health => ⟨200, some health⟩
  | .search => s.search freshId ps
  | .schema => ⟨200, some Schema.searchResponse⟩

/-- **The answer to a request**; a report of an error gets the identifier. -/
def answer (s : Service) (freshId : String) (r : HttpRequest) : HttpAnswer :=
  match r.method, s.resource? r.path with
  | .options, _ => ⟨200, none⟩
  | _, none => ⟨404, none⟩
  | .get, some x => s.read freshId r.parameters x
  | .head, some x => ⟨(s.read freshId r.parameters x).status, none⟩
  | .other, some _ => ⟨405, none⟩

end Service
end Backlog
