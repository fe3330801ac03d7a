import Backlog.Text.Decimal
/-!
# CommandLine — what the arguments of the program ask for

The arguments name one command.  Options may stand before the command, which are for every command, and after it, where
those of the command may stand as well.  An option with a value has it in the next argument or after an equals sign; in
the next argument it must not start with a hyphen, unless it is one.  An option is given once before the command and
once after it at most, and the value given later counts.

Arguments are taken from left to right, and the first that makes no sense, or asks for help, decides.  Only a value that
stands right before the command is judged after the arguments of the command.
-/
namespace Backlog

inductive Command
  | query (data filter : String) (space : Option String) (offset limit : Option Nat)
  | check (filter : String) (data space : Option String)
  | schema
deriving DecidableEq, Repr

/-- A command with what goes for every command: whether nothing is told to the terminal, and the file of the
configuration. -/
structure Invocation where
  quiet : Bool
  config : String
  command : Command
deriving DecidableEq, Repr

/-- Why there is nothing to do: help is asked for, or the arguments make no sense. -/
inductive Usage
  | help
  | mistake
deriving DecidableEq, Repr

namespace CommandLine

/-! ## Arguments -/

inductive Argument
  | divider
  | long (name : String) (value : Option String)
  | short (letters : List Char)
  | plain
deriving DecidableEq, Repr

def Argument.of (s : String) : Argument :=
  match s.toList with
  | ['-', '-'] => .divider
  | '-' :: '-' :: r =>
    let name := String.ofList (r.takeWhile (· != '='))
    match r.dropWhile (· != '=') with
    | _ :: value => .long name (some (String.ofList value))
    | [] => .long name none
  | ['-'] => .plain
  | '-' :: r => .short r
  | _ => .plain

/-- What the value of an option has to be. -/
inductive ValueKind
  | text
  | path
  | number
deriving DecidableEq, Repr

def ValueKind.accepts : ValueKind → String → Bool
  | text, _ => true
  | path, s => s != ""
  | number, s => (Text.readWord? s.toList).isSome

abbrev Options := List (String × ValueKind)

/-- The options that were given: whether to be quiet, the values by the names of their options, and whether the value
right before the command makes no sense. -/
structure Given where
  quiet : Bool
  values : List (String × String)
  wrong : Bool

namespace Given

def nothing : Given := ⟨false, [], false⟩

def set (g : Given) (kind : ValueKind) (name value : String) : Except Usage Given :=
  if (g.values.lookup name).isSome || !kind.accepts value then .error .mistake
  else .ok { g with values := (name, value) :: g.values }

def setQuiet (g : Given) : Except Usage Given :=
  if g.quiet then .error .mistake else .ok { g with quiet := true }

def setLetters (g : Given) : List Char → Except Usage Given
  | [] => .ok g
  | 'q' :: r => do (← g.setQuiet).setLetters r
  | 'h' :: _ => .error .help
  | _ => .error .mistake

def value? (g : Given) (name : String) : Option String :=
  g.values.lookup name

def number? (g : Given) (name : String) : Option Nat :=
  (g.value? name).bind fun s => Text.readWord? s.toList

def needed (g : Given) (name : String) : Except Usage String :=
  match g.value? name with
  | some s => .ok s
  | none => .error .mistake

end Given

/-- The options up to the first argument that is none, and the arguments from that one on. -/
def takeOptions (options : Options) (g : Given) : List String → Except Usage (Given × List String)
  | [] => .ok (g, [])
  | arg :: rest =>
    match Argument.of arg with
    | .plain => .ok (g, arg :: rest)
    | .divider => if rest.isEmpty then .ok (g, []) else .error .mistake
    | .short letters => do takeOptions options (← g.setLetters letters) rest
    | .long "quiet" none => do takeOptions options (← g.setQuiet) rest
    | .long "help" none => .error .help
    | .long name (some v) =>
      match options.lookup name with
      | some kind => do takeOptions options (← g.set kind name v) rest
      | none => .error .mistake
    | .long name none =>
      match rest with
      | [] => .error .mistake
      | v :: rest =>
        match options.lookup name, Argument.of v with
        | some kind, .plain =>
          match g.set kind name v with
          | .ok g => takeOptions options g rest
          | .error usage =>
            if rest.head?.any fun next => Argument.of next = .plain then .ok ({ g with wrong := true }, rest)
            else .error usage
        | _, _ => .error .mistake

/-! ## Commands -/

def commonOptions : Options :=
  [("config", .path)]

def commands : List (String × Options) :=
  [("query", [("data", .path), ("filter", .text), ("space", .text), ("offset", .number), ("limit", .number)]),
    ("check", [("filter", .text), ("data", .path), ("space", .text)]),
    ("schema", [])]

def command (name : String) (g : Given) : Except Usage Command :=
  match name with
  | "query" =>
    return .query (← g.needed "data") (← g.needed "filter") (g.value? "space") (g.number? "offset") (g.number? "limit")
  | "check" => return .check (← g.needed "filter") (g.value? "data") (g.value? "space")
  | "schema" => return .schema
  | _ => throw .mistake

def help : List String → Usage
  | [] => .help
  | [name] => if name = "help" || (commands.lookup name).isSome then .help else .mistake
  | _ => .mistake

def defaultConfig : String := "witrack.toml"

/-- **What the arguments ask for.** -/
def read (args : List String) : Except Usage Invocation := do
  let (common, rest) ← takeOptions commonOptions .nothing args
  match rest with
  | [] => throw .mistake
  | "help" :: names => throw (help names)
  | name :: rest =>
    match commands.lookup name with
    | none => throw .mistake
    | some options =>
      let (own, rest) ← takeOptions (commonOptions ++ options) .nothing rest
      if !rest.isEmpty || common.wrong then throw .mistake
      return ⟨common.quiet || own.quiet, ((own.value? "config") <|> common.value? "config").getD defaultConfig,
        ← command name own⟩

end CommandLine
end Backlog
