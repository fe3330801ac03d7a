import Backlog.CommandLine.Run
import Backlog.Uuid
/-!
# Main — the program

All that a run decides is decided by `Invocation.run`.  Here the files are read, the identifier of a report is drawn,
and the document and the diagnostics are printed.
-/
namespace Backlog

def readContent (path : String) : IO FileContent := do
  try
    return .text (← IO.FS.readFile path)
  catch
    | .noFileOrDirectory _ _ _ => return .missing
    | _ => return .unreadable

def freshUuid : IO String := do
  let bytes ← IO.getRandomBytes 16
  return Uuid.ofRandom (bytes.toList.foldl (fun n b => 256 * n + b.toNat) 0)

def usageText : String :=
  "Usage: witrack [--quiet] [--config FILE] COMMAND\n\n" ++
  "Commands:\n" ++
  "  query --data FILE --filter FILTER [--space ID] [--offset N] [--limit N]\n" ++
  "  check --filter FILTER [--data FILE] [--space ID]\n" ++
  "  schema\n"

end Backlog

open Backlog

def main (args : List String) : IO UInt32 := do
  match CommandLine.read args with
  | .error usage =>
    match usage with
    | .help => IO.print usageText
    | .mistake => IO.eprint usageText
    return usage.code.toUInt32
  | .ok invocation =>
    let contents ← invocation.paths.mapM fun path => return (path, ← readContent path)
    let outcome := invocation.run (fun path => (contents.lookup path).getD .missing) (← freshUuid)
    IO.println outcome.document.pretty
    IO.eprint outcome.diagnostics
    return outcome.code.toUInt32
