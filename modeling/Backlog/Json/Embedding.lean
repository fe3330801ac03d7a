import Backlog.Json.Reader
/-!
# Embedding — texts inside a text

A text can hold the text of another value: an object whose first member is named `embeddingName` stands for the value of
the text that this member holds, which has to be a string and the only member.  In any other place the name is like
every name.

An embedded text is read on its own.  It nests as deep as any other, whatever is around it, and can hold texts in turn;
as each is shorter than the one around it, `readEmbedded?` comes to an end after as many levels as the text has
characters.
-/
namespace Backlog
namespace Json

def embeddingName : String := "$serde_json::private::RawValue"

def isEmbedding (ms : List (String × Json)) : Bool :=
  ms.head?.any fun m => m.1 == embeddingName

def embedded? (read : String → Option Json) : List (String × Json) → Option Json
  | [(_, .str s)] => read s
  | _ => none

mutual

/-- A value in which every embedded text, at every depth, is replaced by the value it is the text of. -/
def expand? (read : String → Option Json) : Json → Option Json
  | .arr items => (expandItems? read items).map .arr
  | .obj members =>
    if isEmbedding members then embedded? read members else (expandMembers? read members).map .obj
  | .null => some .null
  | .bool b => some (.bool b)
  | .num n => some (.num n)
  | .str s => some (.str s)

def expandItems? (read : String → Option Json) : List Json → Option (List Json)
  | [] => some []
  | v :: vs => return (← expand? read v) :: (← expandItems? read vs)

def expandMembers? (read : String → Option Json) : List (String × Json) → Option (List (String × Json))
  | [] => some []
  | (n, v) :: ms => return (n, ← expand? read v) :: (← expandMembers? read ms)

end

def readLevels? : (levels : Nat) → String → Option Json
  | 0, _ => none
  | levels + 1, s => (read? s).bind (expand? (readLevels? levels))

/-- **The value of a text**, with the values of the texts it holds. -/
def readEmbedded? (s : String) : Option Json :=
  readLevels? (s.length + 1) s

end Json
end Backlog
