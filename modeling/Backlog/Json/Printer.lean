import Backlog.Json.Basic
import Backlog.Text.Hexadecimal
/-!
# Printer — from JSON values to text

A value is written either compactly, with no blank outside strings, or over several lines, every level of nesting
indented by two more spaces.  Inside a string only the quotation mark, the backslash and the control characters below
U+0020 are escaped, the latter by a letter where there is one.
-/
namespace Backlog
namespace Json

def escape (c : Char) : List Char :=
  if c == '"' then ['\\', '"']
  else if c == '\\' then ['\\', '\\']
  else if c == '\n' then ['\\', 'n']
  else if c == '\r' then ['\\', 'r']
  else if c == '\t' then ['\\', 't']
  else if c == '\x08' then ['\\', 'b']
  else if c == '\x0c' then ['\\', 'f']
  else if c.toNat < 0x20 then ['\\', 'u', '0', '0', Text.hexLower (c.toNat / 16), Text.hexLower (c.toNat % 16)]
  else [c]

def renderString (s : String) : List Char :=
  '"' :: s.toList.flatMap escape ++ ['"']

/-- How a value is laid out: on one line, or over lines at some level of nesting. -/
inductive Layout
  | compact
  | lines (level : Nat)

namespace Layout

def deeper : Layout → Layout
  | compact => compact
  | lines level => lines (level + 1)

/-- What stands before an item and before a closing bracket. -/
def lead : Layout → List Char
  | compact => []
  | lines level => '\n' :: List.replicate (2 * level) ' '

def colon : Layout → List Char
  | compact => [':']
  | lines _ => [':', ' ']

end Layout

mutual

def render (layout : Layout) : Json → List Char
  | .null => "null".toList
  | .bool true => "true".toList
  | .bool false => "false".toList
  | .num n => n.text
  | .str s => renderString s
  | .arr [] => ['[', ']']
  | .arr (v :: vs) => '[' :: (renderItems layout.deeper (v :: vs) ++ (layout.lead ++ [']']))
  | .obj [] => ['\x7b', '\x7d']
  | .obj (m :: ms) => '\x7b' :: (renderMembers layout.deeper (m :: ms) ++ (layout.lead ++ ['\x7d']))

def renderItems (layout : Layout) : List Json → List Char
  | [] => []
  | [v] => layout.lead ++ render layout v
  | v :: vs => layout.lead ++ render layout v ++ ',' :: renderItems layout vs

def renderMembers (layout : Layout) : List (String × Json) → List Char
  | [] => []
  | [(n, v)] => layout.lead ++ renderString n ++ layout.colon ++ render layout v
  | (n, v) :: ms =>
    layout.lead ++ renderString n ++ layout.colon ++ render layout v ++ ',' :: renderMembers layout ms

end

def compact (v : Json) : String :=
  String.ofList (v.render .compact)

def pretty (v : Json) : String :=
  String.ofList (v.render (.lines 0))

end Json
end Backlog
