import Backlog.Text.Hexadecimal
/-!
# Uuid — the written shapes of a UUID and its one stored form

A person may write a UUID as 32 hexadecimal digits, with hyphens after the 8th, 12th, 16th and 20th, in braces, or after
`urn:uuid:`, in upper or lower case.  All of these denote the same 32 digits (`digits?`), and the stored form of a UUID
is those digits in lower case with the hyphens (`render`).
-/
namespace Backlog
namespace Uuid

def plain? (cs : List Char) : Option (List Char) :=
  if cs.length = 32 && cs.all (fun c => (Text.hexValue? c).isSome) then some (cs.map Char.toLower) else none

def hyphenated? (cs : List Char) : Option (List Char) :=
  if cs.length = 36 && [8, 13, 18, 23].all (fun i => cs[i]? == some '-') then
    plain? (cs.take 8 ++ (cs.drop 9).take 4 ++ (cs.drop 14).take 4 ++ (cs.drop 19).take 4 ++ cs.drop 24)
  else none

/-- What stands before the hyphenated shape in a name, compared without regard to case. -/
def urnHead : List Char :=
  ['u', 'r', 'n', ':', 'u', 'u', 'i', 'd', ':']

def digits? (cs : List Char) : Option (List Char) :=
  if cs.length = 32 then plain? cs
  else if cs.length = 36 then hyphenated? cs
  else if cs.length = 38 && cs.head? == some '\x7b' && cs.getLast? == some '\x7d' then hyphenated? (cs.drop 1).dropLast
  else if cs.length = 45 && (cs.take 9).map Char.toLower == urnHead then hyphenated? (cs.drop 9)
  else none

def render (ds : List Char) : List Char :=
  ds.take 8 ++ '-' :: ((ds.drop 8).take 4 ++ '-' :: ((ds.drop 12).take 4 ++ '-' :: ((ds.drop 16).take 4 ++
    '-' :: ds.drop 20)))

def ofRandom (n : Nat) : String :=
  let ds := (List.range 32).map fun i => Text.hexLower (n >>> (4 * i) % 16)
  let variant := Text.hexLower (8 + n >>> 64 % 4)
  String.ofList (render (ds.take 12 ++ '4' :: ((ds.drop 13).take 3 ++ variant :: ds.drop 17)))

end Uuid
end Backlog
