/-!
# Utf8 — texts from bytes that need not be one

Bytes that are UTF-8 are the text they encode.  Other bytes are repaired: every longest run of bytes that begins a
character without ending it, and every byte that begins none, becomes one replacement character.  Repairing goes through
the bytes once and remembers the character that has begun, with the range in which its next byte has to lie.
-/
namespace Backlog
namespace Text

def replacement : Char := Char.ofNat 0xFFFD

/-- A character of which some bytes are read: the bits so far, how many bytes are missing, and the range of the next. -/
structure Begun where
  bits : Nat
  missing : Nat
  low : Nat
  high : Nat
deriving DecidableEq, Repr

def beginChar (b : Nat) : List Char × Option Begun :=
  if b < 0x80 then ([Char.ofNat b], none)
  else if 0xC2 ≤ b && b ≤ 0xDF then ([], some ⟨b - 0xC0, 1, 0x80, 0xBF⟩)
  else if b == 0xE0 then ([], some ⟨b - 0xE0, 2, 0xA0, 0xBF⟩)
  else if b == 0xED then ([], some ⟨b - 0xE0, 2, 0x80, 0x9F⟩)
  else if 0xE1 ≤ b && b ≤ 0xEF then ([], some ⟨b - 0xE0, 2, 0x80, 0xBF⟩)
  else if b == 0xF0 then ([], some ⟨b - 0xF0, 3, 0x90, 0xBF⟩)
  else if b == 0xF4 then ([], some ⟨b - 0xF0, 3, 0x80, 0x8F⟩)
  else if 0xF1 ≤ b && b ≤ 0xF3 then ([], some ⟨b - 0xF0, 3, 0x80, 0xBF⟩)
  else ([replacement], none)

def continueChar (begun : Option Begun) (b : Nat) : List Char × Option Begun :=
  match begun with
  | none => beginChar b
  | some g =>
    if g.low ≤ b && b ≤ g.high then
      let bits := g.bits * 64 + (b - 0x80)
      if g.missing = 1 then ([Char.ofNat bits], none) else ([], some ⟨bits, g.missing - 1, 0x80, 0xBF⟩)
    else
      let (cs, next) := beginChar b
      (replacement :: cs, next)

def repairFrom (begun : Option Begun) : List UInt8 → List Char
  | [] => if begun.isSome then [replacement] else []
  | b :: bs =>
    let (cs, next) := continueChar begun b.toNat
    cs ++ repairFrom next bs

/-- The text of bytes, repaired where they are no UTF-8. -/
def ofBytes (bs : List UInt8) : String :=
  (String.fromUTF8? bs.toByteArray).getD (String.ofList (repairFrom none bs))

end Text
end Backlog
