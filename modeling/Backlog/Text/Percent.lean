import Backlog.Text.Decimal
import Backlog.Text.Hexadecimal
import Backlog.Text.Parts
import Backlog.Text.Utf8
/-!
# Percent — texts inside a query string

A value in a query string is the sequence of its UTF-8 bytes.  The sixty-six unreserved characters stand for themselves,
every other byte is a percent sign and two hexadecimal digits in upper case.  `formDecode` is what the receiver of a
form does: a plus is a space, a percent sign followed by two hexadecimal digits is that byte, and anything else is
itself; `splitQuery` takes a query string apart at the ampersands and at the first equals sign of each part.
-/
namespace Backlog
namespace Text

/-- The bytes that stand for themselves: ASCII letters and digits, hyphen, underscore, full stop and tilde. -/
def isUnreserved (b : UInt8) : Bool :=
  let c := Char.ofNat b.toNat
  c.isAlphanum || c == '-' || c == '_' || c == '.' || c == '~'

def percentByte (b : UInt8) : List Char :=
  if isUnreserved b then [Char.ofNat b.toNat]
  else ['%', hexUpper (b.toNat / 16), hexUpper (b.toNat % 16)]

def percentEncode (s : String) : String :=
  String.ofList ((s.toList.flatMap String.utf8EncodeChar).flatMap percentByte)

def formBytes : List Char → List UInt8
  | [] => []
  | '+' :: r => 0x20 :: formBytes r
  | '%' :: a :: b :: r =>
    match hexValue? a, hexValue? b with
    | some x, some y => UInt8.ofNat (16 * x + y) :: formBytes r
    | _, _ => 0x25 :: formBytes (a :: b :: r)
  | c :: r => String.utf8EncodeChar c ++ formBytes r

def formDecode (cs : List Char) : String :=
  ofBytes (formBytes cs)

def splitPair (cs : List Char) : List Char × List Char :=
  (cs.takeWhile (· != '='), (cs.dropWhile (· != '=')).drop 1)

/-- The names and values of a query string.  Parts without a character are none. -/
def splitQuery (cs : List Char) : List (String × String) :=
  ((splitAtEvery '&' cs).filter fun part => !part.isEmpty).map fun part =>
    (formDecode (splitPair part).1, formDecode (splitPair part).2)

end Text
end Backlog
