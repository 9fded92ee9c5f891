import CaptureTheFlag.Text.Hex
import CaptureTheFlag.Text.Utf8

/-!
# Escapes in paths and queries

A percent sign and two hexadecimal digits stand for an octet; a percent sign without them stands for
itself.  A path's part must be UTF-8 once its escapes are resolved.  A query is a list of names and
values in which a plus stands for a blank, and what is not UTF-8 is replaced.

* `Percent.octets`: the octets of a text with escapes.
* `Percent.segment?`: a part of a path.
* `Percent.query`: the names and values of a query.
-/

namespace CaptureTheFlag.Http.Percent

/-- The octets of a text with escapes. -/
def octets : List Char → List UInt8
  | [] => []
  | '%' :: h :: l :: r =>
    match Text.Hex.value? h, Text.Hex.value? l with
    | some a, some b => UInt8.ofNat (16 * a + b) :: octets r
    | _, _ => 0x25 :: octets (h :: l :: r)
  | c :: r => String.utf8EncodeChar c ++ octets r

/-- A part of a path, if it is UTF-8. -/
def segment? (s : String) : Option String := Text.decode? (octets s.toList)

/-- A name or a value in a query. -/
def component (cs : List Char) : String :=
  Text.decodeReplacing (octets (cs.map fun c => if c = '+' then ' ' else c))

/-- The parts of a list between the separators. -/
def parts (separator : Char) : List Char → List (List Char)
  | [] => [[]]
  | c :: r =>
    if c = separator then [] :: parts separator r
    else
      match parts separator r with
      | [] => [[c]]
      | p :: ps => (c :: p) :: ps

/-- A name and its value, which is empty without an equals sign. -/
def pair (cs : List Char) : String × String :=
  (component (cs.takeWhile (· ≠ '=')), component ((cs.dropWhile (· ≠ '=')).drop 1))

/-- The names and values of a query, in order. -/
def query (s : String) : List (String × String) :=
  ((parts '&' s.toList).filter (!·.isEmpty)).map pair

end CaptureTheFlag.Http.Percent
