import CaptureTheFlag.Unicode.CharSet

/-!
# Characters as octets

A character is written with up to four octets.  The first shows how many follow, and each of these
has a digit to the base 64.  The characters of a range are written with a few sequences of ranges of
octets: any octets from the ranges of a sequence, one from each, make up a character.

* `CharSet.octetRanges`: the sequences for a set of characters.
-/

namespace CaptureTheFlag.CharSet

/-- The first and the last octet of a range, one for each octet of some characters. -/
abbrev OctetRanges := List (Nat × Nat)

/-- What an octet that follows another one has beside its digit. -/
def followMark : Nat := 0x80

/-- The numbers of a range, written with one digit and `n` more to the base 64; the first digit is
marked with `lead`, and the others with `followMark`. -/
def digitRanges (lead : Nat) : Nat → Nat → Nat → List OctetRanges
  | 0, lo, hi => [[(lead + lo, lead + hi)]]
  | n + 1, lo, hi =>
    let unit := Nat.pow 64 (n + 1)
    let a := lo / unit
    let b := hi / unit
    let whole (a b : Nat) : List OctetRanges :=
      if a ≤ b then
        [(lead + a, lead + b) :: List.replicate (n + 1) (followMark, followMark + 63)]
      else []
    let within (a lo hi : Nat) : List OctetRanges :=
      (digitRanges followMark n lo hi).map ((lead + a, lead + a) :: ·)
    if lo % unit = 0 && hi % unit = unit - 1 then whole a b
    else if a = b then within a (lo % unit) (hi % unit)
    else
      let (front, first) :=
        if lo % unit = 0 then ([], a) else (within a (lo % unit) (unit - 1), a + 1)
      let (back, last) :=
        if hi % unit = unit - 1 then ([], b) else (within b 0 (hi % unit), b - 1)
      front ++ whole first last ++ back

/-- The characters written with as many octets: the first code point, the last, the mark of the first
octet, and how many octets follow it.  The code points that are no characters lie between two such
ranges. -/
def lengthBlocks : List (Nat × Nat × Nat × Nat) := [
  (0, 0x7F, 0, 0), (0x80, 0x7FF, 0xC0, 1), (0x800, 0xD7FF, 0xE0, 2), (0xE000, 0xFFFF, 0xE0, 2),
  (0x10000, 0x10FFFF, 0xF0, 3)]

/-- The sequences for the characters of a range, in ascending order. -/
def octetRangesOf (r : Nat × Nat) : List OctetRanges :=
  lengthBlocks.flatMap fun (first, last, lead, n) =>
    let lo := max r.1 first
    let hi := min r.2 last
    if lo ≤ hi then digitRanges lead n lo hi else []

/-- The sequences for the characters of a set, in ascending order. -/
def octetRanges (s : CharSet) : List OctetRanges := s.ranges.flatMap octetRangesOf

end CaptureTheFlag.CharSet
