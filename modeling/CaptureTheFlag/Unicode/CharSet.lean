/-!
# Sets of characters

A set of characters as a list of ranges of code points, in ascending order and with gaps between
them.  Code points that are no characters may lie in a range, but no range starts or ends with one.

* `CharSet.ofRanges`, `CharSet.union`: sets of ranges, joined where they meet.
* `CharSet.complement`, `CharSet.intersect`, `CharSet.difference`: sets from what lies between.
-/

namespace CaptureTheFlag

/-- A set of characters. -/
structure CharSet where
  /-- The first and the last code point of each range. -/
  ranges : List (Nat × Nat)
  deriving DecidableEq, Repr

namespace CharSet

/-- The greatest code point. -/
def maxCode : Nat := 0x10FFFF

/-- The code point lies in one of the ranges. -/
def inRanges (l : List (Nat × Nat)) (n : Nat) : Bool := l.any fun r => r.1 ≤ n && n ≤ r.2

/-- The code point is in the set. -/
def containsCode (s : CharSet) (n : Nat) : Bool := inRanges s.ranges n

/-- The character is in the set. -/
def contains (s : CharSet) (c : Char) : Bool := s.containsCode c.toNat

/-- The ranges with one more, joined to those that it meets. -/
def insertRange : Nat → Nat → List (Nat × Nat) → List (Nat × Nat)
  | lo, hi, [] => [(lo, hi)]
  | lo, hi, (a, b) :: r =>
    if hi + 1 < a then (lo, hi) :: (a, b) :: r
    else if b + 1 < lo then (a, b) :: insertRange lo hi r
    else insertRange (min lo a) (max hi b) r

/-- The set of some ranges in any order; a range that ends before it starts is empty. -/
def ofRanges (l : List (Nat × Nat)) : CharSet :=
  ⟨l.foldr (fun r acc => if r.1 ≤ r.2 then insertRange r.1 r.2 acc else acc) []⟩

def empty : CharSet := ⟨[]⟩

/-- The set of one range. -/
def range (lo hi : Nat) : CharSet := ofRanges [(lo, hi)]

/-- The set of one character. -/
def single (c : Char) : CharSet := ⟨[(c.toNat, c.toNat)]⟩

/-- The set of all characters. -/
def full : CharSet := ⟨[(0, maxCode)]⟩

/-- The characters of either set. -/
def union (s t : CharSet) : CharSet := ofRanges (s.ranges ++ t.ranges)

/-- The characters of any of the sets. -/
def unionAll (l : List CharSet) : CharSet := ofRanges (l.flatMap CharSet.ranges)

/-- The same set, its ranges in ascending order and with gaps between them. -/
def canonical (s : CharSet) : CharSet := ofRanges s.ranges

/-- What lies between the ranges, from a code point on. -/
def gaps : Nat → List (Nat × Nat) → List (Nat × Nat)
  | start, [] => if start ≤ maxCode then [(start, maxCode)] else []
  | start, (a, b) :: r =>
    if start < a then (start, a - 1) :: gaps (b + 1) r else gaps (b + 1) r

/-- The code points from this one to `0xDFFF` are no characters. -/
def firstSurrogate : Nat := 0xD800

/-- The first character behind `firstSurrogate`. -/
def pastSurrogates : Nat := 0xE000

/-- A range with its ends moved to characters: the first forwards, the last backwards.  If no character
lies in the range, it then ends before it starts. -/
def trim (r : Nat × Nat) : Nat × Nat :=
  (if r.1 = firstSurrogate then pastSurrogates else r.1,
    if r.2 + 1 = pastSurrogates then firstSurrogate - 1 else r.2)

/-- A range by its ends in any order. -/
def between (r : Nat × Nat) : Nat × Nat := if r.1 ≤ r.2 then r else (r.2, r.1)

/-- The characters that are not in the set.  Where one range ends right before the surrogates and the
next one starts right behind them, there is none between them; their ends are counted in instead. -/
def complement (s : CharSet) : CharSet := ⟨(gaps 0 s.ranges).map fun r => between (trim r)⟩

/-- The code points of both sets. -/
def intersect (s t : CharSet) : CharSet :=
  ⟨gaps 0 (ofRanges (gaps 0 s.ranges ++ gaps 0 t.ranges)).ranges⟩

/-- The characters of the first set that are not in the second. -/
def difference (s t : CharSet) : CharSet :=
  ⟨((s.intersect ⟨gaps 0 t.ranges⟩).ranges.map trim).filter fun r => r.1 ≤ r.2⟩

/-- The characters of exactly one of the sets. -/
def symmetricDifference (s t : CharSet) : CharSet := (s.union t).difference (s.intersect t)

/-- The set has ASCII characters only. -/
def isAscii (s : CharSet) : Bool := s.ranges.all fun r => r.2 ≤ 0x7F

end CharSet

end CaptureTheFlag
