import CaptureTheFlag.Text.Hex
import CaptureTheFlag.Unicode.CharSet

/-!
# Tables of characters

The tables of this folder name sets of characters.  A set is written as its ranges in ascending order,
with blanks between them: a code point in hexadecimal, or the first and the last of a range with a
hyphen between them.

* `Table.find?`: the set with a name.
-/

namespace CaptureTheFlag.Unicode

/-- A number in hexadecimal. -/
def hex? (s : String) : Option Nat :=
  s.toList.foldlM (fun n c => (Text.Hex.value? c).map fun d => 16 * n + d) 0

/-- One range. -/
def range? (s : String) : Option (Nat × Nat) :=
  match s.splitOn "-" with
  | [a] => (hex? a).map fun n => (n, n)
  | [a, b] =>
    match hex? a, hex? b with
    | some m, some n => some (m, n)
    | _, _ => none
  | _ => none

namespace Table

/-- A set with its names, its ranges in one or more lines. -/
abbrev Entry := List String × List String

/-- The set of an entry. -/
def Entry.set (e : Entry) : CharSet :=
  CharSet.ofRanges (e.2.flatMap fun line => (line.splitOn " ").filterMap range?)

/-- The set with a name. -/
def find? (table : List Entry) (name : String) : Option CharSet :=
  (table.find? fun e => name ∈ e.1).map Entry.set

end Table

end CaptureTheFlag.Unicode
