import CaptureTheFlag.Regex.Automaton.Tally
import CaptureTheFlag.Unicode.Octets
import Std.Data.HashMap

/-!
# Sets of characters in an automaton

A set becomes states that read the sequences of octets for its characters.  Sequences share states
where they end alike.  Which states there are already is kept in a table with a fixed number of slots,
where a new state takes the place of the one before it in its slot; a state that has lost its slot is
built once more.

* `setStates`: the part of an automaton for a set.
-/

namespace CaptureTheFlag.Regex.Automaton

/-! ## Tables -/

/-- A mix of numbers to the base `2 ^ 64`. -/
def mix (ns : List Nat) : UInt64 :=
  ns.foldl (fun h n => (h ^^^ n.toUInt64) * 1099511628211) 14695981039346656037

/-- States by what they do. -/
structure Table where
  slots : Nat
  entries : Std.HashMap Nat (List Nat × Nat)

namespace Table

def empty (slots : Nat) : Table := ⟨slots, ∅⟩

/-- The slot for a state that does this. -/
def slot (t : Table) (key : List Nat) : Nat := (mix key).toNat % t.slots

/-- The state that does this, if it is still in its slot. -/
def find? (t : Table) (key : List Nat) : Option Nat :=
  (t.entries.get? (t.slot key)).bind fun (k, state) => if k = key then some state else none

def put (t : Table) (key : List Nat) (state : Nat) : Table :=
  { t with entries := t.entries.insert (t.slot key) (key, state) }

end Table

/-- The automaton so far and the table of its states for one set. -/
structure SetTally where
  tally : Tally
  table : Table

/-- The state that does this, with a new one that reads some ranges if there is none. -/
def SetTally.state? (s : SetTally) (key : List Nat) (ranges : Nat) : Option (Nat × SetTally) :=
  match s.table.find? key with
  | some state => some (state, s)
  | none => do
    let tally ← s.tally.ranges? ranges
    let state := s.tally.states
    some (state, ⟨tally, s.table.put key state⟩)

/-! ## Forwards -/

/-- The state that reads some sequences of at most `n` ranges up to the state `last`.  Where it goes on
by a range stands in its key behind the range. -/
def forwardState? (last : Nat) : Nat → List CharSet.OctetRanges → SetTally → Option (Nat × SetTally)
  | 0, _, s => some (last, s)
  | n + 1, sequences, s =>
    if sequences.all List.isEmpty then some (last, s)
    else do
      let groups := sequences.splitBy fun a b => a.head? = b.head?
      let (key, s) ← groups.foldlM (fun (key, s) group => do
        let (next, s) ← forwardState? last n (group.map List.tail) s
        let (lo, hi) := (group.head?.bind List.head?).getD (0, 0)
        some (next :: hi :: lo :: key, s)) ([], s)
      s.state? key.reverse groups.length

/-- The states that read some sequences forwards. -/
def forwardStates (sequences : List CharSet.OctetRanges) : Part := fun t => do
  let last := t.states
  let t ← t.add? 1 0
  let (_, s) ← forwardState? last 4 sequences ⟨t, .empty 10000⟩
  some s.tally

/-! ## Backwards -/

/-- The state that reads a sequence from its last range to its first one, and then is at `last`. -/
def backwardState? (last : Nat) : CharSet.OctetRanges → SetTally → Option (Nat × SetTally)
  | [], s => some (last, s)
  | (lo, hi) :: r, s => do
    let (state, s) ← s.state? [last, lo, hi] 0
    backwardState? state r s

/-- The states that read some sequences backwards. -/
def backwardStates (sequences : List CharSet.OctetRanges) : Part := fun t => do
  let last := t.states + 1
  let t ← t.add? 2 0
  let s ← sequences.foldlM (fun s sequence => do
    let (_, s) ← backwardState? last sequence s
    let t ← s.tally.add? 0 Tally.branchOctets
    some { s with tally := t }) ⟨t, .empty 1000⟩
  some s.tally

/-! ## Sets -/

/-- The part of an automaton for a set.  ASCII characters are octets, so one state reads them all. -/
def setStates (d : Direction) (s : CharSet) : Part :=
  if s.isAscii then fun t => (t.add? 1 0).bind (·.ranges? s.ranges.length)
  else
    let sequences := s.octetRanges
    match d with
    | .forward => forwardStates sequences
    | .backward => backwardStates sequences

end CaptureTheFlag.Regex.Automaton
