/-!
# What automata take

An automaton that reads octets is too large if it takes more memory than there is for one.  None is
built here; it is only reckoned, state by state and in the order in which one would be built, what the
automaton takes.  As soon as this is too much, the reckoning ends.

* `Tally`: the states so far and what they take.
* `Tally.limit`: how much an automaton may take.
-/

namespace CaptureTheFlag.Regex.Automaton

/-- Which way an automaton reads a text. -/
inductive Direction where
  | forward
  | backward
  deriving DecidableEq, Repr

/-- The states of an automaton so far, and the octets that they take. -/
structure Tally where
  states : Nat
  octets : Nat
  deriving DecidableEq, Repr

namespace Tally

/-- What a state takes. -/
def stateOctets : Nat := 32

/-- What a state takes besides for each state that it goes on to without reading. -/
def branchOctets : Nat := 4

/-- What a state takes besides for each range of octets, if it reads octets of several ranges. -/
def rangeOctets : Nat := 8

/-- An automaton may take ten mebibytes. -/
def limit : Nat := 10 * Nat.pow 2 20

def start : Tally := ⟨0, 0⟩

/-- Some states more, which take some octets besides, unless that is too much. -/
def add? (t : Tally) (states besides : Nat) : Option Tally :=
  let octets := t.octets + stateOctets * states + besides
  if octets ≤ limit then some ⟨t.states + states, octets⟩ else none

/-- One state more, which goes on to some others without reading. -/
def fork? (t : Tally) (branches : Nat) : Option Tally := t.add? 1 (branchOctets * branches)

/-- One state more, which reads octets of some ranges. -/
def ranges? (t : Tally) (ranges : Nat) : Option Tally := t.add? 1 (rangeOctets * ranges)

end Tally

/-- A part of an automaton, as what it does to the tally. -/
abbrev Part := Tally → Option Tally

/-- Several times the same part. -/
def Part.copies (p : Part) : Nat → Part
  | 0, t => some t
  | n + 1, t => (p t).bind (copies p n)

end CaptureTheFlag.Regex.Automaton
