import CaptureTheFlag.Regex.Automaton.Part
import CaptureTheFlag.Regex.Automaton.SetStates
import CaptureTheFlag.Regex.Term

/-!
# The size of terms

A term is too large if an automaton for it takes too much, whether it reads texts forwards or
backwards.  A repetition counts as often as it can be taken.

* `Term.fits`: a term is not too large.
-/

namespace CaptureTheFlag.Regex.Term

open Automaton

/-- The octets of characters, each behind the one before. -/
def wordOctets (cs : List Char) : List Nat :=
  cs.flatMap fun c => (String.utf8EncodeChar c).map UInt8.toNat

/-- The branches of a term for an automaton. -/
def automatonBranches (d : Direction) : Term → List Branch
  | .empty | .look _ => [⟨none, fun t => t.add? 1 0⟩]
  | .word cs =>
    let octets := wordOctets cs
    [⟨some octets, fun t => t.add? octets.length 0⟩]
  | .set _ s => [⟨none, setStates d s⟩]
  | .repeated t min max _ =>
    let advances := t.minLength?.any (0 < ·)
    [⟨none, repeatedPart (choicePart d (t.automatonBranches d)) advances min max⟩]
  | .group t =>
    let inner := choicePart d (t.automatonBranches d)
    match d with
    | .backward => [⟨none, inner⟩]
    | .forward => [⟨none, fun t => do
        let t ← t.add? 1 0
        let t ← inner t
        t.add? 1 0⟩]
  | .cat a b =>
    let first := choicePart d (a.automatonBranches d)
    let second := choicePart d (b.automatonBranches d)
    match d with
    | .forward => [⟨none, fun t => (first t).bind second⟩]
    | .backward => [⟨none, fun t => (second t).bind first⟩]
  | .alt a b => a.automatonBranches d ++ b.automatonBranches d

/-- The part of a term. -/
def part (d : Direction) (t : Term) : Automaton.Part := choicePart d (t.automatonBranches d)

/-- What an automaton has before a term that matches anywhere in a text: it reads any octets first. -/
def skippingPart : Automaton.Part := fun t => do
  let t ← t.fork? 2
  let t ← t.add? 1 0
  t.ranges? 1

/-- The automaton for a whole term, with what comes before it and the state at its end. -/
def automaton (d : Direction) (t : Term) : Automaton.Part :=
  let anchored := match d with
    | .forward => t.startsText
    | .backward => t.endsText
  let opening : Automaton.Part := if anchored then fun s => s.add? 1 0 else skippingPart
  fun s => do
    let s ← opening s
    let s ← (Term.group t).part d s
    s.add? 1 0

/-- A term is not too large. -/
def fits (t : Term) : Bool :=
  (t.automaton .forward .start).isSome && (t.automaton .backward .start).isSome

end CaptureTheFlag.Regex.Term
