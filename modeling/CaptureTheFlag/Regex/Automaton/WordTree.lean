import CaptureTheFlag.Regex.Automaton.Tally

/-!
# Trees of words

A choice between words becomes a tree, in which words share the octets that they start with.  Words
keep their order as far as it matters: where a word ends within others, those before it and those
behind it are kept apart.

* `wordTree`: the part of an automaton for a choice between words.
-/

namespace CaptureTheFlag.Regex.Automaton

/-- Some states with what they take besides. -/
structure Cost where
  states : Nat
  besides : Nat
  deriving DecidableEq, Repr

instance : Add Cost := ⟨fun a b => ⟨a.states + b.states, a.besides + b.besides⟩⟩

/-- The cost of all of some things. -/
def Cost.total (costs : List Cost) : Cost := costs.foldr (· + ·) ⟨0, 0⟩

/-- The words in stretches, of which those that have ended are apart from the others. -/
def stretches (words : List (List Nat)) : List (List (List Nat)) :=
  words.splitBy fun v w => !v.isEmpty && !w.isEmpty

/-- How many ends of words count where the words go on as these: those before all others count
once. -/
def endCount (words : List (List Nat)) : Nat :=
  let leading := (words.takeWhile List.isEmpty).length
  Nat.min leading 1 + ((words.drop leading).filter List.isEmpty).length

/-- The cost of the states at the place where some words go on as these.  A word has at most `n`
octets more. -/
def branchingCost : Nat → List (List Nat) → Cost
  | 0, _ => ⟨0, 0⟩
  | n + 1, words =>
    if words.all List.isEmpty then ⟨0, 0⟩
    else
      let going := (stretches words).filter fun ws => !ws.all List.isEmpty
      let links := going.length + endCount words
      ⟨1, Tally.branchOctets * links⟩ + Cost.total (going.map fun ws =>
        let heads := (ws.filterMap List.head?).eraseDups
        let ranges := if heads.length = 1 then 0 else heads.length
        ⟨1, Tally.rangeOctets * ranges⟩ + Cost.total (heads.map fun b =>
          branchingCost n ((ws.filter (·.head? = some b)).map List.tail)))

/-- The part of an automaton for a choice between words. -/
def wordTree (d : Direction) (words : List (List Nat)) : Part := fun t =>
  let words := if d = .backward then words.map List.reverse else words
  let cost := branchingCost ((words.map List.length).foldl max 0) words
  t.add? (cost.states + 1) cost.besides

end CaptureTheFlag.Regex.Automaton
