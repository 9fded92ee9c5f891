import CaptureTheFlag.Regex.Automaton.WordTree

/-!
# Choices and repetitions in an automaton

The parts for a choice between other parts, and for a part taken again and again.

* `choicePart`, `repeatedPart`: parts made of others.
-/

namespace CaptureTheFlag.Regex.Automaton

/-! ## Choices -/

/-- A branch of a choice: its octets if it is a word, and its part. -/
structure Branch where
  word? : Option (List Nat)
  part : Part

/-- Branches other than the first two, each with its name in the state where the choice is made. -/
def furtherBranches : List Branch → Part
  | [], t => some t
  | b :: r, t => do
    let t ← b.part t
    let t ← t.add? 0 Tally.branchOctets
    furtherBranches r t

/-- The part of a choice.  The state where it is made and the one where its branches meet come behind
the first two branches. -/
def choicePart (d : Direction) : List Branch → Part
  | [] => some
  | [b] => b.part
  | a :: b :: r =>
    match (a :: b :: r).mapM Branch.word? with
    | some words => wordTree d words
    | none => fun t => do
      let t ← a.part t
      let t ← b.part t
      let t ← t.fork? 2
      let t ← t.add? 1 0
      furtherBranches r t

/-! ## Repetitions -/

/-- A part a number of times; a single state if that is none. -/
def exactCopies (p : Part) : Nat → Part
  | 0 => fun t => t.add? 1 0
  | n => p.copies n

/-- A part that may be left out, again and again; what follows all of them is one state. -/
def optionalCopies (p : Part) (n : Nat) : Part := fun t => do
  let t ← t.add? 1 0
  Part.copies (fun t => (t.fork? 2).bind p) n t

/-- The part of a repetition.  A repetition without an end takes two states to choose from, if what is
repeated may be empty. -/
def repeatedPart (p : Part) (advances : Bool) : Nat → Option Nat → Part
  | 0, some 1 => fun t => do
    let t ← t.fork? 2
    let t ← p t
    t.add? 1 0
  | 0, none =>
    if advances then fun t => do
      let t ← t.fork? 2
      p t
    else fun t => do
      let t ← p t
      let t ← t.fork? 2
      let t ← t.fork? 2
      t.add? 1 0
  | min, none => fun t => do
    let t ← p.copies min t
    t.fork? 2
  | min, some max =>
    if min = max then exactCopies p min
    else fun t => do
      let t ← exactCopies p min t
      optionalCopies p (max - min) t

end CaptureTheFlag.Regex.Automaton
