import CaptureTheFlag.Store.Program

/-!
# Faulty stores

A store that goes wrong in chosen ways: some calls fail, some miss what is there.  The faults are an
interference; the store itself stays as it is.
-/

namespace CaptureTheFlag

/-- The ways in which a store goes wrong. -/
structure Faults where
  /-- The failures of inserting, replacing and listing problems. -/
  problemInsert : Option Failure.Kind := none
  problemReplace : Option Failure.Kind := none
  problemList : Option Failure.Kind := none
  /-- The failures of inserting and finding submissions. -/
  submissionInsert : Option Failure.Kind := none
  submissionFind : Option Failure.Kind := none
  /-- The failure of looking up a user. -/
  userLookup : Option Failure.Kind := none
  /-- Deleting a problem finds nothing to delete. -/
  deleteMisses : Bool := false
  /-- Problems that are not found by their identifiers. -/
  hiddenPids : List String := []
  /-- No problem is found by its name. -/
  blindNames : Bool := false
  /-- No submission is found. -/
  blindFind : Bool := false
  /-- Verdicts on these keys cannot be set. -/
  stuckKeys : List String := []
  deriving DecidableEq, Repr

namespace Faults

/-- The failure of a call, when it is one of a kind. -/
def fail {α : Type} (k : Option Failure.Kind) : Option (Except Failure α) :=
  k.map fun k => .error (.reported k "injected")

/-- The answers that the faults give in the store's place. -/
def interference (f : Faults) : Program.Interference
  | .insertProblem _ => fail f.problemInsert
  | .findProblem pid => if pid ∈ f.hiddenPids then some (.ok none) else none
  | .findProblemNamed _ => if f.blindNames then some (.ok none) else none
  | .replaceProblem _ => fail f.problemReplace
  | .deleteProblem _ => if f.deleteMisses then some (.ok false) else none
  | .listProblems _ => fail f.problemList
  | .insertSubmission _ => fail f.submissionInsert
  | .findSubmissions _ =>
    match fail f.submissionFind with
    | some r => some r
    | none => if f.blindFind then some (.ok []) else none
  | .setCorrect filter _ =>
    if filter.key.any (· ∈ f.stuckKeys) then fail (some .database) else none
  | .deleteSubmissions _ => none
  | .findUser _ => fail f.userLookup

end Faults

end CaptureTheFlag
