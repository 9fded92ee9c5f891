import CaptureTheFlag.Store.Program

/-!
# A team's progress

What a team has solved and what it may see, worked out from the store on every call.  A category
narrows what is listed; which problems are open depends on all that the team has solved.

* `Progress.solvedPids`: the problems of the team's correct submissions.
* `Progress.unlocked`: the enabled problems that the team may see, and what it has solved.
* `Progress.solvedProblems`: the solved problems themselves, disabled ones included.
-/

namespace CaptureTheFlag

/-- A problem that a team may see, and whether the team has solved it. -/
structure UnlockedProblem where
  problem : Problem
  solved : Bool
  deriving DecidableEq

/-- The problem as a JSON value, with one field more. -/
def UnlockedProblem.toJson (u : UnlockedProblem) : Json :=
  .ofDocument
    ((u.problem.toDocument.insert "pid" (.string u.problem.pid)).insert "solved" (.bool u.solved))

namespace Progress

/-- The problems that the team has a correct submission for; those of one category if given. -/
def solvedPids (tid : String) (category : Option String) : Program TextSet := do
  let found ← Program.call (.findSubmissions
    (((Submission.Filter.forTeam tid).inCategory category).withVerdict true))
  pure (TextSet.ofList (found.map (·.pid)))

/-- The problems with these identifiers, in order. -/
def resolve : List String → Program (List Problem)
  | [] => pure []
  | pid :: r => do
    match ← Program.call (.findProblem pid) with
    | none => Program.fail (.solvedProblemMissing pid)
    | some p => do
      let ps ← resolve r
      pure (p :: ps)

/-- The problems that the team has solved, in ascending order of their identifiers. -/
def solvedProblems (tid : String) (category : Option String) : Program (List Problem) := do
  let pids ← solvedPids tid category
  resolve pids.toList

/-- The enabled problems that the team may see, by score and name, and what it has solved. -/
def unlocked (tid : String) (category : Option String) : Program (List Problem × TextSet) := do
  let solved ← solvedPids tid none
  let candidates ← Program.call (.listProblems ⟨category, some false⟩)
  pure (candidates.filter (·.isUnlockedBy solved), solved)

/-- The identifiers of the problems that the team may see. -/
def unlockedPids (tid : String) (category : Option String) : Program (List String) := do
  let (problems, _) ← unlocked tid category
  pure (problems.map (·.pid))

/-- The problems that the team may see, each with whether it is solved. -/
def unlockedProblems (tid : String) (category : Option String) :
    Program (List UnlockedProblem) := do
  let (problems, solved) ← unlocked tid category
  pure (problems.map fun p => ⟨p, solved.contains p.pid⟩)

end Progress

end CaptureTheFlag
