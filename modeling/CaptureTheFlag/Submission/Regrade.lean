import CaptureTheFlag.Problem.Lifecycle

/-!
# Judging again

Every different key that was sent in for a problem is judged once more, in ascending order and
without a user, and the submissions whose verdict changes are set right.  A key whose grader gives no
verdict is left alone, and so is one whose verdicts cannot be set.

* `Regrade.reevaluate`: the teams with a submission whose verdict changed, in ascending order.
-/

namespace CaptureTheFlag.Regrade

/-- The submissions of one key whose verdict is no longer right. -/
def stale (found : List Submission) (key : String) (correct : Bool) : List Submission :=
  found.filter fun s => s.key = key && s.correct ≠ correct

/-- Judges one key and sets its submissions right; the teams of those that changed. -/
def regradeKey (setup : Setup) (pid grader : String) (found : List Submission) (key : String) :
    Program (List String) :=
  match setup.registry.grade grader none key with
  | .error _ => pure []
  | .ok v =>
    match stale found key v.correct with
    | [] => pure []
    | changed => do
      let filter := ((Submission.Filter.forProblem pid).withKey key).withVerdict (!v.correct)
      match ← (Program.call (.setCorrect filter v.correct)).attempt with
      | .ok _ => pure (changed.map (·.tid))
      | .error _ => pure []

/-- Judges some keys one after another; the teams so far, and those of what changed. -/
def regradeKeys (setup : Setup) (pid grader : String) (found : List Submission) :
    List String → TextSet → Program TextSet
  | [], teams => pure teams
  | key :: r, teams => do
    let changed ← regradeKey setup pid grader found key
    regradeKeys setup pid grader found r (teams.addAll changed)

/-- Judges every key sent in for a problem again; the teams whose submissions changed. -/
def reevaluate (setup : Setup) (pid : String) : Program (List String) := do
  let p ← Lifecycle.find pid
  if p.autogen then
    Program.fail .autogenerated
  else do
    let found ← Program.call (.findSubmissions (Submission.Filter.forProblem pid))
    let keys := TextSet.ofList (List.map Submission.key found)
    let teams ← regradeKeys setup pid p.grader found keys.toList .empty
    pure teams.toList

end CaptureTheFlag.Regrade
