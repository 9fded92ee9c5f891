import CaptureTheFlag.Problem.Basic
import CaptureTheFlag.Submission.Filter
import CaptureTheFlag.Team.User

/-!
# The store

What is stored: the problems by their identifiers, the submissions in the order in which they came
in, and the users by theirs.  Names of problems are unique, and so is a team's key for a problem;
what would break this is refused and changes nothing.

* `Store.insertProblem`, `Store.replaceProblem`, `Store.deleteProblem`: changes of problems.
* `Store.problemsWhere`: the problems of a filter, by score and then by name.
* `Store.insertSubmission`, `Store.setCorrect`, `Store.deleteSubmissions`: changes of submissions.
* `Store.submissionsWhere`: the submissions of a filter, by time; those of one time as they came in.
-/

namespace CaptureTheFlag

/-- A selection of problems; a part that is not set selects all. -/
structure Problem.Filter where
  category : Option String := none
  disabled : Option Bool := none
  deriving DecidableEq, Repr

/-- The problem agrees with every part that is set. -/
def Problem.Filter.selects (f : Problem.Filter) (p : Problem) : Bool :=
  Submission.Filter.admits f.category p.category && Submission.Filter.admits f.disabled p.disabled

/-- The order of problems in a list: by score, and by name among equal scores. -/
def Problem.before (p q : Problem) : Bool :=
  p.score < q.score || (p.score = q.score && p.name ≤ q.name)

/-- The order of submissions in a list. -/
def Submission.before (s t : Submission) : Bool := s.time ≤ t.time

/-- The two are the same key of the same team for the same problem. -/
def Submission.sameAttempt (s t : Submission) : Bool :=
  s.tid = t.tid && s.pid = t.pid && s.key = t.key

/-- Problems, submissions and users. -/
structure Store where
  /-- The problems by their identifiers. -/
  problems : KeyMap Problem
  /-- The submissions in the order in which they came in. -/
  submissions : List Submission
  /-- The users by their identifiers. -/
  users : KeyMap User
  deriving DecidableEq

namespace Store

/-- The store without anything in it. -/
def empty : Store := ⟨.empty, [], .empty⟩

/-! ## Problems -/

/-- The problem is new, and so is its name. -/
def insertProblem (p : Problem) (s : Store) : Except Failure Unit × Store :=
  if s.problems.contains p.pid || s.problems.values.any (·.name = p.name) then
    (.error (.problemStored p.name), s)
  else (.ok (), { s with problems := s.problems.insert p.pid p })

def problem? (s : Store) (pid : String) : Option Problem := s.problems.get? pid

/-- The first problem of that name. -/
def problemNamed? (s : Store) (name : String) : Option Problem :=
  s.problems.values.find? (·.name = name)

/-- The problem is stored already, and no other has its name. -/
def replaceProblem (p : Problem) (s : Store) : Except Failure Unit × Store :=
  if s.problems.values.any fun q => q.name = p.name && q.pid ≠ p.pid then
    (.error (.problemStored p.name), s)
  else if s.problems.contains p.pid then
    (.ok (), { s with problems := s.problems.insert p.pid p })
  else (.error (.problemNotStored p.pid), s)

/-- Whether there was such a problem, and the store without it. -/
def deleteProblem (pid : String) (s : Store) : Bool × Store :=
  (s.problems.contains pid, { s with problems := s.problems.erase pid })

/-- The problems that a filter selects, by score and name. -/
def problemsWhere (s : Store) (f : Problem.Filter) : List Problem :=
  (s.problems.values.filter f.selects).mergeSort Problem.before

/-! ## Submissions -/

/-- The team has not sent in this key for this problem before. -/
def insertSubmission (x : Submission) (s : Store) : Except Failure Unit × Store :=
  if s.submissions.any (·.sameAttempt x) then (.error .submissionStored, s)
  else (.ok (), { s with submissions := s.submissions ++ [x] })

/-- The submissions that a filter selects, by time. -/
def submissionsWhere (s : Store) (f : Submission.Filter) : List Submission :=
  (s.submissions.filter f.selects).mergeSort Submission.before

/-- Gives every submission that a filter selects this verdict; their number, and the store. -/
def setCorrect (f : Submission.Filter) (correct : Bool) (s : Store) : Nat × Store :=
  (s.submissions.countP f.selects,
    { s with
      submissions := s.submissions.map fun x => if f.selects x then { x with correct } else x })

/-- Removes every submission that a filter selects; their number, and the store. -/
def deleteSubmissions (f : Submission.Filter) (s : Store) : Nat × Store :=
  (s.submissions.countP f.selects,
    { s with submissions := s.submissions.filter fun x => !f.selects x })

/-! ## Users -/

def addUser (u : User) (s : Store) : Store := { s with users := s.users.insert u.uid u }

def user? (s : Store) (uid : String) : Option User := s.users.get? uid

end Store

end CaptureTheFlag
