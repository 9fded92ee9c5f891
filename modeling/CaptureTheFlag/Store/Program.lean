import CaptureTheFlag.Store.Basic

/-!
# Programs over the store

An operation of the service does not touch the store at once: it makes one call after another, and
what it does next may depend on the answers.  Between two of its calls the store may change.  So an
operation is a program: it is done, or it makes a call and goes on with the answer.

A program runs on a store alone, under an interference that may answer some calls in the store's
place and then leaves the store as it is.

* `Call.perform`: what the store does on a call.
* `Program.run`: a program's result and the store behind it.
* `Program.attempt`: a program whose failure is a result.
-/

namespace CaptureTheFlag

/-- The calls that a store answers. -/
inductive Call where
  | insertProblem (p : Problem)
  | findProblem (pid : String)
  | findProblemNamed (name : String)
  | replaceProblem (p : Problem)
  | deleteProblem (pid : String)
  | listProblems (f : Problem.Filter)
  | insertSubmission (s : Submission)
  | findSubmissions (f : Submission.Filter)
  | setCorrect (f : Submission.Filter) (correct : Bool)
  | deleteSubmissions (f : Submission.Filter)
  | findUser (uid : String)

namespace Call

/-- What a call is answered with when it does not fail. -/
def Reply : Call → Type
  | .insertProblem _ | .replaceProblem _ | .insertSubmission _ => Unit
  | .findProblem _ | .findProblemNamed _ => Option Problem
  | .deleteProblem _ => Bool
  | .listProblems _ => List Problem
  | .findSubmissions _ => List Submission
  | .setCorrect _ _ | .deleteSubmissions _ => Nat
  | .findUser _ => Option User

/-- The answer of a store to a call, and the store after it. -/
def perform : (c : Call) → Store → Except Failure c.Reply × Store
  | .insertProblem p, s => s.insertProblem p
  | .findProblem pid, s => (.ok (s.problem? pid), s)
  | .findProblemNamed name, s => (.ok (s.problemNamed? name), s)
  | .replaceProblem p, s => s.replaceProblem p
  | .deleteProblem pid, s => ((.ok (s.deleteProblem pid).1), (s.deleteProblem pid).2)
  | .listProblems f, s => (.ok (s.problemsWhere f), s)
  | .insertSubmission x, s => s.insertSubmission x
  | .findSubmissions f, s => (.ok (s.submissionsWhere f), s)
  | .setCorrect f correct, s => (.ok (s.setCorrect f correct).1, (s.setCorrect f correct).2)
  | .deleteSubmissions f, s => (.ok (s.deleteSubmissions f).1, (s.deleteSubmissions f).2)
  | .findUser uid, s => (.ok (s.user? uid), s)

end Call

/-- A sequence of calls, each depending on the answers before it, with a result. -/
inductive Program (α : Type) where
  | done (result : Except Failure α)
  | ask (c : Call) (next : Except Failure c.Reply → Program α)

namespace Program

variable {α β : Type}

/-- One program after another, unless the first fails. -/
def bind : Program α → (α → Program β) → Program β
  | .done (.ok a), f => f a
  | .done (.error e), _ => .done (.error e)
  | .ask c next, f => .ask c fun r => (next r).bind f

instance : Monad Program where
  pure a := .done (.ok a)
  bind := Program.bind

/-- The program that fails. -/
def fail (e : Failure) : Program α := .done (.error e)

instance : MonadLift (Except Failure) Program where
  monadLift := .done

/-- The program of one call. -/
def call (c : Call) : Program c.Reply := .ask c .done

/-- The program whose failure is a result. -/
def attempt : Program α → Program (Except Failure α)
  | .done r => .done (.ok r)
  | .ask c next => .ask c fun r => (next r).attempt

/-- The program with each failure replaced. -/
def mapFailure (f : Failure → Failure) : Program α → Program α
  | .done (.ok a) => .done (.ok a)
  | .done (.error e) => .done (.error (f e))
  | .ask c next => .ask c fun r => (next r).mapFailure f

/-- Answers given in the store's place. -/
def Interference := (c : Call) → Option (Except Failure c.Reply)

/-- Every call reaches the store. -/
def Interference.none : Interference := fun _ => Option.none

/-- The result of a program that runs alone, and the store behind it. -/
def run (i : Interference) : Program α → Store → Except Failure α × Store
  | .done r, s => (r, s)
  | .ask c next, s =>
    match i c with
    | some r => (next r).run i s
    | Option.none => (next (c.perform s).1).run i (c.perform s).2

/-- A program followed by another, run on a store. -/
theorem run_bind (i : Interference) (p : Program α) (f : α → Program β) (s : Store) :
    (p.bind f).run i s =
      match p.run i s with
      | (.ok a, s') => (f a).run i s'
      | (.error e, s') => (.error e, s') := by
  induction p generalizing s with
  | done r => cases r <;> rfl
  | ask c next ih =>
    simp only [bind, run]
    split
    · exact ih _ _
    · exact ih _ _

end Program

end CaptureTheFlag
