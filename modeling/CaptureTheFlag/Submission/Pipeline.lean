import CaptureTheFlag.Problem.Lifecycle

/-!
# The way of an attempt

An attempt passes a number of gates in order: its parts have a proper length, the team may see the
problem, the team has not solved it, the user exists, and the team has not tried the key.  Then the
key is judged, and the attempt is stored with its verdict.  The first gate that stays shut decides
the failure.

* `Pipeline.submit`: the whole way.
* `Pipeline.preview`: a verdict that is not stored.
-/

namespace CaptureTheFlag.Pipeline

/-- What the submitter is told. -/
structure Result where
  correct : Bool
  points : Int64
  message : String
  deriving DecidableEq, Repr

/-- The result as a JSON value. -/
def Result.toJson (r : Result) : Json :=
  .ofFields [
    ("correct", .bool r.correct),
    ("points", .ofInt64 r.points),
    ("message", .string r.message)]

/-- The verdict of a problem's grader; without one the grader is offline. -/
def judge (setup : Setup) (p : Problem) (uid? : Option String) (key : String) :
    Except Failure Verdict :=
  match setup.registry.grade p.grader uid? key with
  | .ok v => .ok v
  | .error _ => .error (.graderOffline p.name)

/-- The team may see the problem. -/
def checkUnlocked (tid pid : String) : Program Unit := do
  let unlocked ← Progress.unlockedPids tid none
  if pid ∈ unlocked then pure () else Program.fail .locked

/-- The team has not solved the problem. -/
def checkUnsolved (tid pid : String) : Program Unit := do
  let solved ← Progress.solvedPids tid none
  if solved.contains pid then Program.fail .alreadySolved else pure ()

/-- The user exists. -/
def resolveUser (uid : String) : Program User := do
  match ← Program.call (.findUser uid) with
  | some u => pure u
  | none => Program.fail (.unknownUser uid)

/-- The team has not tried the key. -/
def checkUntried (a : Attempt) : Program Unit := do
  let earlier ← Program.call (.findSubmissions
    { pid := some a.pid, tid := some a.tid, key := some a.key })
  if earlier.isEmpty then pure () else Program.fail .alreadyTried

/-- An attempt that the store already has has been tried. -/
def triedIfStored (f : Failure) : Failure :=
  if f.kind = .alreadyExists then .alreadyTried else f

/-- The attempt with its verdict. -/
def record (now : Int) (a : Attempt) (p : Problem) (v : Verdict) : Submission where
  uid := a.uid
  tid := a.tid
  pid := a.pid
  key := a.key
  time := now
  ip := a.ip
  category := p.category
  correct := v.correct

/-- The way of an attempt whose key is stripped. -/
def submitNormalized (setup : Setup) (now : Int) (a : Attempt) : Program Result := do
  a.check
  checkUnlocked a.tid a.pid
  checkUnsolved a.tid a.pid
  let user ← resolveUser a.uid
  checkUntried a
  let p ← Lifecycle.find a.pid
  let v ← judge setup p (some user.uid) a.key
  (Program.call (.insertSubmission (record now a p v))).mapFailure triedIfStored
  pure ⟨v.correct, p.score, v.message⟩

/-- The way of an attempt, made at a time given in milliseconds. -/
def submit (setup : Setup) (now : Int) (a : Attempt) : Program Result :=
  submitNormalized setup now a.normalized

/-- A verdict that is not stored. -/
def preview (setup : Setup) (pid key : String) (uid? : Option String) : Program Verdict := do
  let p ← Lifecycle.find pid
  let v ← judge setup p uid? key
  pure v

end CaptureTheFlag.Pipeline
