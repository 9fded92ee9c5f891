import CaptureTheFlag.Http.Request
import CaptureTheFlag.Submission.Pipeline
import CaptureTheFlag.Submission.Regrade
import CaptureTheFlag.Submission.Upkeep

/-!
# The service over HTTP

A request's action is carried out, and its result or its failure is the response.  A request that has
no action, one for the head of an answer, and one for the options of a path have a response without a
body.

* `Action.perform`: the program of an action.
* `respond`: the response to a request.
-/

namespace CaptureTheFlag.Http

/-- An answer to a request. -/
structure Response where
  status : Nat
  body : Option Json

namespace Response

/-- What a client is told about a failure. -/
def failureBody (f : Failure) : Json :=
  .ofFields [("error", .ofFields [
    ("code", .string f.kind.code),
    ("message", .string f.publicMessage)])]

/-- The response to a failure. -/
def ofFailure (f : Failure) : Response := ⟨f.kind.status, some (failureBody f)⟩

/-- A response with a status alone. -/
def bare (status : Nat) : Response := ⟨status, none⟩

def ok (body : Json) : Response := ⟨200, some body⟩

def created (body : Json) : Response := ⟨201, some body⟩

end Response

/-- The version of the service. -/
def version : String := "0.1.0"

/-- A number of submissions, as a body. -/
def countBody (n : Nat) : Json := .ofFields [("count", .integer n)]

/-- Some problems, as a body. -/
def problemsBody (ps : List Problem) : Json := .array (ps.map Problem.toJson)

/-- A key whose verdict is wanted has a proper length. -/
def KeyPreview.check (p : KeyPreview) : Except Failure Unit :=
  if Attempt.isKey p.key then .ok () else .error (.badAttempt [.key])

/-- The program of an action, at a time given in milliseconds. -/
def Action.perform (setup : Setup) (now : Int) : Action → Program Response
  | .health =>
    pure (.ok (.ofFields [
      ("status", .string "healthy"),
      ("version", .string version),
      ("graders", .integer setup.registry.ids.length)]))
  | .listProblems category showDisabled => do
    let ps ← Lifecycle.list category showDisabled
    pure (.ok (problemsBody ps))
  | .createProblem doc => do
    let pid ← Lifecycle.insert setup doc
    pure (.created (.ofFields [("pid", .string pid)]))
  | .importProblems text => do
    let pids ← Lifecycle.importText setup text
    pure (.created (.ofFields [("pids", pids.toJson)]))
  | .searchProblems conditions => do
    let ps ← Lifecycle.search conditions
    pure (.ok (problemsBody ps))
  | .getProblem pid tid showDisabled => do
    let p ←
      match tid with
      | some tid => Lifecycle.getForTeam pid tid
      | none => Lifecycle.get pid showDisabled
    pure (.ok p.toJson)
  | .updateProblem pid changes => do
    let p ← Lifecycle.update setup pid changes
    pure (.ok p.toJson)
  | .deleteProblem pid => do
    let p ← Lifecycle.remove pid
    pure (.ok p.toJson)
  | .setDisabled pid disabled => do
    let p ← Lifecycle.setDisabled setup pid disabled
    pure (.ok p.toJson)
  | .gradeKey pid preview => do
    preview.check
    let v ← Pipeline.preview setup pid preview.key preview.uid
    pure (.ok v.toJson)
  | .unlockedProblems tid category => do
    let us ← Progress.unlockedProblems tid category
    pure (.ok (.array (us.map UnlockedProblem.toJson)))
  | .solvedProblems tid category => do
    let ps ← Progress.solvedProblems tid category
    pure (.ok (problemsBody ps))
  | .listSubmissions query correctOnly => do
    let found ←
      if correctOnly then Upkeep.correctSubmissions query else Upkeep.submissions query
    pure (.ok (.array (found.map Submission.toJson)))
  | .submit attempt => do
    let result ← Pipeline.submit setup now attempt
    pure (.created result.toJson)
  | .integrity => do
    let issues ← Lifecycle.integrity setup
    pure (.ok (.ofFields [("healthy", .bool issues.isEmpty), ("issues", .ofStrings issues)]))
  | .graders =>
    pure (.ok (.ofFields [("graders", .ofStrings setup.registry.ids)]))
  | .reevaluate pid => do
    let teams ← Regrade.reevaluate setup pid
    pure (.ok (.ofFields [("affected_teams", .ofStrings teams)]))
  | .invalidate query => do
    let n ← Upkeep.invalidate query
    pure (.ok (countBody n))
  | .clear uid tid => do
    let n ← Upkeep.clear uid tid
    pure (.ok (countBody n))
  | .clearAll => do
    let n ← Upkeep.clearAll
    pure (.ok (countBody n))

/-- The response to a request other than one for options, with its body. -/
def answer (setup : Setup) (now : Int) (r : Request) : Program Response :=
  match Action.ofRequest r with
  | .error status => pure (.bare status)
  | .ok action => do
    match ← (action.perform setup now).attempt with
    | .ok response => pure response
    | .error f => pure (.ofFailure f)

/-- The response to a request that does not declare the length of its body, made at a time given in
milliseconds. -/
def respond (setup : Setup) (now : Int) (r : Request) : Program Response :=
  if r.method = "OPTIONS" then pure (.bare 200)
  else do
    let response ← answer setup now r
    pure (if r.method = "HEAD" then .bare response.status else response)

end CaptureTheFlag.Http
