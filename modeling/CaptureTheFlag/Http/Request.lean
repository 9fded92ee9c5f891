import CaptureTheFlag.Http.Address
import CaptureTheFlag.Http.MediaType
import CaptureTheFlag.Http.Percent
import CaptureTheFlag.Http.Route
import CaptureTheFlag.Problem.Condition
import CaptureTheFlag.Submission.Filter

/-!
# Requests

A request is turned into an action with all its data before anything is done.  What cannot be turned
is refused with a status and nothing else, and the order of the checks decides the status: the path,
the method, the parameters in the path, the query, the client, the type of the body, its length, and
its content.

Requests here do not declare the length of their body.  So a body that is too long is found out where
it is read, and no sooner, and a request whose body is never read is not refused for it.  A request
that declares such a length would be refused with the same status before anything else is looked at.

* `Action.ofRequest`: the action of a request, or the status that refuses it.
-/

namespace CaptureTheFlag.Http

/-- A request.  It does not declare the length of its body. -/
structure Request where
  method : String
  /-- The path, with a query behind a question mark, and perhaps a scheme and a host before it. -/
  target : String
  /-- The header with the body's type. -/
  contentType : Option String
  /-- Where the request comes from, if that is known. -/
  client : Option Address
  body : String

namespace Request

/-- The characters of a scheme. -/
def isScheme (c : Char) : Bool := c.isAlphanum || c ∈ ['+', '-', '.']

/-- The characters behind a host. -/
def endsHost (c : Char) : Bool := c = '/' || c = '?' || c = '#'

/-- A target without the scheme and the host that may stand before its path. -/
def dropHost (target : List Char) : List Char :=
  match target.dropWhile isScheme with
  | ':' :: '/' :: '/' :: r => r.dropWhile (!endsHost ·)
  | _ => target

/-- The path and the query of a target.  What follows a hash is no part of either. -/
def splitTarget (target : String) : String × String :=
  let cs := (dropHost target.toList).takeWhile (· ≠ '#')
  (String.ofList (cs.takeWhile (· ≠ '?')), String.ofList ((cs.dropWhile (· ≠ '?')).drop 1))

def path (r : Request) : String := (splitTarget r.target).1

def query (r : Request) : String := (splitTarget r.target).2

end Request

/-- The key whose verdict a client wants to see. -/
structure KeyPreview where
  key : String
  uid : Option String
  deriving DecidableEq, Repr

/-- What a request asks for, with its data. -/
inductive Action where
  | health
  | listProblems (category : Option String) (showDisabled : Bool)
  | createProblem (doc : Document)
  | importProblems (text : String)
  | searchProblems (conditions : List Condition)
  | getProblem (pid : String) (tid : Option String) (showDisabled : Bool)
  | updateProblem (pid : String) (changes : Document)
  | deleteProblem (pid : String)
  | setDisabled (pid : String) (disabled : Bool)
  | gradeKey (pid : String) (preview : KeyPreview)
  | unlockedProblems (tid : String) (category : Option String)
  | solvedProblems (tid : String) (category : Option String)
  | listSubmissions (query : Submission.Query) (correctOnly : Bool)
  | submit (attempt : Attempt)
  | integrity
  | graders
  | reevaluate (pid : String)
  | invalidate (query : Submission.Query)
  | clear (uid tid : Option String)
  | clearAll

/-- A request is refused with a status. -/
abbrev Refusable (α : Type) := Except Nat α

/-! ## Paths and queries -/

/-- A parameter of the path. -/
def readParameter (raw : String) : Refusable String :=
  match Percent.segment? raw with
  | some s => .ok s
  | none => .error 400

/-- The values of some fields in a query, none of which may come twice. -/
def readQuery (known : List String) : KeyMap String → List (String × String) →
    Refusable (KeyMap String)
  | seen, [] => .ok seen
  | seen, (k, v) :: r =>
    if k ∈ known then
      if seen.contains k then .error 400 else readQuery known (seen.insert k v) r
    else readQuery known seen r

/-- The fields of a request's query. -/
def queryFields (r : Request) (known : List String) : Refusable (KeyMap String) :=
  readQuery known .empty (Percent.query r.query)

/-- A truth value in a query, false if it is absent. -/
def queryFlag (fields : KeyMap String) (k : String) : Refusable Bool :=
  match fields.get? k with
  | none => .ok false
  | some "true" => .ok true
  | some "false" => .ok false
  | some _ => .error 400

/-! ## Bodies -/

/-- No body is longer than this many octets. -/
def maxBody : Nat := 4 * 1024 * 1024

/-- The text of a body that is not too long.  How long it is shows as it is read. -/
def bodyText (r : Request) : Refusable String :=
  if maxBody < r.body.utf8ByteSize then .error 413 else .ok r.body

/-- The status of a fault in JSON text. -/
def faultStatus : Json.Fault → Nat
  | .malformed => 400
  | .mismatch => 422

/-- The data of a body that is JSON. -/
def jsonBody {α : Type} (r : Request) (read : Json.Tree → Except Json.Fault α) : Refusable α := do
  if !r.contentType.any MediaType.isJson then throw 415
  let text ← bodyText r
  match Json.readText read text with
  | .ok v => pure v
  | .error f => throw (faultStatus f)

/-- The key whose verdict is wanted, in JSON text. -/
def KeyPreview.read (t : Json.Tree) : Except Json.Fault KeyPreview := do
  let m ← t.readRecord ⟨["key", "uid"], []⟩ fun k t =>
    if k = "key" then some <$> t.readString else t.readString?
  let key ← Json.Tree.required m "key"
  pure ⟨key.getD "", (m.get? "uid").join⟩

/-- The wanted state of a problem, in JSON text. -/
def readDisabled (t : Json.Tree) : Except Json.Fault Bool := do
  let m ← t.readRecord ⟨["disabled"], []⟩ fun _ t => t.readBool
  Json.Tree.required m "disabled"

/-- Search conditions in JSON text.  Each lies inside two objects and a list. -/
def readConditions (t : Json.Tree) : Except Json.Fault (List Condition) := do
  let m ← t.readRecord ⟨["conditions"], []⟩ fun _ t =>
    t.readList (Condition.read (Json.depthLimit - 3))
  Json.Tree.required m "conditions"

/-- An attempt in JSON text, from a client. -/
def readAttempt (client : Address) (t : Json.Tree) : Except Json.Fault Attempt := do
  let m ← t.readRecord ⟨["tid", "pid", "key", "uid"], []⟩ fun _ t => t.readString
  let tid ← Json.Tree.required m "tid"
  let pid ← Json.Tree.required m "pid"
  let key ← Json.Tree.required m "key"
  let uid ← Json.Tree.required m "uid"
  pure ⟨tid, pid, key, uid, some client.text⟩

/-! ## Actions -/

/-- The selection of submissions in a query. -/
def submissionQuery (fields : KeyMap String) : Submission.Query :=
  ⟨fields.get? "pid", fields.get? "uid", fields.get? "tid", fields.get? "category"⟩

/-- The action of an endpoint on a request's data. -/
def Action.ofEndpoint (r : Request) : Endpoint → Refusable Action
  | .health => .ok .health
  | .listProblems => do
    let fields ← queryFields r ["category", "show_disabled"]
    let showDisabled ← queryFlag fields "show_disabled"
    pure (.listProblems (fields.get? "category") showDisabled)
  | .createProblem => do
    let doc ← jsonBody r (Json.Tree.readDocument Json.depthLimit)
    pure (.createProblem doc)
  | .importProblems => do
    let text ← bodyText r
    pure (.importProblems text)
  | .searchProblems => do
    let conditions ← jsonBody r readConditions
    pure (.searchProblems conditions)
  | .getProblem raw => do
    let pid ← readParameter raw
    let fields ← queryFields r ["tid", "show_disabled"]
    let showDisabled ← queryFlag fields "show_disabled"
    pure (.getProblem pid (fields.get? "tid") showDisabled)
  | .updateProblem raw => do
    let pid ← readParameter raw
    let changes ← jsonBody r (Json.Tree.readDocument Json.depthLimit)
    pure (.updateProblem pid changes)
  | .deleteProblem raw => do
    let pid ← readParameter raw
    pure (.deleteProblem pid)
  | .setDisabled raw => do
    let pid ← readParameter raw
    let disabled ← jsonBody r readDisabled
    pure (.setDisabled pid disabled)
  | .gradeKey raw => do
    let pid ← readParameter raw
    let preview ← jsonBody r KeyPreview.read
    pure (.gradeKey pid preview)
  | .unlockedProblems raw => do
    let tid ← readParameter raw
    let fields ← queryFields r ["category"]
    pure (.unlockedProblems tid (fields.get? "category"))
  | .solvedProblems raw => do
    let tid ← readParameter raw
    let fields ← queryFields r ["category"]
    pure (.solvedProblems tid (fields.get? "category"))
  | .listSubmissions => do
    let fields ← queryFields r ["pid", "uid", "tid", "category", "correct_only"]
    let correctOnly ← queryFlag fields "correct_only"
    pure (.listSubmissions (submissionQuery fields) correctOnly)
  | .createSubmission =>
    match r.client with
    | none => .error 500
    | some client => do
      let attempt ← jsonBody r (readAttempt client)
      pure (.submit attempt)
  | .integrity => .ok .integrity
  | .graders => .ok .graders
  | .reevaluate raw => do
    let pid ← readParameter raw
    pure (.reevaluate pid)
  | .invalidate => do
    let query ← jsonBody r Submission.Query.read
    pure (.invalidate query)
  | .clear => do
    let fields ← queryFields r ["uid", "tid"]
    pure (.clear (fields.get? "uid") (fields.get? "tid"))
  | .clearAll => .ok .clearAll

/-- The method that decides what is done: a request for the head of an answer is one for the answer. -/
def Request.effectiveMethod (r : Request) : String :=
  if r.method = "HEAD" then "GET" else r.method

/-- The action of a request. -/
def Action.ofRequest (r : Request) : Refusable Action :=
  match Route.ofPath? r.path with
  | none => .error 404
  | some route =>
    match Endpoint.ofRoute? route r.effectiveMethod with
    | none => .error 405
    | some e => Action.ofEndpoint r e

end CaptureTheFlag.Http
