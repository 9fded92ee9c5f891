import CaptureTheFlag.Grader.Registry
import CaptureTheFlag.Json.Tree
import CaptureTheFlag.Problem.Condition
import CaptureTheFlag.Problem.Draft
import CaptureTheFlag.Team.Progress

/-!
# The life of a problem

Problems are inserted, updated, switched off and on, removed, imported and looked up.  A document is
checked before anything is stored, and the store is changed last.

* `Lifecycle.insert`: a new problem from a document.
* `Lifecycle.merge`, `Lifecycle.update`: a stored problem with some of its fields replaced.
* `Lifecycle.integrity`: what the stored problems refer to in vain.
* `Lifecycle.importText`: problems from JSON text, one after another.
-/

namespace CaptureTheFlag

/-- What the service knows besides the store. -/
structure Setup where
  registry : Registry
  /-- A problem's grader has to be registered. -/
  checkGraders : Bool

namespace Lifecycle

/-- The grader is registered, if that has to be so. -/
def checkGrader (setup : Setup) (grader : String) : Except Failure Unit :=
  if setup.checkGraders && !setup.registry.contains grader then
    .error (.unregisteredGrader grader)
  else .ok ()

/-- A name that the store already has is a name taken. -/
def takenIfStored (name : String) (f : Failure) : Failure :=
  if f.kind = .alreadyExists then .nameTaken name else f

/-- The problem with the identifier, disabled or not. -/
def find (pid : String) : Program Problem := do
  match ← Program.call (.findProblem pid) with
  | some p => pure p
  | none => Program.fail (.problemNotFound pid)

/-! ## Inserting and importing -/

/-- Checks a document and stores the problem that it makes, under the identifier returned. -/
def insert (setup : Setup) (doc : Document) : Program String := do
  let draft ← Draft.ofDocument doc
  checkGrader setup draft.grader
  let p := Problem.create draft
  if (← Program.call (.findProblem p.pid)).isSome then
    Program.fail (.nameTaken p.name)
  else if (← Program.call (.findProblemNamed p.name)).isSome then
    Program.fail (.nameTaken p.name)
  else do
    (Program.call (.insertProblem p)).mapFailure (takenIfStored p.name)
    pure p.pid

/-- The identifiers of imported problems: one for an object, several for a list. -/
inductive Imported where
  | single (pid : String)
  | many (pids : List String)
  deriving DecidableEq, Repr

/-- The identifiers as a JSON value. -/
def Imported.toJson : Imported → Json
  | .single pid => .string pid
  | .many pids => .ofStrings pids

/-- Inserts the items one after another, up to the first that fails. -/
def insertAll (setup : Setup) : List Json → Program (List String)
  | [] => pure []
  | item :: r => do
    match item.document? with
    | none => Program.fail .importedItem
    | some doc => do
      let pid ← insert setup doc
      let pids ← insertAll setup r
      pure (pid :: pids)

/-- Inserts the problem of a JSON text, or the problems of a list in one. -/
def importText (setup : Setup) (text : String) : Program Imported := do
  match Json.parse? text with
  | none => Program.fail .malformedJson
  | some (.array items) => do
    let pids ← insertAll setup items
    pure (.many pids)
  | some v =>
    match v.document? with
    | none => Program.fail .importedShape
    | some doc => do
      let pid ← insert setup doc
      pure (.single pid)

/-! ## Updating and removing -/

/-- A new value of a field, as it is merged: weights are given by names. -/
def mergedValue (field : String) (value : Json) : Json :=
  if field = "weightmap" then
    match value.document? with
    | some byName => .ofDocument (Problem.rekey byName)
    | none => value
  else value

/-- The document of a stored problem with new values for some fields. -/
def merge (p : Problem) (changes : Document) : Document :=
  changes.entries.foldl (fun d e => d.insert e.1 (mergedValue e.1 e.2)) p.toDocument

/-- No other problem has the name. -/
def checkName (p : Problem) : Program Unit := do
  match ← Program.call (.findProblemNamed p.name) with
  | some holder =>
    if holder.pid ≠ p.pid then Program.fail (.nameTaken p.name) else pure ()
  | none => pure ()

/-- Replaces some fields of a stored problem.  The result is checked like a new problem, and a grader
that changes has to be registered if that is checked. -/
def update (setup : Setup) (pid : String) (changes : Document) : Program Problem := do
  let existing ← find pid
  let draft ← Draft.ofDocument (merge existing changes)
  if draft.grader ≠ existing.grader then
    checkGrader setup draft.grader
  let updated := Problem.ofDraft existing.pid draft
  if updated.name ≠ existing.name then
    checkName updated
  (Program.call (.replaceProblem updated)).mapFailure (takenIfStored updated.name)
  pure updated

/-- Switches a problem off or on. -/
def setDisabled (setup : Setup) (pid : String) (disabled : Bool) : Program Problem :=
  update setup pid (KeyMap.empty.insert "disabled" (.bool disabled))

/-- Removes a problem, and returns it. -/
def remove (pid : String) : Program Problem := do
  let p ← find pid
  let found : Bool ← Program.call (.deleteProblem pid)
  if found then
    pure p
  else
    Program.fail (.problemNotFound pid)

/-! ## Integrity -/

/-- What one problem refers to in vain: its grader, and then identifiers in its weightmap. -/
def issues (setup : Setup) (pids : TextSet) (p : Problem) : List String :=
  (if setup.registry.contains p.grader then []
    else [p.name ++ ": Missing grader '" ++ p.grader ++ "'."]) ++
  (p.weightmap.keys.filter fun pid => !pids.contains pid).map fun pid =>
    p.name ++ ": Has weightmap entry '" ++ pid ++ "' which does not exist."

/-- What the problems refer to in vain. -/
def integrity (setup : Setup) : Program (List String) := do
  let problems ← Program.call (.listProblems {})
  let pids := TextSet.ofList (problems.map (·.pid))
  pure (problems.flatMap (issues setup pids))

/-! ## Looking up -/

/-- The problem with the identifier; a disabled one only if wanted. -/
def get (pid : String) (showDisabled : Bool) : Program Problem := do
  match ← Program.call (.findProblem pid) with
  | some p =>
    if showDisabled || !p.disabled then pure p else Program.fail (.problemNotFound pid)
  | none => Program.fail (.problemNotFound pid)

/-- The problem with the name; a disabled one only if wanted. -/
def getNamed (name : String) (showDisabled : Bool) : Program Problem := do
  match ← Program.call (.findProblemNamed name) with
  | some p =>
    if showDisabled || !p.disabled then pure p else Program.fail (.problemNotFoundNamed name)
  | none => Program.fail (.problemNotFoundNamed name)

/-- The problem with the identifier, if the team may see it. -/
def getForTeam (pid tid : String) : Program Problem := do
  let unlocked ← Progress.unlockedPids tid none
  if pid ∈ unlocked then get pid false else Program.fail .hidden

/-- The problems that are disabled, or those that are not, by score and name. -/
def list (category : Option String) (disabled : Bool) : Program (List Problem) := do
  let problems ← Program.call (.listProblems ⟨category, some disabled⟩)
  pure problems

/-- The problems that meet any of the conditions. -/
def search (conditions : List Condition) : Program (List Problem) := do
  let problems ← Program.call (.listProblems {})
  pure (problems.filter fun p => conditions.any (·.isMetBy p))

end Lifecycle

end CaptureTheFlag
