/-!
# Failures

Why an operation fails.  Every failure has a kind, which decides its code and its status over HTTP,
and a message.  The message of a failure inside the system is not for the client, who gets a fixed
text in its place.

Four messages would end in a colon and the words of a library or of the system, which say what is
wrong and where: those of text that is no JSON, of a pattern that is none, and of grader definitions
that are none or cannot be read.  This detail is left out, so that these messages say what kind of
fault there is and not which one.

* `Failure.kind`, `Failure.message`: what kind of failure it is and what it says.
* `Failure.display`: the message with the heading of its kind.
* `Failure.publicMessage`: what the client is told.
-/

namespace CaptureTheFlag

namespace Failure

/-- The kinds of failures. -/
inductive Kind where
  /-- The input breaks a rule. -/
  | validation
  | notFound
  | alreadyExists
  /-- The input is at odds with what is stored. -/
  | conflict
  | graderUnavailable
  /-- What is stored contradicts itself. -/
  | dataIntegrity
  | database
  | internal
  | configuration
  deriving DecidableEq, Repr

namespace Kind

/-- The word for the kind in an answer to a client. -/
def code : Kind → String
  | .validation => "VALIDATION_ERROR"
  | .notFound => "NOT_FOUND"
  | .alreadyExists => "ALREADY_EXISTS"
  | .conflict => "CONFLICT"
  | .graderUnavailable => "GRADER_UNAVAILABLE"
  | .dataIntegrity => "DATA_INTEGRITY_ERROR"
  | .database => "DATABASE_ERROR"
  | .internal => "INTERNAL_ERROR"
  | .configuration => "CONFIGURATION_ERROR"

/-- The status of an answer to a client. -/
def status : Kind → Nat
  | .validation => 400
  | .notFound => 404
  | .alreadyExists | .conflict => 409
  | .graderUnavailable => 503
  | .dataIntegrity | .database | .internal | .configuration => 500

/-- The words before a message; none where the message is not shown. -/
def heading? : Kind → Option String
  | .validation => some "Validation error: "
  | .notFound => some "Not found: "
  | .alreadyExists => some "Already exists: "
  | .conflict => some "Conflict: "
  | .graderUnavailable => some "Grader unavailable: "
  | .dataIntegrity => some "Data integrity error: "
  | .database => some "Database error: "
  | .internal => none
  | .configuration => some "Configuration error: "

/-- What a client is told in place of the message, if the message is not for clients. -/
def cover? : Kind → Option String
  | .validation | .notFound | .alreadyExists | .conflict | .graderUnavailable => none
  | .database => some "A database error occurred"
  | .dataIntegrity | .internal | .configuration => some "An internal error occurred"

end Kind

end Failure

/-- A part of an attempt whose length is bounded. -/
inductive AttemptField where
  | key
  | pid
  | tid
  deriving DecidableEq, Repr

/-- The name of the part. -/
def AttemptField.name : AttemptField → String
  | .key => "key"
  | .pid => "pid"
  | .tid => "tid"

/-- Why an operation fails. -/
inductive Failure where
  /-- A problem's document has a field that no problem has. -/
  | unknownField (field : String)
  /-- A problem's document lacks a field that every problem has. -/
  | missingField (field : String)
  /-- A field of a problem's document breaks its rule. -/
  | badField (complaint : String)
  /-- A text is no JSON.  Where it goes wrong is left out. -/
  | malformedJson
  /-- An item of an import is not an object. -/
  | importedItem
  /-- An import is neither an object nor a list. -/
  | importedShape
  /-- Parts of an attempt are empty or too long.  The message has a line for each. -/
  | badAttempt (fields : List AttemptField)
  | unregisteredGrader (grader : String)
  /-- A selection that needs a user or a team has neither. -/
  | ownerless
  /-- Flags that differ from user to user cannot be judged by key alone. -/
  | autogenerated
  | problemNotFound (pid : String)
  | problemNotFoundNamed (name : String)
  /-- The team may not see the problem. -/
  | hidden
  | nameTaken (name : String)
  | locked
  | alreadySolved
  | alreadyTried
  | graderOffline (problem : String)
  | unknownUser (uid : String)
  | solvedProblemMissing (pid : String)
  | graderDefinedTwice (id : String)
  | badDigest (id : String)
  /-- The pattern of a grader is none, or too large.  What is wrong with it is left out. -/
  | badPattern (id : String)
  /-- A text is no list of grader definitions.  What is wrong with it is left out. -/
  | badDefinitions
  /-- The grader definitions cannot be read.  Where they should be, and why they cannot, is left
  out. -/
  | unreadableDefinitions
  /-- The store already has the problem. -/
  | problemStored (name : String)
  /-- The store has no problem to replace. -/
  | problemNotStored (pid : String)
  /-- The store already has the attempt. -/
  | submissionStored
  /-- A failure reported by a backing service. -/
  | reported (kind : Failure.Kind) (text : String)
  deriving DecidableEq, Repr

namespace Failure

/-- The kind of a failure. -/
def kind : Failure → Kind
  | .unknownField _ | .missingField _ | .badField _ | .malformedJson | .importedItem
  | .importedShape | .badAttempt _ | .unregisteredGrader _ | .ownerless | .autogenerated =>
    .validation
  | .problemNotFound _ | .problemNotFoundNamed _ | .hidden | .problemNotStored _ => .notFound
  | .nameTaken _ | .locked | .alreadySolved | .alreadyTried => .conflict
  | .graderOffline _ => .graderUnavailable
  | .unknownUser _ | .solvedProblemMissing _ => .dataIntegrity
  | .graderDefinedTwice _ | .badDigest _ | .badPattern _ | .badDefinitions
  | .unreadableDefinitions => .configuration
  | .problemStored _ | .submissionStored => .alreadyExists
  | .reported k _ => k

/-- What a failure says.  The lines on bad parts of an attempt could stand in any order; they stand in
the one that the failure has. -/
def message : Failure → String
  | .unknownField field => "Unknown field '" ++ field ++ "'."
  | .missingField field => "Missing required field '" ++ field ++ "'."
  | .badField complaint => complaint
  | .malformedJson => "Malformed JSON"
  | .importedItem => "Each imported problem must be a JSON object."
  | .importedShape => "Imported problems must be a JSON object or an array of objects."
  | .badAttempt fields =>
    String.intercalate "\n" <| fields.map fun f =>
      f.name ++ ": This does not look like a valid " ++ f.name ++ "."
  | .unregisteredGrader grader => "Grader '" ++ grader ++ "' is not registered."
  | .ownerless => "You must supply either a tid or a uid."
  | .autogenerated => "Autogenerated problems cannot be reevaluated by key."
  | .problemNotFound pid => "Couldn't find problem " ++ pid
  | .problemNotFoundNamed name => "Couldn't find problem named '" ++ name ++ "'"
  | .hidden => "You cannot get this problem"
  | .nameTaken name => "Problem with name '" ++ name ++ "' already exists."
  | .locked => "You can't submit flags to problems you haven't unlocked."
  | .alreadySolved => "You have already solved this problem."
  | .alreadyTried => "You or one of your teammates has already tried this solution."
  | .graderOffline problem => "Problem grader for " ++ problem ++ " is offline."
  | .unknownUser uid => "User " ++ uid ++ " does not exist"
  | .solvedProblemMissing pid => "Solved problem " ++ pid ++ " no longer exists"
  | .graderDefinedTwice id => "Grader '" ++ id ++ "' is defined more than once"
  | .badDigest id => "Grader '" ++ id ++ "' has an invalid SHA-256 digest"
  | .badPattern id => "Grader '" ++ id ++ "' has an invalid pattern"
  | .badDefinitions => "Invalid grader definitions"
  | .unreadableDefinitions => "Cannot read grader definitions"
  | .problemStored name => "Problem '" ++ name ++ "' already exists"
  | .problemNotStored pid => "Problem " ++ pid ++ " not found"
  | .submissionStored => "Submission already exists"
  | .reported _ text => text

/-- The message with the heading of its kind. -/
def display (f : Failure) : String :=
  match f.kind.heading? with
  | some h => h ++ f.message
  | none => "Internal server error"

/-- What the client is told. -/
def publicMessage (f : Failure) : String :=
  f.kind.cover?.getD f.message

/-! ## Reports of a database -/

/-- What a database reports in place of an answer. -/
inductive DatabaseReport where
  | noRow
  | duplicate
  | noConnection
  | other (text : String)
  deriving DecidableEq, Repr

/-- The failure that a report of a database amounts to. -/
def ofDatabase : DatabaseReport → Failure
  | .noRow => .reported .notFound "Resource not found"
  | .duplicate => .reported .alreadyExists "Resource already exists"
  | .noConnection => .reported .database "pool timed out while waiting for an open connection"
  | .other text => .reported .database text

/-- Two checks one after the other are passed if both are, the second with what the first gives. -/
theorem bind_eq_ok_iff {α β : Type} {r : Except Failure α} {f : α → Except Failure β} {y : β} :
    r >>= f = .ok y ↔ ∃ x, r = .ok x ∧ f x = .ok y := by
  cases r with
  | error e => simp [bind, Except.bind]
  | ok x => simp [bind, Except.bind]

/-- Only kinds without a cover show their message. -/
theorem publicMessage_of_cover {f : Failure} {t : String} (h : f.kind.cover? = some t) :
    f.publicMessage = t := by
  simp [publicMessage, h]

end Failure

end CaptureTheFlag
