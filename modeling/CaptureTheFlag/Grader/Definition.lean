import CaptureTheFlag.Failure
import CaptureTheFlag.Grader.Basic
import CaptureTheFlag.Json.Decoder

/-!
# Definitions of graders

A grader is defined by data: its identifier, its kind with what the kind needs, and its messages.
In JSON a definition is one object.  Its kind is named in the field `kind`, or numbered from zero;
what the kind needs stands beside it.  None of the fields that count may come twice; other fields do
not count.

* `Definition.build`: the grader of a definition.
* `Definition.read?`, `Definition.readAll?`: definitions in JSON text.
-/

namespace CaptureTheFlag.Grader

/-- The kinds of graders, with what each needs. -/
inductive Kind where
  | flag (flag : String) (caseInsensitive : Bool)
  | sha256 (digest : String)
  | regex (pattern : String)
  | perUser (secret : String) (label : Option String)
  deriving DecidableEq, Repr

/-- A grader as it is written down. -/
structure Definition where
  id : String
  kind : Kind
  correctMessage : Option String
  incorrectMessage : Option String
  deriving DecidableEq, Repr

namespace Definition

/-- The messages, each with its default. -/
def messages (d : Definition) : Messages :=
  let defaults : Messages := {}
  ⟨d.correctMessage.getD defaults.correct, d.incorrectMessage.getD defaults.incorrect⟩

/-- A digest is written with 64 hexadecimal digits and nothing else. -/
def isDigest (s : String) : Bool :=
  s.utf8ByteSize = 64 && (Text.Hex.decode? s.toList).isSome

/-- The grader of a definition. -/
def build (d : Definition) : Except Failure Grader :=
  match d.kind with
  | .flag flag caseInsensitive => .ok (Grader.flag d.messages flag caseInsensitive)
  | .sha256 digest =>
    if isDigest digest then .ok (Grader.digest d.messages digest)
    else .error (.badDigest d.id)
  | .regex pattern =>
    match Regex.compileWhole? pattern with
    | some e => .ok (Grader.pattern d.messages e)
    | none => .error (.badPattern d.id)
  | .perUser secret label =>
    .ok (Grader.perUser d.messages secret (label.getD defaultLabel))

/-! ## Reading -/

open Json (Tree)

/-- The value of a field that comes at most once. -/
def unique? (fields : List (String × Json)) (k : String) : Option (Option Json) :=
  match fields.filter (·.1 = k) with
  | [] => some none
  | [e] => some (some e.2)
  | _ => none

/-- The text of a field that comes once. -/
def text? (fields : List (String × Json)) (k : String) : Option String := do
  (← (← unique? fields k)).string?

/-- The text of a field that may be absent or null. -/
def optionalText? (fields : List (String × Json)) (k : String) : Option (Option String) := do
  match ← unique? fields k with
  | none | some .null => some none
  | some v => some (some (← v.string?))

/-- The names of the kinds, each at its number. -/
def kindNames : List String := ["flag", "sha256", "regex", "per_user"]

/-- The name of a kind, given by itself or by its number. -/
def kindName? : Json → Option String
  | .string s => some s
  | .integer (.ofNat n) => kindNames[n]?
  | _ => none

/-- The kind, with what it needs. -/
def kind? (fields : List (String × Json)) : Option Kind := do
  match ← kindName? (← (← unique? fields "kind")) with
  | "flag" =>
    let flag ← text? fields "flag"
    match ← unique? fields "case_insensitive" with
    | none => some (.flag flag false)
    | some v => some (.flag flag (← v.bool?))
  | "sha256" => some (.sha256 (← text? fields "digest"))
  | "regex" => some (.regex (← text? fields "pattern"))
  | "per_user" =>
    let secret ← text? fields "secret"
    some (.perUser secret (← optionalText? fields "prefix"))
  | _ => none

/-- Values in a definition nest at most this deep. -/
def room : Nat := Json.depthLimit - 2

/-- A definition in JSON text. -/
def read? : Tree → Option Definition
  | .object fields true => do
    let fields ← (Tree.fieldValues none room fields).toOption
    let id ← text? fields "id"
    let kind ← kind? fields
    let correctMessage ← optionalText? fields "correct_message"
    let incorrectMessage ← optionalText? fields "incorrect_message"
    some ⟨id, kind, correctMessage, incorrectMessage⟩
  | _ => none

/-- A list of definitions in JSON text. -/
def readAll? : Tree → Option (List Definition)
  | .array items true => items.mapM read?
  | _ => none

end Definition

end CaptureTheFlag.Grader
