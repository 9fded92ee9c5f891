import CaptureTheFlag.Failure
import CaptureTheFlag.Json.Value

/-!
# Rules on the fields of a document

A document is checked field by field.  Each rule takes the document, a field and the complaint to
make when the field breaks the rule, and gives the field's value when it does not.  An optional field
may be absent or null.
-/

namespace CaptureTheFlag.Schema

/-- The first key in ascending order that is not allowed is an unknown field. -/
def onlyFields (d : Document) (allowed : List String) : Except Failure Unit :=
  match d.keys.find? (· ∉ allowed) with
  | some k => .error (.unknownField k)
  | none => .ok ()

/-- The field must be absent; null is a presence. -/
def forbidden (d : Document) (field complaint : String) : Except Failure Unit :=
  if d.contains field then .error (.badField complaint) else .ok ()

/-- The value of a field that must be there and must have a reading. -/
def required {α : Type} (d : Document) (field complaint : String) (reading : Json → Option α) :
    Except Failure α :=
  match d.get? field with
  | none => .error (.missingField field)
  | some v =>
    match reading v with
    | some x => .ok x
    | none => .error (.badField complaint)

/-- The value of a field that must have a reading if it is there. -/
def optional {α : Type} (d : Document) (field complaint : String) (reading : Json → Option α) :
    Except Failure (Option α) :=
  match d.get? field with
  | none | some .null => .ok none
  | some v =>
    match reading v with
    | some x => .ok (some x)
    | none => .error (.badField complaint)

/-! ## Readings -/

/-- A 64-bit integer that is not negative. -/
def nonNegative? (v : Json) : Option Int64 :=
  v.int64?.filter (0 ≤ ·)

/-- A list of texts. -/
def strings? (v : Json) : Option (List String) :=
  v.array?.bind fun items => items.mapM Json.string?

/-- A map to 64-bit integers. -/
def integers? (v : Json) : Option (KeyMap Int64) :=
  v.document?.bind fun d => d.mapOption? Json.int64?

/-! ## Rules -/

def requiredString (d : Document) (field complaint : String) : Except Failure String :=
  required d field complaint Json.string?

def optionalString (d : Document) (field complaint : String) : Except Failure (Option String) :=
  optional d field complaint Json.string?

def requiredNonNegative (d : Document) (field complaint : String) : Except Failure Int64 :=
  required d field complaint nonNegative?

def optionalBool (d : Document) (field complaint : String) : Except Failure (Option Bool) :=
  optional d field complaint Json.bool?

def optionalStrings (d : Document) (field complaint : String) :
    Except Failure (Option (List String)) :=
  optional d field complaint strings?

def optionalIntegers (d : Document) (field complaint : String) :
    Except Failure (Option (KeyMap Int64)) :=
  optional d field complaint integers?

end CaptureTheFlag.Schema
