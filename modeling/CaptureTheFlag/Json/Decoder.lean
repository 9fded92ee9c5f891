import CaptureTheFlag.Json.Tree

/-!
# Reading typed data from JSON text

A reader of typed data walks through the tree of a text in the order of the text and stops at the
first fault.  There are two faults: the text is not JSON, or it is JSON of another shape than the
data has.

A record is an object with the record's fields, or a list of exactly its fields in order.  Of an
object's other fields only the form matters, and no field of the record may come twice.
-/

namespace CaptureTheFlag.Json

namespace Tree

def readBool : Tree → Except Fault Bool
  | .bool b => .ok b
  | t => .error t.unfit

/-- A text, or null in its place. -/
def readString? : Tree → Except Fault (Option String)
  | .null => .ok none
  | .string (some s) => .ok (some s)
  | t => .error t.unfit

/-- An object with any fields, nested at most `room` deep.  It holds its fields even where a value
that is such an object would embed a text. -/
def readDocument (room : Nat) : Tree → Except Fault Document
  | .object fields closed => do
    let vs ← fieldValues (some parse?) (room - 1) fields
    if closed then pure (KeyMap.ofList vs) else throw .malformed
  | t => .error t.unfit

/-- A list of items, each read in turn. -/
def readList {α : Type} (item : Tree → Except Fault α) : Tree → Except Fault (List α)
  | .array items closed => do
    let vs ← items.mapM item
    if closed then pure vs else throw .malformed
  | t => .error t.unfit

/-! ## Records -/

/-- The fields of a record: those that a list must have, and those at its end that it may lack. -/
structure Shape where
  fields : List String
  spare : List String
  deriving Repr

/-- The fields of a record in an object, each read where it stands. -/
def readFields {α : Type} (known : List String) (read : String → Tree → Except Fault α) :
    KeyMap α → List (Option String × Tree) → Except Fault (KeyMap α)
  | seen, [] => .ok seen
  | _, (none, _) :: _ => .error .malformed
  | seen, (some k, t) :: r =>
    if k ∈ known then
      if seen.contains k then .error .mismatch
      else do
        let v ← read k t
        readFields known read (seen.insert k v) r
    else if t.isSkippable then readFields known read seen r
    else .error .malformed

/-- The fields of a record in a list. -/
def readItems {α : Type} (spare : List String) (read : String → Tree → Except Fault α)
    (closed : Bool) : KeyMap α → List String → List Tree → Except Fault (KeyMap α)
  | seen, k :: ks, t :: ts => do
    let v ← read k t
    readItems spare read closed (seen.insert k v) ks ts
  | seen, ks, [] =>
    if closed then
      if ks.all (· ∈ spare) then .ok seen else .error .mismatch
    else .error .malformed
  | _, [], _ :: _ => .error .malformed

/-- The fields of a record. -/
def readRecord {α : Type} (shape : Shape) (read : String → Tree → Except Fault α) :
    Tree → Except Fault (KeyMap α)
  | .object fields closed => do
    let m ← readFields (shape.fields ++ shape.spare) read .empty fields
    if closed then pure m else throw .malformed
  | .array items closed =>
    readItems shape.spare read closed .empty (shape.fields ++ shape.spare) items
  | t => .error t.unfit

/-- A field that a record cannot do without. -/
def required {α : Type} (m : KeyMap α) (k : String) : Except Fault α :=
  match m.get? k with
  | some v => .ok v
  | none => .error .mismatch

end Tree

/-- What a text holds, when nothing but blanks follows. -/
def readText {α : Type} (read : Tree → Except Fault α) (text : String) : Except Fault α :=
  match Tree.read text with
  | (t, trailing) => do
    let v ← read t
    if trailing then throw .malformed else pure v

end CaptureTheFlag.Json
