import CaptureTheFlag.Json.Decoder
import CaptureTheFlag.Problem.Basic

/-!
# Search conditions

A condition on one field of a problem.  A search finds the problems that meet any of its conditions.

A condition is written as an object with a `field`, which names what is compared, and a `value`; or
as the list of the two.  In an object, the name may itself be written as an object from the name to
null.  The field may stand before or behind the value, and a fault is reported where the reader meets
it: a value in front is read whole and compared with the field afterwards.

* `Condition.isMetBy`: a problem meets a condition.
* `Condition.read`, `Condition.toJson`: reading and writing.
-/

namespace CaptureTheFlag

/-- A condition on one field of a problem. -/
inductive Condition where
  | name (s : String)
  | category (s : String)
  | tag (s : String)
  | autogen (b : Bool)
  | disabled (b : Bool)
  deriving DecidableEq, Repr

namespace Condition

/-- The problem meets the condition. -/
def isMetBy : Condition → Problem → Bool
  | .name s, p => p.name = s
  | .category s, p => p.category = s
  | .tag s, p => s ∈ p.tags
  | .autogen b, p => p.autogen = b
  | .disabled b, p => p.disabled = b

/-! ## Writing -/

/-- The condition as a JSON value. -/
def toJson (c : Condition) : Json :=
  let pair (field : String) (value : Json) : Json :=
    .object [("field", .string field), ("value", value)]
  match c with
  | .name s => pair "name" (.string s)
  | .category s => pair "category" (.string s)
  | .tag s => pair "tag" (.string s)
  | .autogen b => pair "autogen" (.bool b)
  | .disabled b => pair "disabled" (.bool b)

/-! ## Reading -/

open Json (Tree Fault)

/-- The fields that a condition can be on. -/
inductive Field where
  | name
  | category
  | tag
  | autogen
  | disabled
  deriving DecidableEq, Repr

def Field.ofString? : String → Option Field
  | "name" => some .name
  | "category" => some .category
  | "tag" => some .tag
  | "autogen" => some .autogen
  | "disabled" => some .disabled
  | _ => none

def Field.ofName (s : String) : Except Fault Field :=
  match Field.ofString? s with
  | some f => .ok f
  | none => .error .mismatch

/-- The name of a field in an object: the name, or an object from it to null. -/
def Field.read : Tree → Except Fault Field
  | .string (some s) => Field.ofName s
  | .object ((some s, t) :: r) closed => do
    let f ← Field.ofName s
    match t with
    | .null => if r.isEmpty && closed then pure f else throw .malformed
    | t => throw t.unfit
  | _ => .error .malformed

/-- The value that a condition on this field compares with. -/
def Field.readValue (f : Field) (t : Tree) : Except Fault Condition :=
  match f with
  | .name => Condition.name <$> t.readString
  | .category => Condition.category <$> t.readString
  | .tag => Condition.tag <$> t.readString
  | .autogen => Condition.autogen <$> t.readBool
  | .disabled => Condition.disabled <$> t.readBool

/-- What has been read of a condition's object. -/
inductive Part where
  | nothing
  | field (f : Field)
  | value (t : Tree)
  | whole (c : Condition)

/-- The fields of a condition's object, in their order.  Values nest at most `room` deep. -/
def readFields (room : Nat) : Part → List (Option String × Tree) → Except Fault Part
  | part, [] => .ok part
  | _, (none, _) :: _ => .error .malformed
  | part, (some "field", t) :: r =>
    match part with
    | .nothing => do readFields room (.field (← Field.read t)) r
    | .value v => do
      let f ← Field.read t
      readFields room (.whole (← f.readValue v)) r
    | _ => .error .mismatch
  | part, (some "value", t) :: r =>
    match part with
    | .nothing => do
      let _ ← t.value none room
      readFields room (.value t) r
    | .field f => do readFields room (.whole (← f.readValue t)) r
    | _ => .error .mismatch
  | part, (some _, t) :: r =>
    if t.isSkippable then readFields room part r else .error .malformed

/-- A condition whose value nests at most `room` deep. -/
def read (room : Nat) : Tree → Except Fault Condition
  | .object fields closed => do
    match ← readFields room .nothing fields with
    | .whole c => if closed then pure c else throw .malformed
    | _ => if closed then throw .mismatch else throw .malformed
  | .array items closed =>
    let short : Fault := if closed then .mismatch else .malformed
    match items with
    | [] => .error short
    | [f] => do
      let _ ← Field.ofName (← f.readString)
      throw short
    | f :: v :: r => do
      let c ← (← Field.ofName (← f.readString)).readValue v
      if r.isEmpty && closed then pure c else throw .malformed
  | t => .error t.unfit

end Condition

end CaptureTheFlag
