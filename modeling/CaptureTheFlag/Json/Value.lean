import CaptureTheFlag.KeyMap

/-!
# JSON values

A value of the JSON data format.  A number is an integer if it was written without a fraction and an
exponent and fits 64 bits with or without a sign; every other number is a real, kept as it was
written.  The fields of an object stand in ascending order of their keys, each key once.

* `Json.ofFields`: the object of a list of pairs, where the later of two equal keys counts.
* `Document`: an object as a map.
-/

namespace CaptureTheFlag

/-- A JSON value. -/
inductive Json where
  | null
  | bool (b : Bool)
  | integer (n : Int)
  /-- The number `digits * 10 ^ exponent`, with its sign. -/
  | real (negative : Bool) (digits : Nat) (exponent : Int)
  | string (s : String)
  | array (items : List Json)
  | object (fields : List (String × Json))
  deriving Inhabited, Repr

/-- The fields of an object by their keys. -/
abbrev Document := KeyMap Json

namespace Json

/-- The object with these fields; of two fields with one key, the later counts. -/
def ofFields (fields : List (String × Json)) : Json :=
  .object (KeyMap.ofList fields).entries

/-- The object of a document. -/
def ofDocument (d : Document) : Json := .object d.entries

/-- The value of an object as a document. -/
def document? : Json → Option Document
  | .object fields => some (KeyMap.ofList fields)
  | _ => none

/-- A text, if the value is one. -/
def string? : Json → Option String
  | .string s => some s
  | _ => none

/-- A truth value, if the value is one. -/
def bool? : Json → Option Bool
  | .bool b => some b
  | _ => none

/-- The items, if the value is a list. -/
def array? : Json → Option (List Json)
  | .array items => some items
  | _ => none

/-- An integer that fits 64 bits with a sign, if the value is one. -/
def int64? : Json → Option Int64
  | .integer n =>
    if Int64.minValue.toInt ≤ n ∧ n ≤ Int64.maxValue.toInt then some (Int64.ofInt n) else none
  | _ => none

/-- A natural number, if the value is one. -/
def nat? : Json → Option Nat
  | .integer (.ofNat n) => some n
  | _ => none

/-- The value under a key, if the value is an object with that key. -/
def field? (j : Json) (k : String) : Option Json :=
  match j with
  | .object fields => KeyMap.lookup? k fields
  | _ => none

/-- The value of a 64-bit integer. -/
def ofInt64 (n : Int64) : Json := .integer n.toInt

/-- The value of a text that may be absent. -/
def ofString? : Option String → Json
  | none => .null
  | some s => .string s

/-- The list of some texts. -/
def ofStrings (l : List String) : Json := .array (l.map .string)

/-- An integer of 64 bits reads back. -/
@[simp] theorem int64?_ofInt64 (n : Int64) : (ofInt64 n).int64? = some n := by
  have h₁ : Int64.minValue.toInt ≤ n.toInt := Int64.minValue_le_toInt n
  have h₂ : n.toInt ≤ Int64.maxValue.toInt := Int64.toInt_le n
  simp only [ofInt64, int64?, Int64.ofInt_toInt]
  exact if_pos ⟨h₁, h₂⟩

/-- A document reads back. -/
@[simp] theorem document?_ofDocument (d : Document) : (ofDocument d).document? = some d :=
  congrArg some d.ofList_entries

end Json

end CaptureTheFlag
