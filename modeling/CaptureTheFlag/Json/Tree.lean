import CaptureTheFlag.Json.Token

/-!
# JSON text as a tree, faults included

Text that is not JSON, or is JSON that no value can stand for, is read all the same: the tree has
everything up to the first fault, and the fault in its place.  A reader that looks for something in
particular then finds either what it looks for or the fault, whichever comes first in the text.

* `Tree.read`: the tree of a text, and whether anything but blanks follows it.
* `Tree.value`: the value of a tree that is not nested too deeply, or its first fault.
* `Tree.isSkippable`: the tree may stand where its value does not matter.
* `Json.parse?`: the value of a text.
-/

namespace CaptureTheFlag.Json

/-- Why data cannot be read from a text. -/
inductive Fault where
  /-- The text is not JSON, or a value in it cannot be represented. -/
  | malformed
  /-- The text is JSON, but not of the shape wanted. -/
  | mismatch
  deriving DecidableEq, Repr

/-- JSON text, read up to its first fault. -/
inductive Tree where
  | null
  | bool (b : Bool)
  | integer (n : Int)
  | real (negative : Bool) (digits : Nat) (exponent : Int)
  /-- A number out of range. -/
  | huge
  /-- A text; none if half of a surrogate pair stands alone in it. -/
  | string (s : Option String)
  /-- The items, and whether the list is properly closed behind them. -/
  | array (items : List Tree) (closed : Bool)
  /-- The fields, and whether the object is properly closed behind them. -/
  | object (fields : List (Option String × Tree)) (closed : Bool)
  /-- No value begins here. -/
  | broken
  deriving Inhabited, Repr

namespace Tree

/-! ## Reading -/

/-- A list or an object that is not closed yet, its last part first. -/
inductive Frame where
  | array (items : List Tree)
  | object (fields : List (Option String × Tree))
  /-- An object behind a key. -/
  | field (fields : List (Option String × Tree)) (key : Option String)

/-- What may come next. -/
inductive Expected where
  | value
  /-- A first item, or the end of the list. -/
  | itemOrClose
  | commaOrClose
  /-- A first key, or the end of the object. -/
  | keyOrClose
  | key
  | colon
  /-- Nothing, the tree being whole. -/
  | nothing
  deriving DecidableEq

/-- The lists and objects around the place reached, the innermost first. -/
structure Builder where
  pending : List Frame
  expected : Expected
  /-- The tree, once it is whole. -/
  whole : Tree
  /-- Something follows the whole tree. -/
  trailing : Bool
  /-- No value can begin or go on after a fault. -/
  failed : Bool

namespace Builder

def start : Builder := ⟨[], .value, .broken, false, false⟩

/-- A value in its place. -/
def put (b : Builder) (t : Tree) : Builder :=
  match b.pending with
  | [] => { b with whole := t, expected := .nothing }
  | .array items :: r => { b with pending := .array (t :: items) :: r, expected := .commaOrClose }
  | .field fields k :: r =>
    { b with pending := .object ((k, t) :: fields) :: r, expected := .commaOrClose }
  | .object _ :: _ => b

/-- The innermost list or object ends. -/
def close (b : Builder) (closed : Bool) : Builder :=
  match b.pending with
  | [] => b
  | .array items :: r => { b with pending := r }.put (.array items.reverse closed)
  | .object fields :: r => { b with pending := r }.put (.object fields.reverse closed)
  | .field fields k :: r =>
    { b with pending := r }.put (.object (List.reverse ((k, .broken) :: fields)) closed)

/-- Everything open ends unclosed. -/
def closeAll : Nat → Builder → Builder
  | 0, b => b
  | n + 1, b => closeAll n (b.close false)

/-- A fault: a value that is expected is broken, and all that is open stays unclosed. -/
def fail (b : Builder) : Builder :=
  let b' :=
    if b.expected = .value then b.put .broken else b
  { closeAll b'.pending.length b' with failed := true }

def push (b : Builder) (f : Frame) (e : Expected) : Builder :=
  { b with pending := f :: b.pending, expected := e }

/-- A token where a value is expected. -/
def value (b : Builder) : Token → Builder
  | .null => b.put .null
  | .bool v => b.put (.bool v)
  | .number (.integer n) => b.put (.integer n)
  | .number (.real negative digits exponent) => b.put (.real negative digits exponent)
  | .number .huge => b.put .huge
  | .string s => b.put (.string s)
  | .openArray => b.push (.array []) .itemOrClose
  | .openObject => b.push (.object []) .keyOrClose
  | _ => b.fail

/-- A token where a key is expected. -/
def key (b : Builder) (t : Token) : Builder :=
  match t, b.pending with
  | .string s, .object fields :: r =>
    { b with pending := .field fields s :: r, expected := .colon }
  | _, _ => b.fail

/-- A token behind an item or a field. -/
def separator (b : Builder) (t : Token) : Builder :=
  match t, b.pending with
  | .comma, .array _ :: _ => { b with expected := .value }
  | .comma, .object _ :: _ => { b with expected := .key }
  | .closeArray, .array _ :: _ => b.close true
  | .closeObject, .object _ :: _ => b.close true
  | _, _ => b.fail

/-- One token. -/
def step (b : Builder) (t : Token) : Builder :=
  if b.failed then b
  else
    match b.expected with
    | .value => b.value t
    | .itemOrClose => if t = .closeArray then b.close true else b.value t
    | .keyOrClose => if t = .closeObject then b.close true else b.key t
    | .key => b.key t
    | .colon => if t = .colon then { b with expected := .value } else b.fail
    | .commaOrClose => b.separator t
    | .nothing => { b with trailing := true }

/-- The tree, when the tokens end. -/
def finish (b : Builder) : Builder :=
  if b.failed ∨ b.expected = .nothing then b else b.fail

end Builder

/-- The tree of a text, and whether anything but blanks follows it. -/
def read (text : String) : Tree × Bool :=
  let b := ((Token.scan text).foldl Builder.step .start).finish
  (b.whole, b.trailing)

/-! ## Values -/

/-- The fault of a tree that is not of the kind wanted. -/
def unfit : Tree → Fault
  | .broken | .huge | .string none => .malformed
  | _ => .mismatch

def readString : Tree → Except Fault String
  | .string (some s) => .ok s
  | t => .error t.unfit

/-- An object whose first key is this one embeds the value of a JSON text, which is all that it
holds. -/
def embeddingKey : String := "$serde_json::private::RawValue"

/-- What an object embeds, if it does, and whether it has more than that. -/
def embedded? (fields : List (Option String × Tree)) : Option (Tree × Bool) :=
  match fields with
  | (some k, t) :: r => if k = embeddingKey then some (t, !r.isEmpty) else none
  | _ => none

/-- The value of an object that embeds a text. -/
def embeddedValue (parse : String → Option Json) (t : Tree) (whole : Bool) :
    Except Fault Json := do
  match parse (← t.readString) with
  | none => throw .mismatch
  | some v => if whole then pure v else throw .malformed

mutual

/-- The value of a tree nested at most `room` deep, or its first fault.  Embedded texts are read by
`parse`, if they are to be read at all. -/
def value (parse : Option (String → Option Json)) (room : Nat) : Tree → Except Fault Json
  | .null => .ok .null
  | .bool b => .ok (.bool b)
  | .integer n => .ok (.integer n)
  | .real negative digits exponent => .ok (.real negative digits exponent)
  | .huge => .error .malformed
  | .string (some s) => .ok (.string s)
  | .string none => .error .malformed
  | .array items closed =>
    if room = 0 then .error .malformed
    else
      match itemValues parse (room - 1) items with
      | .ok vs => if closed then .ok (.array vs) else .error .malformed
      | .error f => .error f
  | .object fields closed =>
    if room = 0 then .error .malformed
    else
      match parse, embedded? fields with
      | some parse, some (t, more) => embeddedValue parse t (closed && !more)
      | _, _ =>
        match fieldValues parse (room - 1) fields with
        | .ok vs => if closed then .ok (.ofFields vs) else .error .malformed
        | .error f => .error f
  | .broken => .error .malformed

/-- The values of some trees. -/
def itemValues (parse : Option (String → Option Json)) (room : Nat) :
    List Tree → Except Fault (List Json)
  | [] => .ok []
  | t :: r =>
    match t.value parse room with
    | .error f => .error f
    | .ok v =>
      match itemValues parse room r with
      | .error f => .error f
      | .ok vs => .ok (v :: vs)

/-- The keys and values of some fields. -/
def fieldValues (parse : Option (String → Option Json)) (room : Nat) :
    List (Option String × Tree) → Except Fault (List (String × Json))
  | [] => .ok []
  | (none, _) :: _ => .error .malformed
  | (some k, t) :: r =>
    match t.value parse room with
    | .error f => .error f
    | .ok v =>
      match fieldValues parse room r with
      | .error f => .error f
      | .ok vs => .ok ((k, v) :: vs)

end

mutual

/-- The tree is JSON, though its numbers may be out of range, its texts may have unpaired
surrogates, and it may be nested deeply. -/
def isSkippable : Tree → Bool
  | .array items closed => closed && areSkippable items
  | .object fields closed => closed && fieldsAreSkippable fields
  | .broken => false
  | _ => true

def areSkippable : List Tree → Bool
  | [] => true
  | t :: r => t.isSkippable && areSkippable r

def fieldsAreSkippable : List (Option String × Tree) → Bool
  | [] => true
  | (_, t) :: r => t.isSkippable && fieldsAreSkippable r

end

mutual

/-- The tree of a value. -/
def ofValue : Json → Tree
  | .null => .null
  | .bool b => .bool b
  | .integer n => .integer n
  | .real negative digits exponent => .real negative digits exponent
  | .string s => .string (some s)
  | .array items => .array (ofItems items) true
  | .object fields => .object (ofFields fields) true

def ofItems : List Json → List Tree
  | [] => []
  | v :: r => ofValue v :: ofItems r

def ofFields : List (String × Json) → List (Option String × Tree)
  | [] => []
  | (k, v) :: r => (some k, ofValue v) :: ofFields r

end

end Tree

/-- Lists and objects may be nested this deep. -/
def depthLimit : Nat := 127

/-- The value of a text in which texts are embedded less than `layers` deep. -/
def parseLayers? : Nat → String → Option Json
  | 0, _ => none
  | layers + 1, text =>
    match Tree.read text with
    | (t, false) => (t.value (some (parseLayers? layers)) depthLimit).toOption
    | (_, true) => none

/-- The value of a text.  A text is longer than one that it embeds. -/
def parse? (text : String) : Option Json := parseLayers? (text.length + 1) text

end CaptureTheFlag.Json
