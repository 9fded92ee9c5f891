/-!
# Text as octets

UTF-8 in both directions.  Writing is total.  Reading comes in two forms, which walk through the
octets with the same machine: `decode?` refuses what is not UTF-8, and `decodeReplacing` puts the
character U+FFFD for every longest run of octets that starts a character and does not finish it.
-/

namespace CaptureTheFlag.Text

/-- The octets of a text in UTF-8. -/
def utf8 (s : String) : List UInt8 :=
  s.toList.flatMap String.utf8EncodeChar

namespace Utf8

/-- Where the machine stands: between two characters, or inside one, with the number of octets
still owed, the least and the greatest octet that may follow, and the code point so far. -/
inductive State where
  | between
  | inside (owed : Nat) (least greatest : Nat) (sofar : Nat)
  deriving DecidableEq

/-- What one octet does: a character ends, the machine goes on, or the octet cannot follow. -/
inductive Step where
  | emit (c : Char)
  | goOn (s : State)
  | refuse

/-- The step at the first octet of a character. -/
def first (b : Nat) : Step :=
  if b ≤ 0x7F then .emit (Char.ofNat b)
  else if 0xC2 ≤ b ∧ b ≤ 0xDF then .goOn (.inside 1 0x80 0xBF (b - 0xC0))
  else if b = 0xE0 then .goOn (.inside 2 0xA0 0xBF 0)
  else if b = 0xED then .goOn (.inside 2 0x80 0x9F 0xD)
  else if 0xE1 ≤ b ∧ b ≤ 0xEF then .goOn (.inside 2 0x80 0xBF (b - 0xE0))
  else if b = 0xF0 then .goOn (.inside 3 0x90 0xBF 0)
  else if 0xF1 ≤ b ∧ b ≤ 0xF3 then .goOn (.inside 3 0x80 0xBF (b - 0xF0))
  else if b = 0xF4 then .goOn (.inside 3 0x80 0x8F 4)
  else .refuse

/-- One octet. -/
def State.step : State → Nat → Step
  | .between, b => first b
  | .inside owed least greatest sofar, b =>
    if least ≤ b ∧ b ≤ greatest then
      let n := sofar * 64 + (b - 0x80)
      if owed ≤ 1 then .emit (Char.ofNat n) else .goOn (.inside (owed - 1) 0x80 0xBF n)
    else .refuse

/-- The characters of a list of octets, the last one first, if it is UTF-8. -/
def read? : State → List Char → List UInt8 → Option (List Char)
  | .between, acc, [] => some acc
  | .inside .., _, [] => none
  | s, acc, b :: bs =>
    match s.step b.toNat with
    | .emit c => read? .between (c :: acc) bs
    | .goOn s' => read? s' acc bs
    | .refuse => none

/-- The character that stands for octets that are no character. -/
def replacement : Char := Char.ofNat 0xFFFD

/-- The characters of a list of octets, the last one first.  An octet that cannot follow inside a
character closes it as one replacement and is read again as a first octet. -/
def readReplacing : State → List Char → List UInt8 → List Char
  | .between, acc, [] => acc
  | .inside .., acc, [] => replacement :: acc
  | s, acc, b :: bs =>
    match s.step b.toNat with
    | .emit c => readReplacing .between (c :: acc) bs
    | .goOn s' => readReplacing s' acc bs
    | .refuse =>
      match s with
      | .between => readReplacing .between (replacement :: acc) bs
      | .inside .. =>
        match first b.toNat with
        | .emit c => readReplacing .between (c :: replacement :: acc) bs
        | .goOn s' => readReplacing s' (replacement :: acc) bs
        | .refuse => readReplacing .between (replacement :: replacement :: acc) bs

end Utf8

/-- The text with these octets, if they are UTF-8. -/
def decode? (bs : List UInt8) : Option String :=
  (Utf8.read? .between [] bs).map fun cs => String.ofList cs.reverse

/-- The text with these octets, with U+FFFD for what is not UTF-8. -/
def decodeReplacing (bs : List UInt8) : String :=
  String.ofList (Utf8.readReplacing .between [] bs).reverse

end CaptureTheFlag.Text
