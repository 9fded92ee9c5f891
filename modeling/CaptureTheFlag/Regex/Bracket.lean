import CaptureTheFlag.Regex.Escape

/-!
# Sets in brackets

A set lists characters, ranges, classes and further sets, which are united.  Unions may be joined by
`&&`, `--` and `~~`, from left to right.  A caret at the beginning negates the set; hyphens that
follow, or else a closing bracket, stand for themselves.
-/

namespace CaptureTheFlag.Regex

/-! ## Named classes -/

/-- The classes of ASCII characters with a name. -/
def asciiClasses : List (String × List (Nat × Nat)) := [
  ("alnum", [(0x30, 0x39), (0x41, 0x5A), (0x61, 0x7A)]),
  ("alpha", [(0x41, 0x5A), (0x61, 0x7A)]),
  ("ascii", [(0, 0x7F)]),
  ("blank", [(9, 9), (0x20, 0x20)]),
  ("cntrl", [(0, 0x1F), (0x7F, 0x7F)]),
  ("digit", [(0x30, 0x39)]),
  ("graph", [(0x21, 0x7E)]),
  ("lower", [(0x61, 0x7A)]),
  ("print", [(0x20, 0x7E)]),
  ("punct", [(0x21, 0x2F), (0x3A, 0x40), (0x5B, 0x60), (0x7B, 0x7E)]),
  ("space", [(9, 0xD), (0x20, 0x20)]),
  ("upper", [(0x41, 0x5A)]),
  ("word", [(0x30, 0x39), (0x41, 0x5A), (0x5F, 0x5F), (0x61, 0x7A)]),
  ("xdigit", [(0x30, 0x39), (0x41, 0x46), (0x61, 0x66)])]

/-- The class with a name. -/
def asciiClass? (name : List Char) : Option CharSet :=
  (asciiClasses.find? fun e => e.1.toList = name).map fun e => ⟨e.2⟩

/-- A class between colons, behind an opening bracket; if it is none, the bracket opens a set. -/
def readAsciiClass (cs : List Char) : Option (ClassSet × List Char) :=
  match cs with
  | ':' :: r =>
    let (negated, r) :=
      match r with
      | '^' :: r => (true, r)
      | r => (false, r)
    let name := r.takeWhile (· ≠ ':')
    match r.drop name.length with
    | ':' :: ']' :: r => (asciiClass? name).map fun s => (.ascii s negated, r)
    | _ => none
  | _ => none

/-! ## Items -/

/-- A character or an escape. -/
def readSetItem (extended : Bool) : List Char → Option (Atom × List Char)
  | [] => none
  | '\\' :: r => readEscape extended r
  | c :: r => some (.literal c, r)

/-- An atom as a member of a set. -/
def memberOf? : Atom → Option ClassSet
  | .literal c | .octet c => some (.range c c)
  | .letter k negated => some (.letter k negated)
  | .property name negated => some (.property name negated)
  | _ => none

/-- The next character that counts, where blanks do not; the first one behind a hash counts, and if
only blanks follow, so does the first of them. -/
def peekBlanks (cs : List Char) : Option Char :=
  match cs.dropWhile Text.isBlank with
  | [] => cs.head?
  | '#' :: r =>
    match r.dropWhile Text.isBlank with
    | [] => cs.head?
    | c :: _ => some c
  | c :: _ => some c

/-- The next character that counts. -/
def peek (extended : Bool) (cs : List Char) : Option Char :=
  if extended then peekBlanks cs else cs.head?

/-- The range between two characters. -/
def rangeOf? (lo hi : Atom) : Option ClassSet :=
  match lo.char?, hi.char? with
  | some a, some b => if a ≤ b then some (.range a b) else none
  | _, _ => none

/-- A member of a set, or a range.  A hyphen makes no range before a closing bracket or another
hyphen. -/
def readSetRange (extended : Bool) (cs : List Char) : Option (ClassSet × List Char) := do
  let (a, r) ← readSetItem extended cs
  match skip extended r with
  | [] => none
  | '-' :: r =>
    if peek extended r = some ']' || peek extended r = some '-' then
      (memberOf? a).map fun s => (s, '-' :: r)
    else do
      let (b, r) ← readSetItem extended (skip extended r)
      (rangeOf? a b).map fun s => (s, r)
  | r => (memberOf? a).map fun s => (s, r)

/-! ## Sets -/

/-- The union of some members, the last first. -/
def unionOf : List ClassSet → ClassSet
  | [] => .empty
  | [a] => a
  | a :: r => .union (unionOf r) a

/-- What is still open around the place reached. -/
inductive SetFrame where
  /-- A set, with the members of the set around it. -/
  | bracket (outer : List ClassSet) (negated : Bool)
  /-- A joint, with what stands to the left of it. -/
  | joint (op : SetOp) (left : ClassSet)

/-- The beginning of a set behind its bracket: whether it is negated, and its first members. -/
def readSetOpening (extended : Bool) (cs : List Char) :
    Option (Bool × List ClassSet × List Char) :=
  let (negated, cs) :=
    match skip extended cs with
    | '^' :: r => (true, skip extended r)
    | r => (false, r)
  let (hyphens, cs) := gather extended (· = '-') cs
  match hyphens, cs with
  | [], ']' :: r => some (negated, [.range ']' ']'], skip extended r)
  | _, cs => some (negated, hyphens.map fun c => .range c c, cs)

/-- The joint on top of what is open takes its right side. -/
def closeJoint (right : ClassSet) : List SetFrame → ClassSet × List SetFrame
  | .joint op left :: r => (.join op left right, r)
  | frames => (right, frames)

/-- The operation that two equal characters stand for. -/
def setOp? : Char → Option SetOp
  | '&' => some .intersection
  | '-' => some .difference
  | '~' => some .symmetricDifference
  | _ => none

/-- The operation that a text starts with, and what follows. -/
def readSetOp : List Char → Option (SetOp × List Char)
  | c :: d :: r => if c = d then (setOp? c).map fun op => (op, r) else none
  | _ => none

/-- The members of a set up to its closing bracket, with sets inside it. -/
def readMembers (extended : Bool) : Nat → List SetFrame → List ClassSet → List Char →
    Option (Atom × List Char)
  | 0, _, _, _ => none
  | n + 1, frames, members, cs =>
    match skip extended cs with
    | [] => none
    | '[' :: r =>
      match readAsciiClass r with
      | some (s, r) => readMembers extended n frames (s :: members) r
      | none => do
        let (negated, first, r) ← readSetOpening extended r
        readMembers extended n (.bracket members negated :: frames) first r
    | ']' :: r =>
      let (inner, frames) := closeJoint (unionOf members) frames
      match frames with
      | [.bracket _ negated] => some (.bracketed negated inner, r)
      | .bracket outer negated :: frames =>
        readMembers extended n frames (.bracketed negated inner :: outer) r
      | _ => none
    | c :: r =>
      match readSetOp (c :: r) with
      | some (op, r) =>
        let (left, frames) := closeJoint (unionOf members) frames
        readMembers extended n (.joint op left :: frames) [] r
      | none => do
        let (s, r) ← readSetRange extended (c :: r)
        readMembers extended n frames (s :: members) r

/-- A set, behind its opening bracket. -/
def readSet (extended : Bool) (cs : List Char) : Option (Atom × List Char) := do
  let (negated, first, r) ← readSetOpening extended cs
  readMembers extended (r.length + 1) [.bracket [] negated] first r

end CaptureTheFlag.Regex
