import CaptureTheFlag.Regex.Syntax
import CaptureTheFlag.Text.Blank
import CaptureTheFlag.Text.Hex

/-!
# Escapes in patterns

What may stand behind a backslash, and how blanks and comments are skipped where they do not count.
A reader takes the characters that are left and gives what it has read with those that are then left;
it gives nothing if the pattern is wrong.
-/

namespace CaptureTheFlag.Regex

/-! ## Blanks and comments -/

/-- The characters behind blanks and comments; a comment goes to the end of its line. -/
def skipBlanks (inComment : Bool) : List Char → List Char
  | [] => []
  | c :: r =>
    if inComment then skipBlanks (c ≠ '\n') r
    else if Text.isBlank c then skipBlanks false r
    else if c = '#' then skipBlanks true r
    else c :: r

/-- The characters behind blanks and comments, where these do not count. -/
def skip (extended : Bool) (cs : List Char) : List Char :=
  if extended then skipBlanks false cs else cs

/-- At most `limit` characters of a kind, and what follows; blanks and comments are skipped where
they do not count. -/
def gatherFrom (extended : Bool) (kind : Char → Bool) (inComment : Bool) (limit : Nat) :
    List Char → List Char × List Char
  | [] => ([], [])
  | c :: r =>
    if inComment then gatherFrom extended kind (c ≠ '\n') limit r
    else if extended && Text.isBlank c then gatherFrom extended kind false limit r
    else if extended && c = '#' then gatherFrom extended kind true limit r
    else if 0 < limit && kind c then
      let (found, rest) := gatherFrom extended kind false (limit - 1) r
      (c :: found, rest)
    else ([], c :: r)

/-- All characters of a kind, and what follows. -/
def gather (extended : Bool) (kind : Char → Bool) (cs : List Char) : List Char × List Char :=
  gatherFrom extended kind false cs.length cs

/-! ## Characters by number -/

def isHexDigit (c : Char) : Bool := (Text.Hex.value? c).isSome

/-- The character with a number in hexadecimal. -/
def charOfHex? (ds : List Char) : Option Char := do
  if ds.isEmpty then none
  let n ← ds.foldlM (fun n c => (Text.Hex.value? c).map fun d => 16 * n + d) 0
  if n.isValidChar then some (Char.ofNat n) else none

/-- A character by its number: in braces, or with a fixed number of digits.  Two digits make an
octet. -/
def readHex (extended : Bool) (digits : Nat) (cs : List Char) : Option (Atom × List Char) :=
  match skip extended cs with
  | [] => none
  | '\x7b' :: r =>
    match gather extended (· ≠ '\x7d') r with
    | (ds, '\x7d' :: r) => (charOfHex? ds).map fun c => (.literal c, skip extended r)
    | _ => none
  | cs =>
    let (ds, r) := gatherFrom extended isHexDigit false digits cs
    if ds.length = digits then
      (charOfHex? ds).map fun c => (if digits = 2 then .octet c else .literal c, r)
    else none

/-! ## Properties -/

/-- The characters before and behind the first occurrence of a word. -/
def cutAt? (word : List Char) : List Char → Option (List Char × List Char)
  | [] => none
  | c :: r =>
    if word.isPrefixOf (c :: r) then some ([], (c :: r).drop word.length)
    else (cutAt? word r).map fun (a, b) => (c :: a, b)

/-- A property between braces, and whether it is negated. -/
def propertyOf (name : List Char) : PropertyName × Bool :=
  let valued (parts : List Char × List Char) : PropertyName :=
    .valued (String.ofList parts.1) (String.ofList parts.2)
  match cutAt? ['!', '='] name with
  | some parts => (valued parts, true)
  | none =>
    match cutAt? [':'] name with
    | some parts => (valued parts, false)
    | none =>
      match cutAt? ['='] name with
      | some parts => (valued parts, false)
      | none => (.plain (String.ofList name), false)

/-- A property by its name in braces, or by a name of one letter. -/
def readProperty (extended negated : Bool) (cs : List Char) : Option (Atom × List Char) :=
  match skip extended cs with
  | [] => none
  | '\x7b' :: r =>
    match gather extended (· ≠ '\x7d') r with
    | (name, '\x7d' :: r) =>
      let (p, differs) := propertyOf name
      some (.property p (negated ^^ differs), r)
    | _ => none
  | '\\' :: _ => none
  | c :: r => some (.property (.plain (String.singleton c)) negated, skip extended r)

/-! ## Assertions of words -/

/-- The assertions between braces. -/
def wordAssertion? (name : List Char) : Option Assertion :=
  match String.ofList name with
  | "start" => some .wordStart
  | "end" => some .wordEnd
  | "start-half" => some .wordStartHalf
  | "end-half" => some .wordEndHalf
  | _ => none

/-- An assertion of a word's boundary; braces behind it may say which.  Braces that hold no letters
are no part of it. -/
def readWordBoundary (extended : Bool) (cs : List Char) : Option (Assertion × List Char) :=
  let isNameChar (c : Char) : Bool := c.isAlpha || c = '-'
  match cs with
  | '\x7b' :: r =>
    match skip extended r with
    | [] => none
    | c :: r =>
      if isNameChar c then
        match gather extended isNameChar (c :: r) with
        | (name, '\x7d' :: r) => (wordAssertion? name).map fun a => (a, r)
        | _ => none
      else some (.wordBoundary, cs)
  | cs => some (.wordBoundary, cs)

/-! ## What stands behind a backslash -/

/-- The characters that stand for themselves behind a backslash: those of ASCII other than digits,
letters and angle brackets. -/
def isEscapable (c : Char) : Bool :=
  c.toNat < 128 && !c.isAlphanum && c ≠ '<' && c ≠ '>'

/-- What stands behind a backslash. -/
def readEscape (extended : Bool) (cs : List Char) : Option (Atom × List Char) :=
  match cs with
  | [] => none
  | c :: r =>
    let literal (n : Nat) : Option (Atom × List Char) := some (.literal (Char.ofNat n), r)
    match c with
    | 'x' => readHex extended 2 r
    | 'u' => readHex extended 4 r
    | 'U' => readHex extended 8 r
    | 'p' => readProperty extended false r
    | 'P' => readProperty extended true r
    | 'd' => some (.letter .digit false, r)
    | 'D' => some (.letter .digit true, r)
    | 's' => some (.letter .space false, r)
    | 'S' => some (.letter .space true, r)
    | 'w' => some (.letter .word false, r)
    | 'W' => some (.letter .word true, r)
    | 'a' => literal 7
    | 'f' => literal 12
    | 't' => literal 9
    | 'n' => literal 10
    | 'r' => literal 13
    | 'v' => literal 11
    | 'A' => some (.assertion .textStart, r)
    | 'z' => some (.assertion .textEnd, r)
    | 'b' => (readWordBoundary extended r).map fun (a, r) => (.assertion a, r)
    | 'B' => some (.assertion .noWordBoundary, r)
    | '<' => some (.assertion .wordStart, r)
    | '>' => some (.assertion .wordEnd, r)
    | c => if isEscapable c then some (.literal c, r) else none

end CaptureTheFlag.Regex
