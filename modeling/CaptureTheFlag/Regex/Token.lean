import CaptureTheFlag.Regex.Bracket
import CaptureTheFlag.Unicode.Category
import CaptureTheFlag.Unicode.Property

/-!
# Tokens of patterns

A pattern is cut into tokens from left to right.  Whether blanks count is a flag, so the cutting keeps
track of the groups that are open.

* `Token.scan?`: the tokens of a pattern.
-/

namespace CaptureTheFlag.Regex

/-- The parts that a pattern is cut into. -/
inductive Token where
  | opening (changes : FlagChanges) (captures : Bool) (name : Option String)
  /-- Flags changed for the rest of the group. -/
  | flags (changes : FlagChanges)
  | closing
  | bar
  | repetition (min : Nat) (max : Option Nat) (greedy : Bool)
  | atom (a : Atom)
  deriving DecidableEq, Repr

namespace Token

/-! ## Groups -/

/-- The letter of a flag. -/
def flag? : Char → Option Flag
  | 'i' => some .ignoreCase
  | 'm' => some .multiLine
  | 's' => some .dotAll
  | 'U' => some .swapGreed
  | 'u' => some .unicode
  | 'R' => some .crlf
  | 'x' => some .extended
  | _ => none

/-- Flags up to a colon or a closing parenthesis, each at most once.  Those behind a minus are
switched off, and there is at least one of them. -/
def readFlags (changes : FlagChanges) (negated dangling : Bool) :
    List Char → Option (FlagChanges × List Char)
  | [] => none
  | c :: r =>
    if c = ':' || c = ')' then
      if dangling then none else some (changes.reverse, c :: r)
    else if c = '-' then
      if negated then none else readFlags changes true true r
    else
      match flag? c with
      | none => none
      | some f =>
        if changes.any (·.1 = f) then none
        else readFlags ((f, !negated) :: changes) negated false r

def isIn (s : Option CharSet) (c : Char) : Bool := s.any (·.contains c)

/-- The character is a letter. -/
def isAlphabetic (c : Char) : Bool :=
  if c.toNat < 128 then c.isAlpha else isIn (Unicode.property? "alphabetic") c

/-- The character is a letter or a number. -/
def isAlphanumeric (c : Char) : Bool :=
  if c.toNat < 128 then c.isAlphanum
  else isAlphabetic c || isIn (Unicode.category? "n") c

/-- A group's name starts with a letter or an underscore. -/
def isNameStart (c : Char) : Bool := c = '_' || isAlphabetic c

def isNameChar (c : Char) : Bool := c ∈ ['_', '.', '[', ']'] || isAlphanumeric c

/-- A group's name, up to its closing bracket. -/
def readName (cs : List Char) : Option (String × List Char) :=
  let name := cs.takeWhile (· ≠ '>')
  match name, cs.drop name.length with
  | c :: more, '>' :: r =>
    if isNameStart c && more.all isNameChar then some (String.ofList name, r) else none
  | _, _ => none

/-- A group's opening, or a change of flags, behind the parenthesis. -/
def readOpening (extended : Bool) (cs : List Char) : Option (Token × List Char) :=
  let named (cs : List Char) : Option (Token × List Char) :=
    (readName cs).map fun (name, r) => (.opening [] true (some name), r)
  match skip extended cs with
  | '?' :: '=' :: _ | '?' :: '!' :: _ | '?' :: '<' :: '=' :: _ | '?' :: '<' :: '!' :: _ => none
  | '?' :: 'P' :: '<' :: r => named r
  | '?' :: '<' :: r => named r
  | '?' :: r =>
    match readFlags [] false false r with
    | some (changes, ':' :: r) => some (.opening changes false none, r)
    | some (changes, ')' :: r) => if changes.isEmpty then none else some (.flags changes, r)
    | _ => none
  | r => some (.opening [] true none, r)

/-! ## Repetitions -/

/-- A number below `2 ^ 32`, with blanks around it. -/
def readDecimal (extended : Bool) (cs : List Char) : Option (Nat × List Char) :=
  let (ds, r) := gather extended Char.isDigit (cs.dropWhile Text.isBlank)
  let n := ds.foldl (fun n d => 10 * n + (d.toNat - 48)) 0
  if ds.isEmpty || Nat.pow 2 32 ≤ n then none else some (n, r.dropWhile Text.isBlank)

/-- A repetition, behind its bounds; a question mark there prefers the fewest. -/
def repetitionOf (min : Nat) (max : Option Nat) : List Char → Token × List Char
  | '?' :: r => (.repetition min max false, r)
  | r => (.repetition min max true, r)

/-- The bounds of a repetition, behind the brace. -/
def readBounds (extended : Bool) (cs : List Char) : Option (Token × List Char) := do
  let (min, r) ← readDecimal extended (skip extended cs)
  match r with
  | '\x7d' :: r => some (repetitionOf min (some min) (skip extended r))
  | ',' :: r =>
    match skip extended r with
    | '\x7d' :: r => some (repetitionOf min none (skip extended r))
    | r => do
      let (max, r) ← readDecimal extended r
      match r with
      | '\x7d' :: r =>
        if min ≤ max then some (repetitionOf min (some max) (skip extended r)) else none
      | _ => none
  | _ => none

/-! ## Cutting -/

/-- The first token of a pattern. -/
def next? (extended : Bool) : List Char → Option (Token × List Char)
  | [] => none
  | c :: r =>
    let atom : Option (Atom × List Char) → Option (Token × List Char) :=
      fun a? => a?.map fun (a, r) => (.atom a, r)
    match c with
    | '(' => readOpening extended r
    | ')' => some (.closing, r)
    | '|' => some (.bar, r)
    | '[' => atom (readSet extended r)
    | '?' => some (repetitionOf 0 (some 1) r)
    | '*' => some (repetitionOf 0 none r)
    | '+' => some (repetitionOf 1 none r)
    | '\x7b' => readBounds extended r
    | '\\' => atom (readEscape extended r)
    | '.' => some (.atom .dot, r)
    | '^' => some (.atom (.assertion .lineStart), r)
    | '$' => some (.atom (.assertion .lineEnd), r)
    | c => some (.atom (.literal c), r)

/-- Whether blanks are skipped behind flags. -/
def extendedAfter (extended : Bool) (changes : FlagChanges) : Bool :=
  match changes.find? (·.1 = .extended) with
  | some (_, on) => on
  | none => extended

/-- Whether blanks are skipped behind a token, and the same for the groups that are open. -/
def track (extended : Bool) (outer : List Bool) : Token → Bool × List Bool
  | .opening changes _ _ => (extendedAfter extended changes, extended :: outer)
  | .flags changes => (extendedAfter extended changes, outer)
  | .closing =>
    match outer with
    | e :: outer => (e, outer)
    | [] => (extended, [])
  | _ => (extended, outer)

/-- The tokens of a pattern, of which at most `n` are cut off. -/
def scanFrom? : Nat → Bool → List Bool → List Char → Option (List Token)
  | n, extended, outer, cs =>
    match skip extended cs with
    | [] => some []
    | cs =>
      match n with
      | 0 => none
      | n + 1 => do
        let (t, r) ← next? extended cs
        let (extended, outer) := track extended outer t
        let ts ← scanFrom? n extended outer r
        some (t :: ts)

/-- The tokens of a pattern. -/
def scan? (pattern : String) : Option (List Token) :=
  let cs := pattern.toList
  scanFrom? cs.length false [] cs

end Token

end CaptureTheFlag.Regex
