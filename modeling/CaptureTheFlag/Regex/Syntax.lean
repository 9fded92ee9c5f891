import CaptureTheFlag.Unicode.CharSet

/-!
# The form of regular expressions

A pattern as it is written: characters, sets in brackets, assertions, repetitions, groups, and flags
that change the meaning of what follows them in their group.
-/

namespace CaptureTheFlag.Regex

/-- What changes the meaning of a pattern. -/
inductive Flag where
  | ignoreCase
  /-- Assertions of a text's ends hold at the ends of lines. -/
  | multiLine
  /-- A dot stands for line feeds too. -/
  | dotAll
  /-- Repetitions that preferred the most prefer the fewest, and the other way round. -/
  | swapGreed
  /-- Characters are those of Unicode and not of ASCII alone. -/
  | unicode
  /-- Lines end with a carriage return, a line feed or both. -/
  | crlf
  /-- Blanks and comments in the pattern do not count. -/
  | extended
  deriving DecidableEq, Repr

/-- Flags switched on and off. -/
abbrev FlagChanges := List (Flag × Bool)

/-- The classes of characters with a letter of their own. -/
inductive LetterClass where
  | digit
  | space
  | word
  deriving DecidableEq, Repr

/-- A property of characters, as it is named. -/
inductive PropertyName where
  | plain (name : String)
  | valued (name value : String)
  deriving DecidableEq, Repr

/-- What two sets between brackets are joined with. -/
inductive SetOp where
  | intersection
  | difference
  | symmetricDifference
  deriving DecidableEq, Repr

/-- What stands between brackets. -/
inductive ClassSet where
  | empty
  | range (lo hi : Char)
  /-- A class of ASCII characters with a name. -/
  | ascii (s : CharSet) (negated : Bool)
  | letter (k : LetterClass) (negated : Bool)
  | property (name : PropertyName) (negated : Bool)
  | union (a b : ClassSet)
  | join (op : SetOp) (a b : ClassSet)
  | bracketed (negated : Bool) (a : ClassSet)
  deriving DecidableEq, Repr

/-- What is asserted of a place in a text. -/
inductive Assertion where
  | lineStart
  | lineEnd
  | textStart
  | textEnd
  | wordBoundary
  | noWordBoundary
  | wordStart
  | wordEnd
  | wordStartHalf
  | wordEndHalf
  deriving DecidableEq, Repr

/-- The smallest parts of a pattern that stand for something. -/
inductive Atom where
  | literal (c : Char)
  /-- The character is written as one octet, with two hexadecimal digits. -/
  | octet (c : Char)
  | dot
  | assertion (a : Assertion)
  | letter (k : LetterClass) (negated : Bool)
  | property (name : PropertyName) (negated : Bool)
  | bracketed (negated : Bool) (a : ClassSet)
  deriving DecidableEq, Repr

/-- The character that an atom is. -/
def Atom.char? : Atom → Option Char
  | .literal c | .octet c => some c
  | _ => none

/-- A pattern. -/
inductive Pattern where
  | empty
  /-- From here on the flags are changed. -/
  | flags (changes : FlagChanges)
  | atom (a : Atom)
  | repeated (p : Pattern) (min : Nat) (max : Option Nat) (greedy : Bool)
  | group (changes : FlagChanges) (captures : Bool) (p : Pattern)
  | cat (a b : Pattern)
  | alt (a b : Pattern)
  deriving DecidableEq, Repr

/-! ## Depth -/

/-- How deep sets are nested, a union of several counting once. -/
def ClassSet.depth (inUnion : Bool) : ClassSet → Nat
  | .empty | .range .. | .ascii .. | .letter .. | .property .. => 0
  | .union a b => (if inUnion then 0 else 1) + max (a.depth true) (b.depth true)
  | .join _ a b => 1 + max (a.depth false) (b.depth false)
  | .bracketed _ a => 1 + a.depth false

def Atom.depth : Atom → Nat
  | .bracketed _ a => 1 + a.depth false
  | _ => 0

/-- How deep a pattern is nested, a sequence and a choice of several counting once. -/
def Pattern.depth (inCat inAlt : Bool) : Pattern → Nat
  | .empty | .flags _ => 0
  | .atom a => a.depth
  | .repeated p _ _ _ => 1 + p.depth false false
  | .group _ _ p => 1 + p.depth false false
  | .cat a b => (if inCat then 0 else 1) + max (a.depth true false) (b.depth true false)
  | .alt a b => (if inAlt then 0 else 1) + max (a.depth false true) (b.depth false true)

end CaptureTheFlag.Regex
