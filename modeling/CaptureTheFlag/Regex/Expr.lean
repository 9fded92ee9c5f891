import CaptureTheFlag.Unicode.CharSet

/-!
# Regular expressions

An expression stands for stretches of a text.  Unlike a pattern it has no flags: its sets hold all
characters that they accept, and its assertions say themselves what words and lines are.

* `Expr.Matches`: an expression matches a text from one place to another.
-/

namespace CaptureTheFlag.Regex

/-! ## Assertions -/

/-- What is asserted of a place by the characters before and behind it. -/
inductive Look where
  | textStart
  | textEnd
  /-- A line starts here; lines end with a line feed. -/
  | lineStart
  | lineEnd
  /-- A line starts here; lines end with a carriage return, a line feed, or both in this order. -/
  | anyLineStart
  | anyLineEnd
  /-- A word starts or ends here. -/
  | wordBoundary (word : CharSet)
  | noWordBoundary (word : CharSet)
  | wordStart (word : CharSet)
  | wordEnd (word : CharSet)
  /-- No word goes on before this place. -/
  | wordStartHalf (word : CharSet)
  /-- No word goes on behind this place. -/
  | wordEndHalf (word : CharSet)
  deriving DecidableEq, Repr

/-- The character is there and belongs to a word. -/
def inWord (word : CharSet) (c? : Option Char) : Bool := c?.any word.contains

/-- The assertion holds between two characters, of which none is there at an end of the text. -/
def Look.holds (before after : Option Char) : Look → Bool
  | .textStart => before.isNone
  | .textEnd => after.isNone
  | .lineStart => before.isNone || before = some '\n'
  | .lineEnd => after.isNone || after = some '\n'
  | .anyLineStart =>
    before.isNone || before = some '\n' || (before = some '\r' && after ≠ some '\n')
  | .anyLineEnd =>
    after.isNone || after = some '\r' || (after = some '\n' && before ≠ some '\r')
  | .wordBoundary w => inWord w before != inWord w after
  | .noWordBoundary w => inWord w before == inWord w after
  | .wordStart w => !inWord w before && inWord w after
  | .wordEnd w => inWord w before && !inWord w after
  | .wordStartHalf w => !inWord w before
  | .wordEndHalf w => !inWord w after

/-! ## Expressions -/

/-- A regular expression. -/
inductive Expr where
  | empty
  /-- One character of a set. -/
  | set (s : CharSet)
  | look (l : Look)
  | cat (a b : Expr)
  | alt (a b : Expr)
  /-- At least `min` times, and at most `extra` times more if that is given. -/
  | repeated (e : Expr) (min : Nat) (extra : Option Nat)
  deriving DecidableEq, Repr

namespace Expr

/-- The character before a place. -/
def before? (text : List Char) : Nat → Option Char
  | 0 => none
  | i + 1 => text[i]?

/-- An expression matches a text from one place to another; place `i` is before the character with
this index. -/
inductive Matches (text : List Char) : Expr → Nat → Nat → Prop where
  | empty {i : Nat} : i ≤ text.length → Matches text .empty i i
  | set {s : CharSet} {i : Nat} {c : Char} :
      text[i]? = some c → s.contains c → Matches text (.set s) i (i + 1)
  | look {l : Look} {i : Nat} :
      i ≤ text.length → l.holds (before? text i) text[i]? → Matches text (.look l) i i
  | cat {a b : Expr} {i k j : Nat} :
      Matches text a i k → Matches text b k j → Matches text (.cat a b) i j
  | left {a b : Expr} {i j : Nat} : Matches text a i j → Matches text (.alt a b) i j
  | right {a b : Expr} {i j : Nat} : Matches text b i j → Matches text (.alt a b) i j
  | stop {e : Expr} {extra : Option Nat} {i : Nat} :
      i ≤ text.length → Matches text (.repeated e 0 extra) i i
  | again {e : Expr} {min : Nat} {extra : Option Nat} {i k j : Nat} :
      Matches text e i k → Matches text (.repeated e min extra) k j →
      Matches text (.repeated e (min + 1) extra) i j
  | more {e : Expr} {extra : Option Nat} {i k j : Nat} :
      extra ≠ some 0 → Matches text e i k →
      Matches text (.repeated e 0 (extra.map (· - 1))) k j →
      Matches text (.repeated e 0 extra) i j

end Expr

end CaptureTheFlag.Regex
