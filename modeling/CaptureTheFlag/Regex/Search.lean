import CaptureTheFlag.Regex.Expr
import CaptureTheFlag.Regex.Places

/-!
# Searching a text

An expression is first turned into the moves that it allows on the text, where sets of characters and
assertions have become sets of places.  Then the moves are followed from all places at once.

* `Moves.reach`: where moves lead.
* `Expr.isMatch`: an expression matches some stretch of a text.
-/

namespace CaptureTheFlag.Regex

/-- How one can go from place to place. -/
inductive Moves where
  /-- Stay, at any place. -/
  | stay
  /-- Go from one of these places to the next. -/
  | step (starts : Places)
  /-- Stay, if at one of these places. -/
  | check (places : Places)
  | cat (a b : Moves)
  | alt (a b : Moves)
  | repeated (m : Moves) (min : Nat) (extra : Option Nat)
  deriving DecidableEq, Repr

namespace Moves

/-- The places after exactly `n` turns. -/
def turns (f : Places → Places) : Nat → Places → Places
  | 0, a => a
  | n + 1, a =>
    let b := f a
    if b = a then a else turns f n b

/-- The places after at most `n` turns. -/
def spread (f : Places → Places) : Nat → Places → Places
  | 0, a => a
  | n + 1, a =>
    let b := a.union (f a)
    if b = a then a else spread f n b

/-- The places after at most `n` turns, and those after one turn more. -/
def saturate (f : Places → Places) : Nat → Places → Places × Places
  | 0, a => (a, f a)
  | n + 1, a =>
    let b := f a
    if a.union b = a then (a, b) else saturate f n (a.union b)

/-- The places that can be reached from some places of a text of a length.  More turns than the text is
long lead nowhere else. -/
def reach (length : Nat) : Moves → Places → Places
  | .stay, a => a
  | .step s, a => (a.inter s).next
  | .check s, a => a.inter s
  | .cat m n, a => n.reach length (m.reach length a)
  | .alt m n, a => (m.reach length a).union (n.reach length a)
  | .repeated m min (some extra), a => spread (m.reach length) extra (turns (m.reach length) min a)
  | .repeated m 0 none, a => (saturate (m.reach length) length a).1
  | .repeated m (min + 1) none, a =>
    (saturate (m.reach length) length (turns (m.reach length) min a)).2

end Moves

namespace Expr

/-- The characters around each place of a text, behind a character. -/
def contexts (before : Option Char) : List Char → List (Option Char × Option Char)
  | [] => [(before, none)]
  | c :: r => (before, some c) :: contexts (some c) r

/-- The moves that an expression allows on a text. -/
def moves (text : List Char) : Expr → Moves
  | .empty => .stay
  | .set s => .step (Places.ofList (text.map s.contains))
  | .look l => .check (Places.ofList ((contexts none text).map fun (b, a) => l.holds b a))
  | .cat a b => .cat (a.moves text) (b.moves text)
  | .alt a b => .alt (a.moves text) (b.moves text)
  | .repeated e min extra => .repeated (e.moves text) min extra

/-- The places of a text that an expression reaches from some places. -/
def reach (e : Expr) (text : List Char) (a : Places) : Places :=
  (e.moves text).reach text.length a

/-- The expression matches some stretch of a text. -/
def isMatch (e : Expr) (text : String) : Bool :=
  !(e.reach text.toList (Places.all text.toList.length)).isEmpty

end Expr

end CaptureTheFlag.Regex
