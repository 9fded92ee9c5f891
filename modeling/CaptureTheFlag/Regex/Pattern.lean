import CaptureTheFlag.Regex.Token

/-!
# Reading patterns

The tokens of a pattern are put together from left to right.  A repetition takes the part before it,
which must be there and must not be a change of flags; parentheses have to pair up; no two groups may
have one name; and nothing may be nested too deeply.

* `Pattern.parse?`: the pattern of a text.
-/

namespace CaptureTheFlag.Regex.Pattern

/-- The parts of a group that is not closed yet; lists have the last part first. -/
structure Level where
  /-- The choices before the last bar. -/
  branches : List Pattern
  /-- What stands behind the last bar. -/
  parts : List Pattern
  deriving DecidableEq, Repr

namespace Level

def empty : Level := ⟨[], []⟩

/-- The sequence of some parts. -/
def sequence : List Pattern → Pattern
  | [] => .empty
  | [p] => p
  | p :: r => .cat (sequence r) p

/-- The choice between some branches. -/
def choice : List Pattern → Pattern
  | [] => .empty
  | [p] => p
  | p :: r => .alt (choice r) p

def push (l : Level) (p : Pattern) : Level := { l with parts := p :: l.parts }

def bar (l : Level) : Level := ⟨sequence l.parts :: l.branches, []⟩

/-- The pattern of a level that ends. -/
def close (l : Level) : Pattern := choice (sequence l.parts :: l.branches)

/-- The last part, repeated. -/
def repeated? (l : Level) (min : Nat) (max : Option Nat) (greedy : Bool) : Option Level :=
  match l.parts with
  | [] | .flags _ :: _ => none
  | p :: r => some { l with parts := .repeated p min max greedy :: r }

end Level

/-- A pattern up to some token: the level reached, and the groups around it with their flags. -/
structure Builder where
  level : Level
  outer : List (Level × FlagChanges × Bool)
  deriving DecidableEq, Repr

namespace Builder

def start : Builder := ⟨.empty, []⟩

/-- One more token. -/
def step? (b : Builder) : Token → Option Builder
  | .opening changes captures _ => some ⟨.empty, (b.level, changes, captures) :: b.outer⟩
  | .closing =>
    match b.outer with
    | [] => none
    | (level, changes, captures) :: outer =>
      some ⟨level.push (.group changes captures b.level.close), outer⟩
  | .bar => some { b with level := b.level.bar }
  | .flags changes => some { b with level := b.level.push (.flags changes) }
  | .atom a => some { b with level := b.level.push (.atom a) }
  | .repetition min max greedy =>
    (b.level.repeated? min max greedy).map fun level => { b with level }

/-- The pattern, if no group is open. -/
def finish? (b : Builder) : Option Pattern :=
  if b.outer.isEmpty then some b.level.close else none

end Builder

/-- The pattern of some tokens. -/
def ofTokens? (ts : List Token) : Option Pattern := do
  let b ← ts.foldlM Builder.step? .start
  b.finish?

/-- The name that a token gives to a group. -/
def groupName? : Token → Option String
  | .opening _ _ name => name
  | _ => none

/-- No two of the names are the same. -/
def distinct : List String → Bool
  | [] => true
  | n :: r => n ∉ r && distinct r

/-- Patterns may be nested this deep. -/
def depthLimit : Nat := 250

/-- The pattern of a text. -/
def parse? (text : String) : Option Pattern := do
  let ts ← Token.scan? text
  if !distinct (ts.filterMap groupName?) then none
  let p ← ofTokens? ts
  if p.depth false false ≤ depthLimit then some p else none

end CaptureTheFlag.Regex.Pattern
