import CaptureTheFlag.Json.Value

/-!
# Numbers in JSON text

How a number is written, one character at a time, and what it stands for.  A number that has neither
a fraction nor an exponent and fits 64 bits, with or without a sign, is an integer; any other is a
real, unless it lies beyond the range of binary floating point with 53 digits and exponents up to
1023, in which case no value can stand for it.

* `Numeral.Partial.follow`: whether a character goes on with a number, ends it, or spoils it.
* `Numeral.value`: what a finished number stands for.
-/

namespace CaptureTheFlag.Json

/-- The parts of a number as it is written; digits are numbers below ten. -/
structure Numeral where
  negative : Bool
  whole : List Nat
  /-- The digits behind the point, if there is one. -/
  fraction : Option (List Nat)
  /-- The sign and the digits of the exponent, if there is one. -/
  exponent : Option (Bool × List Nat)
  deriving DecidableEq, Repr

namespace Numeral

/-- What a number stands for. -/
inductive Value where
  | integer (n : Int)
  | real (negative : Bool) (digits : Nat) (exponent : Int)
  /-- A number out of the range of reals. -/
  | huge
  deriving DecidableEq, Repr

/-! ## The range of reals -/

/-- The nearest number with at most 53 binary digits before its zeros; a half goes to the even
neighbour. -/
def roundTo53 (n : Nat) : Nat :=
  if n < Nat.pow 2 53 then n
  else
    let unit := Nat.pow 2 (n.log2 - 52)
    let q := n / unit
    let r := 2 * (n % unit)
    (if unit < r ∨ (r = unit ∧ q % 2 = 1) then q + 1 else q) * unit

/-- The least product of two reals that no real is near enough to. -/
def unbounded : Nat := Nat.pow 2 1024 - Nat.pow 2 970

/-- The number `s * 10 ^ e` is out of range, when `s` and the power are rounded before they are
multiplied. -/
def outOfRange (s : Nat) (e : Int) : Bool :=
  if s = 0 ∨ e < 0 then false
  else if e > 308 then true
  else unbounded ≤ roundTo53 s * roundTo53 (Nat.pow 10 e.toNat)

/-- The number formed by as many leading digits as keep it below `2 ^ 64`, and the other digits. -/
def significand : Nat → List Nat → Nat × List Nat
  | s, [] => (s, [])
  | s, d :: r => if 10 * s + d < Nat.pow 2 64 then significand (10 * s + d) r else (s, d :: r)

/-- The number formed by digits. -/
def ofDigits (ds : List Nat) : Nat := ds.foldl (fun n d => 10 * n + d) 0

/-- The exponent of ten, zero if none is written. -/
def power (m : Numeral) : Int :=
  match m.exponent with
  | none => 0
  | some (true, ds) => -(ofDigits ds : Int)
  | some (false, ds) => ofDigits ds

/-- Digits that no longer fit the significand count in the exponent before the point and do not
count behind it. -/
def isHuge (m : Numeral) : Bool :=
  let (s, dropped) := significand 0 m.whole
  let fraction := m.fraction.getD []
  let (s', ignored) := significand s fraction
  outOfRange s' (m.power + dropped.length - (fraction.length - ignored.length : Nat))

/-- What the number stands for. -/
def value (m : Numeral) : Value :=
  let n := ofDigits m.whole
  let fraction := m.fraction.getD []
  let real : Value :=
    if m.isHuge then .huge
    else .real m.negative (ofDigits (m.whole ++ fraction)) (m.power - fraction.length)
  match m.fraction, m.exponent with
  | none, none =>
    if m.negative then
      if 0 < n ∧ n ≤ Nat.pow 2 63 then .integer (-n) else real
    else
      if n < Nat.pow 2 64 then .integer n else real
  | _, _ => real

/-! ## Writing a number, character by character -/

/-- What the last character of an unfinished number was. -/
inductive Stage where
  | minus
  | zero
  | whole
  | point
  | fraction
  | mark
  | markSign
  | exponent
  deriving DecidableEq, Repr

/-- The beginning of a number; lists of digits have the last digit first. -/
structure Partial where
  stage : Stage
  negative : Bool
  whole : List Nat
  fraction : Option (List Nat)
  exponent : Option (Bool × List Nat)
  deriving DecidableEq, Repr

/-- What a character does to the number before it. -/
inductive Follow where
  | goOn (p : Partial)
  | ends
  | spoils

namespace Partial

/-- The number that starts with this character. -/
def start? (c : Char) : Option Partial :=
  if c = '-' then some ⟨.minus, true, [], none, none⟩
  else if c = '0' then some ⟨.zero, false, [0], none, none⟩
  else if c.isDigit then some ⟨.whole, false, [c.toNat - 48], none, none⟩
  else none

/-- The number may end here. -/
def isComplete (p : Partial) : Bool :=
  match p.stage with
  | .zero | .whole | .fraction | .exponent => true
  | .minus | .point | .mark | .markSign => false

def withWhole (p : Partial) (stage : Stage) (d : Nat) : Partial :=
  { p with stage, whole := d :: p.whole }

def withFraction (p : Partial) (stage : Stage) (ds : List Nat) : Partial :=
  { p with stage, fraction := some (ds ++ p.fraction.getD []) }

def withExponent (p : Partial) (stage : Stage) (negative : Bool) (ds : List Nat) : Partial :=
  { p with stage, exponent := some (negative, ds) }

/-- The number with one more digit, where a digit may stand. -/
def digit (p : Partial) (d : Nat) : Follow :=
  match p.stage with
  | .minus => .goOn (p.withWhole (if d = 0 then .zero else .whole) d)
  | .zero => .spoils
  | .whole => .goOn (p.withWhole .whole d)
  | .point | .fraction => .goOn (p.withFraction .fraction [d])
  | .mark | .markSign | .exponent =>
    match p.exponent with
    | some (negative, ds) => .goOn (p.withExponent .exponent negative (d :: ds))
    | none => .goOn (p.withExponent .exponent false [d])

/-- What a character does to the number before it. -/
def follow (p : Partial) (c : Char) : Follow :=
  if c.isDigit then p.digit (c.toNat - 48)
  else if c = '.' ∧ (p.stage = .zero ∨ p.stage = .whole) then .goOn (p.withFraction .point [])
  else if (c = 'e' ∨ c = 'E') ∧ (p.stage = .zero ∨ p.stage = .whole ∨ p.stage = .fraction) then
    .goOn (p.withExponent .mark false [])
  else if (c = '+' ∨ c = '-') ∧ p.stage = .mark then
    .goOn (p.withExponent .markSign (c = '-') [])
  else if p.isComplete then .ends
  else .spoils

/-- The parts of the number, if it may end here. -/
def finish? (p : Partial) : Option Numeral :=
  if p.isComplete then
    some ⟨p.negative, p.whole.reverse, p.fraction.map List.reverse,
      p.exponent.map fun e => (e.1, e.2.reverse)⟩
  else none

end Partial

end Numeral

end CaptureTheFlag.Json
