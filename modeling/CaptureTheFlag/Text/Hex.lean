/-!
# Hexadecimal

Octets are written with two small digits each.  Reading takes digits of either case, always in
pairs.

* `encode_length`: two digits an octet.
* `decode?_encode`: reading what was written.
-/

namespace CaptureTheFlag.Text.Hex

/-- The digit of a number below sixteen; small letters from ten on. -/
def digit (n : Nat) : Char :=
  if n < 10 then Char.ofNat (48 + n) else Char.ofNat (87 + n)

/-- The number that a digit of either case stands for. -/
def value? (c : Char) : Option Nat :=
  let n := c.toNat
  if 48 ≤ n ∧ n ≤ 57 then some (n - 48)
  else if 97 ≤ n ∧ n ≤ 102 then some (n - 87)
  else if 65 ≤ n ∧ n ≤ 70 then some (n - 55)
  else none

/-- Two digits an octet, the high one first. -/
def encode : List UInt8 → List Char
  | [] => []
  | b :: bs => digit (b.toNat / 16) :: digit (b.toNat % 16) :: encode bs

/-- The octets that pairs of digits stand for. -/
def decode? : List Char → Option (List UInt8)
  | [] => some []
  | [_] => none
  | h :: l :: r =>
    match value? h, value? l, decode? r with
    | some a, some b, some bs => some (UInt8.ofNat (16 * a + b) :: bs)
    | _, _, _ => none

theorem encode_length (bs : List UInt8) : (encode bs).length = 2 * bs.length := by
  induction bs with
  | nil => rfl
  | cons b bs ih => simp [encode, ih]; omega

theorem value?_digit : ∀ n < 16, value? (digit n) = some n := by decide

/-- Reading gives back what was written. -/
theorem decode?_encode (bs : List UInt8) : decode? (encode bs) = some bs := by
  induction bs with
  | nil => rfl
  | cons b bs ih =>
    have hb : b.toNat < 256 := b.toNat_lt
    have hh := value?_digit (b.toNat / 16) (by omega)
    have hl := value?_digit (b.toNat % 16) (by omega)
    simp only [encode, decode?, hh, hl, ih]
    rw [show 16 * (b.toNat / 16) + b.toNat % 16 = b.toNat by omega]
    simp

end CaptureTheFlag.Text.Hex
