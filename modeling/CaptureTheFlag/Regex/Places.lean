/-!
# Places in a text

A set of places in a text, place `i` being before the character with the index `i`.  The set is kept as
a number whose binary digits say which places are in it, so that all places of a text are followed at
once.

* `Places.mem_union`, `Places.mem_inter`, `Places.mem_next`: what is in the sets that operations give.
-/

namespace CaptureTheFlag.Regex

/-- A set of places in a text. -/
structure Places where
  /-- The number whose binary digits are one at the places of the set. -/
  bits : Nat
  deriving DecidableEq, Repr

namespace Places

instance : Membership Nat Places := ⟨fun p i => p.bits.testBit i = true⟩

/-- The number of a list of binary digits, the lowest first. -/
def number : List Bool → Nat
  | [] => 0
  | b :: r => b.toNat + 2 * number r

/-- The places at which a list has `true`. -/
def ofList (l : List Bool) : Places := ⟨number l⟩

/-- The places of a text of this length. -/
def all (length : Nat) : Places := ⟨Nat.pow 2 (length + 1) - 1⟩

/-- There are no places in the set. -/
def isEmpty (p : Places) : Bool := p.bits = 0

/-- The places of either set. -/
def union (p q : Places) : Places := ⟨p.bits ||| q.bits⟩

/-- The places of both sets. -/
def inter (p q : Places) : Places := ⟨p.bits &&& q.bits⟩

/-- The places one character further. -/
def next (p : Places) : Places := ⟨p.bits <<< 1⟩

/-! ## Membership -/

theorem mem_def {p : Places} {i : Nat} : i ∈ p ↔ p.bits.testBit i = true := Iff.rfl

theorem testBit_number (l : List Bool) (i : Nat) : (number l).testBit i = l.getD i false := by
  induction l generalizing i with
  | nil => simp [number]
  | cons b r ih =>
    cases i with
    | zero =>
      rw [Nat.testBit_zero]
      cases b <;> simp [number]
    | succ i =>
      have half : number (b :: r) / 2 = number r := by
        have hb := b.toNat_lt
        rw [number]
        omega
      rw [Nat.testBit_succ, half, ih]
      rfl

theorem mem_ofList {l : List Bool} {i : Nat} : i ∈ ofList l ↔ l.getD i false = true := by
  rw [mem_def, ofList, testBit_number]

theorem mem_all {length i : Nat} : i ∈ all length ↔ i ≤ length := by
  have hbit : (Nat.pow 2 (length + 1) - 1).testBit i = decide (i < length + 1) :=
    Nat.testBit_two_pow_sub_one (length + 1) i
  rw [mem_def, all, hbit, decide_eq_true_iff]
  exact Nat.lt_succ_iff

theorem isEmpty_iff {p : Places} : p.isEmpty = true ↔ ∀ i, i ∉ p := by
  constructor
  · intro h i hi
    have zero : p.bits = 0 := of_decide_eq_true h
    rw [mem_def, zero, Nat.zero_testBit] at hi
    exact Bool.false_ne_true hi
  · intro h
    refine decide_eq_true (Decidable.byContradiction fun hne => ?_)
    obtain ⟨i, hi⟩ := Nat.exists_testBit_of_ne_zero hne
    exact h i hi

@[simp] theorem mem_union {p q : Places} {i : Nat} : i ∈ p.union q ↔ i ∈ p ∨ i ∈ q := by
  simp only [mem_def, union, Nat.testBit_or, Bool.or_eq_true]

@[simp] theorem mem_inter {p q : Places} {i : Nat} : i ∈ p.inter q ↔ i ∈ p ∧ i ∈ q := by
  simp only [mem_def, inter, Nat.testBit_and, Bool.and_eq_true]

theorem mem_next {p : Places} {j : Nat} : j ∈ p.next ↔ ∃ i ∈ p, j = i + 1 := by
  rw [mem_def, next, Nat.testBit_shiftLeft, Bool.and_eq_true, decide_eq_true_iff]
  constructor
  · rintro ⟨hj, hbit⟩
    exact ⟨j - 1, hbit, by omega⟩
  · rintro ⟨i, hi, rfl⟩
    exact ⟨by omega, hi⟩

end Places

end CaptureTheFlag.Regex
