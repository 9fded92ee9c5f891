import CaptureTheFlag.Proofs.Text.Blank
import CaptureTheFlag.Text.Hex

/-!
# Which texts are hexadecimal

Octets are written with small digits and read with digits of either case.  So a text stands for some
octets exactly if it comes to what is written for them once its letters are small; and two texts
that differ in case only stand for the same octets.

* `Text.Hex.IsDigit`: the digits, in either case.
* `Text.Hex.decode?_eq_some_iff`: what a text stands for, told from how octets are written.
* `Text.Hex.exists_decode?_iff`: the texts that stand for octets are pairs of digits.
* `Text.Hex.trim_of_isDigit`, `Text.Hex.utf8ByteSize_of_isDigit`: no blank is a digit, and every
  digit is one octet of UTF-8.
-/

namespace CaptureTheFlag.Text.Hex

/-- The character is a hexadecimal digit, in either case. -/
def IsDigit (c : Char) : Prop := c ∈ "0123456789abcdefABCDEF".toList

instance : DecidablePred IsDigit := fun c => inferInstanceAs (Decidable (c ∈ _))

variable {c : Char} {n : Nat} {cs : List Char} {bs : List UInt8}

/-! ## Single digits -/

/-- What all digits have in common is found by looking at each of them. -/
theorem of_isDigit {p : Char → Bool} (hall : "0123456789abcdefABCDEF".toList.all p = true)
    (h : IsDigit c) : p c = true :=
  List.all_eq_true.1 hall c h

/-- A digit stands for a number below sixteen, and its small form is written for this number. -/
theorem exists_value?_of_isDigit (h : IsDigit c) :
    ∃ n < 16, value? c = some n ∧ digit n = c.toLower := by
  have hall : "0123456789abcdefABCDEF".toList.all fun c =>
      (List.range 16).any fun n => value? c = some n ∧ digit n = c.toLower := by decide
  obtain ⟨n, hn, hvalue⟩ := List.any_eq_true.1 (of_isDigit hall h)
  exact ⟨n, List.mem_range.1 hn, of_decide_eq_true hvalue⟩

theorem toNat_of_isDigit (h : IsDigit c) : 0x20 < c.toNat ∧ c.toNat ≤ 0x7F := by
  have hall : "0123456789abcdefABCDEF".toList.all fun c =>
      decide (0x20 < c.toNat ∧ c.toNat ≤ 0x7F) := by decide
  exact of_decide_eq_true (of_isDigit hall h)

/-- Nothing but a digit stands for a number. -/
theorem isDigit_of_value? (h : value? c = some n) : IsDigit c := by
  have hlow : c.toNat < 103 := by
    unfold value? at h
    grind
  have hall : ∀ k < 103, value? (Char.ofNat k) ≠ none → IsDigit (Char.ofNat k) := by decide
  have hdigit := hall c.toNat hlow
  rw [Char.ofNat_toNat, h] at hdigit
  exact hdigit (Option.some_ne_none n)

/-- The number that a character stands for is written as the character's small form. -/
theorem digit_of_value? (h : value? c = some n) : n < 16 ∧ digit n = c.toLower := by
  obtain ⟨k, hk, hvalue, hdigit⟩ := exists_value?_of_isDigit (isDigit_of_value? h)
  obtain rfl : k = n := Option.some.inj (hvalue.symm.trans h)
  exact ⟨hk, hdigit⟩

/-- The case of a letter does not count. -/
theorem value?_toLower (c : Char) : value? c.toLower = value? c := by
  by_cases hlow : c.toNat < 91
  · have hall : ∀ k < 91, value? (Char.ofNat k).toLower = value? (Char.ofNat k) := by decide
    have hsame := hall c.toNat hlow
    rwa [Char.ofNat_toNat] at hsame
  · -- no capital letter stands so far on
    have hsmall : c.toLower = c := dif_neg fun hletter => hlow (Nat.lt_succ_of_le hletter.2)
    rw [hsmall]

/-! ## Texts -/

theorem decode?_map_toLower (cs : List Char) : decode? (cs.map Char.toLower) = decode? cs := by
  induction cs using decode?.induct with
  | case1 => rfl
  | case2 c => rfl
  | case3 high low r _ _ _ _ _ _ ih =>
    simp only [List.map_cons, decode?, value?_toLower, ih]
  | case4 high low r _ ih =>
    simp only [List.map_cons, decode?, value?_toLower, ih]

/-- Texts that differ in case only stand for the same octets. -/
theorem decode?_congr {s t : String} (h : sameIgnoringAsciiCase s t = true) :
    decode? s.toList = decode? t.toList := by
  rw [← decode?_map_toLower, eq_of_beq h, decode?_map_toLower]

/-- What is written for the octets that a text stands for is the text in small letters. -/
theorem encode_of_decode? (h : decode? cs = some bs) : encode bs = cs.map Char.toLower := by
  fun_induction decode? cs generalizing bs with
  | case1 =>
    obtain rfl := Option.some.inj h
    rfl
  | case2 c => cases h
  | case3 high low r a b rest hrest hlow hhigh ih =>
    obtain rfl := Option.some.inj h
    obtain ⟨ha, hdigit⟩ := digit_of_value? hhigh
    obtain ⟨hb, hdigit'⟩ := digit_of_value? hlow
    have hoctet : (UInt8.ofNat (16 * a + b)).toNat = 16 * a + b := by
      rw [UInt8.toNat_ofNat']
      omega
    have hquotient : (16 * a + b) / 16 = a := by omega
    have hremainder : (16 * a + b) % 16 = b := by omega
    rw [encode, hoctet, hquotient, hremainder, hdigit, hdigit', ih hrest]
    rfl
  | case4 high low r hnone ih => cases h

/-- **What a text stands for:** the octets for which the text in small letters is written. -/
theorem decode?_eq_some_iff : decode? cs = some bs ↔ cs.map Char.toLower = encode bs := by
  constructor
  · intro h
    exact (encode_of_decode? h).symm
  · intro h
    rw [← decode?_map_toLower, h, decode?_encode]

/-- Two digits stand for one octet. -/
theorem length_of_decode? (h : decode? cs = some bs) : cs.length = 2 * bs.length := by
  rw [← encode_length, encode_of_decode? h, List.length_map]

theorem isDigit_of_decode? (h : decode? cs = some bs) : ∀ c ∈ cs, IsDigit c := by
  fun_induction decode? cs generalizing bs with
  | case1 => exact List.forall_mem_nil _
  | case2 c => cases h
  | case3 high low r a b rest hrest hlow hhigh ih =>
    exact List.forall_mem_cons.2 ⟨isDigit_of_value? hhigh,
      List.forall_mem_cons.2 ⟨isDigit_of_value? hlow, ih hrest⟩⟩
  | case4 high low r hnone ih => cases h

/-- **The texts that stand for octets** are those of digits in pairs. -/
theorem exists_decode?_iff (cs : List Char) :
    (∃ bs, decode? cs = some bs) ↔ 2 ∣ cs.length ∧ ∀ c ∈ cs, IsDigit c := by
  constructor
  · rintro ⟨bs, h⟩
    exact ⟨⟨bs.length, length_of_decode? h⟩, isDigit_of_decode? h⟩
  · rintro ⟨heven, hdigits⟩
    induction cs using decode?.induct with
    | case1 => exact ⟨[], rfl⟩
    | case2 c => exact absurd heven (Nat.not_dvd_of_pos_of_lt Nat.one_pos Nat.one_lt_two)
    | case3 high low r a b rest hrest hlow hhigh ih =>
      exact ⟨_, by rw [decode?, hhigh, hlow, hrest]⟩
    | case4 high low r hnone ih =>
      obtain ⟨hhigh, hdigits⟩ := List.forall_mem_cons.1 hdigits
      obtain ⟨hlow, hdigits⟩ := List.forall_mem_cons.1 hdigits
      obtain ⟨a, -, ha, -⟩ := exists_value?_of_isDigit hhigh
      obtain ⟨b, -, hb, -⟩ := exists_value?_of_isDigit hlow
      obtain ⟨rest, hrest⟩ := ih ((Nat.dvd_add_left (Nat.dvd_refl 2)).1 heven) hdigits
      exact (hnone a b rest ha hb hrest).elim

/-! ## Digits among other characters -/

/-- No blank is a digit. -/
theorem trim_of_isDigit {s : String} (h : ∀ c ∈ s.toList, IsDigit c) : trim s = s := by
  rw [trim_eq_self_iff]
  rintro ⟨c, hend, hblank⟩
  have hmem : c ∈ s.toList := hend.elim List.mem_of_head? List.mem_of_getLast?
  obtain ⟨hlow, hhigh⟩ := toNat_of_isDigit (h c hmem)
  rw [isBlank_eq_false hlow (by omega)] at hblank
  cases hblank

/-- Every digit is one octet of UTF-8. -/
theorem utf8ByteSize_of_isDigit (s : String) (h : ∀ c ∈ s.toList, IsDigit c) :
    s.utf8ByteSize = s.length := by
  induction s using String.push_induction with
  | empty => rfl
  | push s c ih =>
    rw [String.toList_push, List.forall_mem_append, List.forall_mem_singleton] at h
    have hone : c.utf8Size = 1 := Char.utf8Size_eq_one_iff.2 (toNat_of_isDigit h.2).2
    rw [String.utf8ByteSize_push, String.length_push, ih h.1, hone]

end CaptureTheFlag.Text.Hex
