import CaptureTheFlag.Text.Blank
import Mathlib.Data.List.TakeWhile
import Mathlib.Tactic.ByContra

/-!
# What is left of a text without the blanks around it

* `Text.trim_eq_empty_iff`: nothing is left exactly of the texts that have only blanks.
* `Text.length_trim_le`: what is left is no longer than the text.
* `Text.trim_append_of_blank`: blanks put around a text do not change what is left.
* `Text.trim_eq_self_iff`: all is left exactly of the texts that neither start nor end with a blank.
* `Text.isPadded_congr`: whether a text does so is seen without regard to the case of letters.
-/

namespace CaptureTheFlag.Text

theorem strip_eq_nil_iff (cs : List Char) : strip cs = [] ↔ ∀ c ∈ cs, isBlank c = true := by
  unfold strip dropTrailingBlanks
  rw [List.reverse_eq_nil_iff, List.dropWhile_eq_nil_iff]
  constructor
  · intro h
    -- what is left behind the leading blanks would start with a character that is not blank
    have hnil : cs.dropWhile isBlank = [] := by
      by_contra hne
      have hhead : isBlank ((cs.dropWhile isBlank).head hne) = false :=
        List.head_dropWhile_not isBlank hne
      have hblank : isBlank ((cs.dropWhile isBlank).head hne) = true :=
        h _ (List.mem_reverse.2 (List.head_mem hne))
      rw [hhead] at hblank
      cases hblank
    exact List.dropWhile_eq_nil_iff.1 hnil
  · intro h c hc
    have hmem : c ∈ cs := (List.dropWhile_suffix isBlank).subset (List.mem_reverse.1 hc)
    exact h c hmem

/-- **Nothing is left exactly of the texts that have only blanks.** -/
theorem trim_eq_empty_iff (s : String) : trim s = "" ↔ ∀ c ∈ s.toList, isBlank c = true := by
  rw [← strip_eq_nil_iff]
  unfold trim
  rw [← String.toList_inj, String.toList_ofList]
  rfl

theorem length_strip_le_dropWhile (cs : List Char) :
    (strip cs).length ≤ (cs.dropWhile isBlank).length := by
  unfold strip dropTrailingBlanks
  rw [List.length_reverse]
  have htail := List.length_dropWhile_le isBlank (cs.dropWhile isBlank).reverse
  rwa [List.length_reverse] at htail

theorem length_strip_le (cs : List Char) : (strip cs).length ≤ cs.length :=
  (length_strip_le_dropWhile cs).trans (List.length_dropWhile_le isBlank cs)

/-- What is left of a text is no longer than the text. -/
theorem length_trim_le (s : String) : (trim s).length ≤ s.length := by
  have h := length_strip_le s.toList
  unfold trim
  rw [String.length_ofList]
  rw [String.length_toList] at h
  exact h

/-! ## Blanks around a text -/

theorem strip_append_of_blank {u v : List Char} (cs : List Char)
    (hu : ∀ c ∈ u, isBlank c = true) (hv : ∀ c ∈ v, isBlank c = true) :
    strip (u ++ cs ++ v) = strip cs := by
  have htrailing : ∀ w, dropTrailingBlanks (w ++ v) = dropTrailingBlanks w := by
    intro w
    unfold dropTrailingBlanks
    rw [List.reverse_append,
      List.dropWhile_append_of_pos fun c hc => hv c (List.mem_reverse.1 hc)]
  unfold strip
  rw [List.append_assoc, List.dropWhile_append_of_pos hu, List.dropWhile_append]
  split
  · next hblank =>
    -- the text has only blanks, and so has what is put around it
    rw [List.isEmpty_iff.1 hblank, List.dropWhile_eq_nil_iff.2 hv]
  · exact htrailing _

/-- **Blanks put around a text do not change what is left of it.** -/
theorem trim_append_of_blank {u v : String} (s : String)
    (hu : ∀ c ∈ u.toList, isBlank c = true) (hv : ∀ c ∈ v.toList, isBlank c = true) :
    trim (u ++ s ++ v) = trim s := by
  unfold trim
  rw [String.toList_append, String.toList_append, strip_append_of_blank _ hu hv]

/-! ## Texts that start or end with a blank -/

theorem dropWhile_isBlank_eq_self_iff (cs : List Char) :
    cs.dropWhile isBlank = cs ↔ ∀ c, cs.head? = some c → isBlank c = false := by
  cases cs with
  | nil => simp
  | cons c r => simp [List.dropWhile_eq_self_iff]

theorem strip_eq_self_iff (cs : List Char) : strip cs = cs ↔
    (∀ c, cs.head? = some c → isBlank c = false) ∧
      ∀ c, cs.getLast? = some c → isBlank c = false := by
  rw [← List.head?_reverse, ← dropWhile_isBlank_eq_self_iff, ← dropWhile_isBlank_eq_self_iff]
  constructor
  · intro h
    have hlength : cs.length ≤ (cs.dropWhile isBlank).length := by
      have hle := length_strip_le_dropWhile cs
      rwa [h] at hle
    have hhead : cs.dropWhile isBlank = cs :=
      (List.dropWhile_suffix isBlank).eq_of_length_le hlength
    unfold strip at h
    rw [hhead] at h
    exact ⟨hhead, List.reverse_eq_iff.1 h⟩
  · rintro ⟨hhead, hlast⟩
    unfold strip dropTrailingBlanks
    rw [hhead, hlast, List.reverse_reverse]

/-- The text starts or ends with a blank. -/
def IsPadded (s : String) : Prop :=
  ∃ c, (s.toList.head? = some c ∨ s.toList.getLast? = some c) ∧ isBlank c = true

/-- **All is left exactly of the texts that neither start nor end with a blank.** -/
theorem trim_eq_self_iff (s : String) : trim s = s ↔ ¬IsPadded s := by
  have hstrip : trim s = s ↔ strip s.toList = s.toList := by
    unfold trim
    rw [← String.toList_inj, String.toList_ofList]
  rw [hstrip, strip_eq_self_iff]
  unfold IsPadded
  constructor
  · rintro ⟨hhead, hlast⟩ ⟨c, h | h, hblank⟩
    · exact Bool.false_ne_true ((hhead c h).symm.trans hblank)
    · exact Bool.false_ne_true ((hlast c h).symm.trans hblank)
  · intro h
    exact ⟨fun c hc => eq_false_of_ne_true fun hblank => h ⟨c, Or.inl hc, hblank⟩,
      fun c hc => eq_false_of_ne_true fun hblank => h ⟨c, Or.inr hc, hblank⟩⟩

theorem not_isPadded_trim (s : String) : ¬IsPadded (trim s) :=
  (trim_eq_self_iff _).1 (trim_trim s)

theorem isBlank_eq_false {c : Char} (hlow : 0x20 < c.toNat) (hhigh : c.toNat < 0x85) :
    isBlank c = false := by
  unfold isBlank
  simp only [Bool.or_eq_false_iff, Bool.and_eq_false_iff, decide_eq_false_iff_not,
    beq_eq_false_iff_ne]
  omega

/-- A blank has no other case, and the small letter of a letter is no blank. -/
theorem isBlank_toLower (c : Char) : isBlank c.toLower = isBlank c := by
  unfold Char.toLower
  split
  · next hletter =>
    have hlow : 65 ≤ c.toNat := hletter.1
    have hhigh : c.toNat ≤ 90 := hletter.2
    have hsmall : (c.val + ('a'.val - 'A'.val)).toNat = c.toNat + 32 := by
      have hlt : c.val.toNat + 32 < 2 ^ 32 := by
        show c.toNat + 32 < 2 ^ 32
        omega
      exact (UInt32.toNat_add _ _).trans (Nat.mod_eq_of_lt hlt)
    have hcapital : isBlank c = false := isBlank_eq_false (by omega) (by omega)
    rw [hcapital]
    refine isBlank_eq_false ?_ ?_
    · show 0x20 < (c.val + ('a'.val - 'A'.val)).toNat
      omega
    · show (c.val + ('a'.val - 'A'.val)).toNat < 0x85
      omega
  · rfl

/-- Whether a text starts or ends with a blank is seen without regard to the case of letters. -/
theorem isPadded_congr {s t : String} (h : sameIgnoringAsciiCase s t = true) :
    IsPadded s ↔ IsPadded t := by
  have hends : ∀ x : String, IsPadded x ↔
      ∃ c, ((x.toList.map Char.toLower).head? = some c ∨
        (x.toList.map Char.toLower).getLast? = some c) ∧ isBlank c = true := by
    intro x
    unfold IsPadded
    rw [List.head?_map, List.getLast?_map]
    constructor
    · rintro ⟨c, h, hblank⟩
      refine ⟨c.toLower, h.imp ?_ ?_, (isBlank_toLower c).trans hblank⟩ <;>
        exact congrArg (Option.map Char.toLower)
    · rintro ⟨c, h | h, hblank⟩
      · obtain ⟨d, hd, rfl⟩ := Option.map_eq_some_iff.1 h
        exact ⟨d, Or.inl hd, (isBlank_toLower d).symm.trans hblank⟩
      · obtain ⟨d, hd, rfl⟩ := Option.map_eq_some_iff.1 h
        exact ⟨d, Or.inr hd, (isBlank_toLower d).symm.trans hblank⟩
  rw [hends, hends, eq_of_beq h]

end CaptureTheFlag.Text
