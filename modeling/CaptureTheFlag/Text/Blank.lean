/-!
# White space

The characters with the Unicode property `White_Space`, and the text left when they are stripped
from both ends.  Keys are stripped before they are compared, and a name must have something left.

* `isBlank`: the property, all of it and nothing else.
* `trim`: a text without its leading and trailing blanks.
* `trim_trim`: stripping twice is stripping once.
-/

namespace CaptureTheFlag.Text

/-- The character has the property `White_Space`. -/
def isBlank (c : Char) : Bool :=
  let n := c.toNat
  (9 ≤ n && n ≤ 13) || n == 0x20 || n == 0x85 || n == 0xA0 || n == 0x1680 ||
    (0x2000 ≤ n && n ≤ 0x200A) || n == 0x2028 || n == 0x2029 || n == 0x202F || n == 0x205F ||
    n == 0x3000

/-- The characters up to the last one that is not blank. -/
def dropTrailingBlanks (cs : List Char) : List Char :=
  (cs.reverse.dropWhile isBlank).reverse

/-- The characters between the first and the last one that is not blank. -/
def strip (cs : List Char) : List Char :=
  dropTrailingBlanks (cs.dropWhile isBlank)

/-- The text without its leading and trailing blanks. -/
def trim (s : String) : String :=
  String.ofList (strip s.toList)

/-- Both texts are equal once every ASCII letter is read as its small letter. -/
def sameIgnoringAsciiCase (s t : String) : Bool :=
  s.toList.map Char.toLower == t.toList.map Char.toLower

/-! ## Stripping -/

theorem dropTrailingBlanks_append_singleton {cs : List Char} {c : Char} (h : isBlank c = false) :
    dropTrailingBlanks (cs ++ [c]) = cs ++ [c] := by
  simp [dropTrailingBlanks, h]

/-- What starts with no blank keeps its start. -/
theorem dropWhile_isBlank_cons {c : Char} {cs : List Char} (h : isBlank c = false) :
    (c :: cs).dropWhile isBlank = c :: cs := by
  simp [h]

/-- A list is all blank, or it ends at its last character that is not blank. -/
theorem dropTrailingBlanks_eq_nil_or (cs : List Char) :
    dropTrailingBlanks cs = [] ∨
      ∃ init last, dropTrailingBlanks cs = init ++ [last] ∧ isBlank last = false := by
  unfold dropTrailingBlanks
  rcases h : cs.reverse.dropWhile isBlank with _ | ⟨c, r⟩
  · exact Or.inl rfl
  · refine Or.inr ⟨r.reverse, c, by simp, ?_⟩
    have := List.head?_dropWhile_not isBlank cs.reverse
    rw [h] at this
    simpa using this

theorem strip_strip (cs : List Char) : strip (strip cs) = strip cs := by
  unfold strip
  rcases h : cs.dropWhile isBlank with _ | ⟨c, r⟩
  · rfl
  · have hc : isBlank c = false := by
      have := List.head?_dropWhile_not isBlank cs
      rw [h] at this
      simpa using this
    rcases dropTrailingBlanks_eq_nil_or (c :: r) with hn | ⟨init, last, hl, hb⟩
    · rw [hn]; rfl
    · have hhead : ∃ t, dropTrailingBlanks (c :: r) = c :: t := by
        have hr : ∃ t, ((c :: r).reverse.dropWhile isBlank) = t ++ [c] := by
          rw [List.reverse_cons]
          rcases hd : r.reverse.dropWhile isBlank with _ | ⟨d, t⟩
          · refine ⟨[], ?_⟩
            rw [List.dropWhile_append, hd]
            simp [hc]
          · refine ⟨d :: t, ?_⟩
            rw [List.dropWhile_append, hd]
            simp
        obtain ⟨t, ht⟩ := hr
        refine ⟨t.reverse, ?_⟩
        unfold dropTrailingBlanks
        rw [ht]
        simp
      obtain ⟨t, ht⟩ := hhead
      rw [ht, dropWhile_isBlank_cons hc, ← ht, hl, dropTrailingBlanks_append_singleton hb]

/-- Stripping twice is stripping once. -/
@[simp] theorem trim_trim (s : String) : trim (trim s) = trim s := by
  simp [trim, strip_strip]

end CaptureTheFlag.Text
