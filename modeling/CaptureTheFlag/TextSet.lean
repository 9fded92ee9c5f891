import CaptureTheFlag.KeyMap

/-!
# Sets of texts

A finite set of texts, as a map to nothing: its members in ascending order, each once.

* `mem_toList_ofList`: a set of a list has the list's members.
-/

namespace CaptureTheFlag

/-- A finite set of texts. -/
abbrev TextSet := KeyMap Unit

namespace TextSet

/-- The set with one more member. -/
def add (s : TextSet) (x : String) : TextSet := s.insert x ()

/-- The set with all of a list's members too. -/
def addAll (s : TextSet) (l : List String) : TextSet := l.foldl add s

/-- The set of a list's members. -/
def ofList (l : List String) : TextSet := addAll .empty l

/-- The members in ascending order. -/
def toList (s : TextSet) : List String := s.keys

theorem contains_add (s : TextSet) (x y : String) :
    (s.add x).contains y = (decide (y = x) || s.contains y) := by
  simp only [add, KeyMap.contains, KeyMap.get?_insert]
  by_cases h : y = x <;> simp [h]

theorem contains_addAll (s : TextSet) (l : List String) (y : String) :
    (s.addAll l).contains y = (decide (y ∈ l) || s.contains y) := by
  induction l generalizing s with
  | nil => simp [addAll]
  | cons x r ih =>
    have : s.addAll (x :: r) = (s.add x).addAll r := rfl
    rw [this, ih, contains_add]
    by_cases h : y = x <;> simp [h]

theorem contains_ofList (l : List String) (y : String) :
    (ofList l).contains y = decide (y ∈ l) := by
  rw [ofList, contains_addAll]
  simp [KeyMap.contains]

theorem mem_toList_iff (s : TextSet) (y : String) : y ∈ s.toList ↔ s.contains y = true := by
  simp only [toList, KeyMap.keys, List.mem_map, KeyMap.contains, Option.isSome_iff_exists]
  constructor
  · rintro ⟨⟨k, u⟩, he, rfl⟩
    exact ⟨u, (KeyMap.mem_entries_iff s k u).1 he⟩
  · rintro ⟨u, hu⟩
    exact ⟨(y, u), (KeyMap.mem_entries_iff s y u).2 hu, rfl⟩

/-- A set of a list has the list's members. -/
theorem mem_toList_ofList (l : List String) (y : String) : y ∈ (ofList l).toList ↔ y ∈ l := by
  rw [mem_toList_iff, contains_ofList, decide_eq_true_iff]

/-- A set is determined by its members. -/
theorem ext_contains {s t : TextSet} (h : ∀ x, s.contains x = true ↔ t.contains x = true) :
    s = t := by
  refine KeyMap.ext_get? fun x => ?_
  have hx : (s.get? x).isSome = (t.get? x).isSome := Bool.eq_iff_iff.2 (h x)
  rcases hs : s.get? x with _ | ⟨⟩ <;> rcases ht : t.get? x with _ | ⟨⟩
  · rfl
  · rw [hs, ht] at hx
    cases hx
  · rw [hs, ht] at hx
    cases hx
  · rfl

/-- The members stand in strictly ascending order. -/
theorem toList_ascending (s : TextSet) : s.toList.Pairwise (· < ·) :=
  s.keys_ascending

/-- No member stands twice. -/
theorem toList_nodup (s : TextSet) : s.toList.Nodup := by
  refine s.toList_ascending.imp fun hlt => ?_
  rintro rfl
  exact String.lt_irrefl _ hlt

end TextSet

end CaptureTheFlag
