import CaptureTheFlag.Proofs.Problem.Draft

/-!
# What a stored problem says in its document

A stored problem is written as a document, new values for some fields are put in, and the whole is
read again.  Here the document of the problem that comes out is told from the document of the one
that went in.

* `Draft.filled`: what is stored for a value of a field; a null is replaced.
* `Lifecycle.storedValue`: what is stored for a new value of a field.
* `Draft.IsOf.get?_of_merge`: a field that has a new value says so, and any other field says what it
  said before.
-/

namespace CaptureTheFlag

/-! ## Values and their readings -/

namespace Json

theorem eq_string_of_string? {v : Json} {s : String} (h : v.string? = some s) : v = .string s := by
  cases v <;> cases h
  rfl

theorem eq_bool_of_bool? {v : Json} {b : Bool} (h : v.bool? = some b) : v = .bool b := by
  cases v <;> cases h
  rfl

theorem eq_ofInt64_of_int64? {v : Json} {n : Int64} (h : v.int64? = some n) : v = .ofInt64 n := by
  cases v with
  | integer m =>
    obtain ⟨⟨hlow, hhigh⟩, rfl⟩ :
        (Int64.minValue.toInt ≤ m ∧ m ≤ Int64.maxValue.toInt) ∧ Int64.ofInt m = n := by
      simpa [int64?] using h
    have hlow' : -2 ^ 63 ≤ m := hlow
    have hhigh' : m < 2 ^ 63 := Int.lt_of_le_of_lt hhigh (by decide)
    rw [ofInt64, Int64.toInt_ofInt_of_le hlow' hhigh']
  | _ => cases h

theorem eq_map_of_mapM_string? {items : List Json} {l : List String}
    (h : items.mapM string? = some l) : items = l.map .string := by
  induction items generalizing l with
  | nil =>
    cases h
    rfl
  | cons v r ih =>
    rw [List.mapM_cons, Option.bind_eq_bind, Option.bind_eq_some_iff] at h
    obtain ⟨s, hs, h⟩ := h
    rw [Option.bind_eq_bind, Option.bind_eq_some_iff] at h
    obtain ⟨l', hl', h⟩ := h
    cases h
    rw [List.map_cons, ← ih hl', eq_string_of_string? hs]

end Json

namespace Schema

theorem eq_ofInt64_of_nonNegative? {v : Json} {n : Int64} (h : nonNegative? v = some n) :
    v = .ofInt64 n :=
  Json.eq_ofInt64_of_int64? (Option.eq_some_of_filter_eq_some h)

theorem eq_ofStrings_of_strings? {v : Json} {l : List String} (h : strings? v = some l) :
    v = .ofStrings l := by
  unfold strings? at h
  cases v with
  | array items => exact congrArg Json.array (Json.eq_map_of_mapM_string? h)
  | _ => cases h

/-- The weights that are read from a document are the document's values. -/
theorem eq_map_of_integers? {d : Document} {w : KeyMap Int64}
    (h : integers? (.ofDocument d) = some w) : d = w.map .ofInt64 := by
  unfold integers? at h
  rw [Json.document?_ofDocument, Option.bind_some, KeyMap.mapOption?_eq_some_iff] at h
  refine KeyMap.ext_get? fun k => ?_
  have hk := congrArg (KeyMap.get? · k) h
  simp only [KeyMap.get?_map] at hk ⊢
  cases hd : d.get? k with
  | none =>
    rw [hd] at hk
    cases hw : w.get? k with
    | none => rfl
    | some n =>
      rw [hw] at hk
      cases hk
  | some v =>
    rw [hd] at hk
    cases hw : w.get? k with
    | none =>
      rw [hw] at hk
      cases hk
    | some n =>
      rw [hw] at hk
      rw [Json.eq_ofInt64_of_int64? (Option.some.inj hk)]
      rfl

end Schema

/-! ## What is stored for a value -/

/-- What is stored for a value of a field.  A null is replaced. -/
def Draft.filled (field : String) : Json → Json
  | .null =>
    if field = "disabled" ∨ field = "autogen" then .bool false
    else if field = "tags" ∨ field = "related_problems" then .ofStrings []
    else if field = "weightmap" then .ofDocument .empty
    else .null
  | v => v

/-- What is stored for a new value of a field. -/
def Lifecycle.storedValue (field : String) (value : Json) : Json :=
  Draft.filled field (mergedValue field value)

namespace Problem

/-- The fields that the document of a stored problem has. -/
def fieldNames : List String :=
  ["name", "score", "category", "grader", "description", "threshold", "disabled", "autogen", "tags",
    "hint", "related_problems", "weightmap"]

/-- The document of a stored problem has no other fields. -/
theorem get?_toDocument_eq_none {p : Problem} {field : String} (h : field ∉ fieldNames) :
    p.toDocument.get? field = none := by
  simp only [fieldNames, List.mem_cons, List.not_mem_nil, or_false, not_or] at h
  simp [toDocument, KeyMap.ofList, h]

/-- The values in the document of a stored problem are stored as they are. -/
theorem filled_of_get?_toDocument {p : Problem} {field : String} {v : Json}
    (h : p.toDocument.get? field = some v) : Draft.filled field v = v := by
  by_cases hfield : field ∈ fieldNames
  case neg =>
    rw [get?_toDocument_eq_none hfield] at h
    cases h
  simp only [fieldNames, List.mem_cons, List.not_mem_nil, or_false] at hfield
  rcases hfield with rfl | rfl | rfl | rfl | rfl | rfl | rfl | rfl | rfl | rfl | rfl | rfl <;>
    simp [toDocument, KeyMap.ofList] at h <;> subst h
  case inr.inr.inr.inr.inr.inr.inr.inr.inr.inl =>
    -- a hint may be null, and it is the one field of which a null is stored
    cases p.hint <;> rfl
  all_goals rfl

/-- The document of a stored problem has all its fields. -/
theorem exists_get?_toDocument (p : Problem) {field : String} (h : field ∈ fieldNames) :
    ∃ v, p.toDocument.get? field = some v := by
  simp only [fieldNames, List.mem_cons, List.not_mem_nil, or_false] at h
  rcases h with rfl | rfl | rfl | rfl | rfl | rfl | rfl | rfl | rfl | rfl | rfl | rfl <;>
    simp [toDocument, KeyMap.ofList]

end Problem

namespace Draft.IsOf

variable {p : Problem} {changes : Document} {draft : Draft}

/-- The merged document has all fields of a stored problem. -/
theorem exists_get?_merge (p : Problem) (changes : Document) {field : String}
    (hfield : field ∈ Problem.fieldNames) :
    ∃ v, (Lifecycle.merge p changes).get? field = some v := by
  rw [Lifecycle.get?_merge]
  obtain ⟨v, hv⟩ := p.exists_get?_toDocument hfield
  rw [hv]
  cases changes.get? field with
  | none => exact ⟨v, rfl⟩
  | some c => exact ⟨_, rfl⟩

/-- It has no fields but those. -/
theorem get?_merge_eq_none (h : draft.IsOf (Lifecycle.merge p changes)) {field : String}
    (hfield : field ∉ Problem.fieldNames) : (Lifecycle.merge p changes).get? field = none := by
  cases hget : (Lifecycle.merge p changes).get? field with
  | none => rfl
  | some v =>
    have hknown := h.known field ((KeyMap.mem_keys_iff _ _).2 ⟨v, hget⟩)
    have hrefused : field = "pid" ∨ field = "_id" := by
      simp only [Problem.fieldNames, Draft.fields, List.mem_cons] at hfield hknown
      grind
    rcases hrefused with rfl | rfl
    · rw [h.no_pid] at hget
      cases hget
    · rw [h.no_id] at hget
      cases hget

/-- Weights that are read from the merged document are read from the entries of a map. -/
theorem exists_ofDocument_of_merge {v : Json} {w : KeyMap Int64}
    (hget : (Lifecycle.merge p changes).get? "weightmap" = some v)
    (hread : Schema.integers? v = some w) : ∃ m : Document, v = .ofDocument m := by
  rw [Lifecycle.get?_merge] at hget
  cases hchange : changes.get? "weightmap" with
  | none =>
    rw [hchange, p.get?_toDocument_weightmap] at hget
    exact ⟨_, (Option.some.inj hget).symm⟩
  | some c =>
    rw [hchange] at hget
    obtain rfl : Lifecycle.mergedValue "weightmap" c = v := Option.some.inj hget
    unfold Lifecycle.mergedValue at hread ⊢
    rw [if_pos rfl] at hread ⊢
    cases hc : c.document? with
    | none =>
      rw [hc] at hread
      unfold Schema.integers? at hread
      rw [hc] at hread
      cases hread
    | some byName => exact ⟨_, rfl⟩

theorem filled_of_ne_null {field : String} {v : Json} (h : v ≠ .null) : filled field v = v := by
  cases v <;> first | rfl | exact absurd rfl h

/-- An optional field that is there is stored as it was read, or as what a null is replaced with. -/
theorem map_filled {α : Type} {d : Document} {field : String} {reading : Json → Option α}
    {x? : Option α} (h : Schema.HasOptional d field reading x?)
    (hpresent : ∃ v, d.get? field = some v) {written : α → Json}
    (hwritten : ∀ v x, d.get? field = some v → reading v = some x → v = written x)
    (hne : ∀ x, written x ≠ .null) :
    (d.get? field).map (filled field) = some ((x?.map written).getD (filled field .null)) := by
  cases h with
  | absent h =>
    obtain ⟨v, hv⟩ := hpresent
    rw [h] at hv
    cases hv
  | null h =>
    rw [h]
    rfl
  | @present x h =>
    obtain ⟨v, hget, hread⟩ := h
    rw [hget, hwritten v x hget hread]
    exact congrArg some (filled_of_ne_null (hne x))

/-- The document of the draft's problem says what the merged document says, with nulls replaced. -/
theorem get?_toDocument (h : draft.IsOf (Lifecycle.merge p changes)) (pid field : String) :
    (Problem.ofDraft pid draft).toDocument.get? field =
      ((Lifecycle.merge p changes).get? field).map (filled field) := by
  by_cases hfield : field ∈ Problem.fieldNames
  case neg =>
    rw [Problem.get?_toDocument_eq_none hfield, h.get?_merge_eq_none hfield, Option.map_none]
  have hpresent := exists_get?_merge p changes hfield
  have hstring {s : String} (hhas : Schema.Has (Lifecycle.merge p changes) field Json.string? s) :
      ((Lifecycle.merge p changes).get? field).map (filled field) = some (.string s) := by
    obtain ⟨v, hget, hread⟩ := hhas
    rw [hget, Json.eq_string_of_string? hread]
    rfl
  have hinteger {n : Int64}
      (hhas : Schema.Has (Lifecycle.merge p changes) field Schema.nonNegative? n) :
      ((Lifecycle.merge p changes).get? field).map (filled field) = some (.ofInt64 n) := by
    obtain ⟨v, hget, hread⟩ := hhas
    rw [hget, Schema.eq_ofInt64_of_nonNegative? hread]
    rfl
  have hbool {b? : Option Bool}
      (hoptional : Schema.HasOptional (Lifecycle.merge p changes) field Json.bool? b?) :
      ((Lifecycle.merge p changes).get? field).map (filled field) =
        some ((b?.map Json.bool).getD (filled field .null)) :=
    map_filled hoptional hpresent (fun _ _ _ => Json.eq_bool_of_bool?) fun _ => Json.noConfusion
  have hstrings {l? : Option (List String)}
      (hoptional : Schema.HasOptional (Lifecycle.merge p changes) field Schema.strings? l?) :
      ((Lifecycle.merge p changes).get? field).map (filled field) =
        some ((l?.map Json.ofStrings).getD (filled field .null)) :=
    map_filled hoptional hpresent (fun _ _ _ => Schema.eq_ofStrings_of_strings?)
      fun _ => Json.noConfusion
  simp only [Problem.fieldNames, List.mem_cons, List.not_mem_nil, or_false] at hfield
  unfold Problem.toDocument KeyMap.ofList Problem.ofDraft Problem.assemble
  rcases hfield with rfl | rfl | rfl | rfl | rfl | rfl | rfl | rfl | rfl | rfl | rfl | rfl
  -- the fields that must be there
  · simp [hstring h.name]
  · simp [hinteger h.score]
  · simp [hstring h.category]
  · simp [hstring h.grader]
  · simp [hstring h.description]
  · simp [hinteger h.threshold]
  -- the fields that may be null
  · rw [hbool h.disabled]
    cases draft.disabled <;> simp [filled]
  · rw [hbool h.autogen]
    cases draft.autogen <;> simp [filled]
  · rw [hstrings h.tags]
    cases draft.tags <;> simp [filled]
  · rw [map_filled h.hint hpresent (fun _ _ _ => Json.eq_string_of_string?)
      fun _ => Json.noConfusion]
    cases draft.hint <;> simp [filled, Json.ofString?]
  · rw [hstrings h.relatedProblems]
    cases draft.relatedProblems <;> simp [filled]
  · have hempty : (KeyMap.empty : KeyMap Int64).map Json.ofInt64 = .empty := rfl
    have hwritten (v : Json) (w : KeyMap Int64)
        (hget : (Lifecycle.merge p changes).get? "weightmap" = some v)
        (hread : Schema.integers? v = some w) : v = .ofDocument (w.map .ofInt64) := by
      obtain ⟨m, rfl⟩ := exists_ofDocument_of_merge hget hread
      exact congrArg Json.ofDocument (Schema.eq_map_of_integers? hread)
    rw [map_filled h.weightmap hpresent hwritten fun _ => Json.noConfusion]
    cases draft.weightmap <;> simp [filled, hempty]

/-- **An update in terms of documents**: a field that has a new value says so, and any other field
says what it said before. -/
theorem get?_of_merge (h : draft.IsOf (Lifecycle.merge p changes)) (pid field : String) :
    (Problem.ofDraft pid draft).toDocument.get? field =
      ((changes.get? field).map (Lifecycle.storedValue field)).or (p.toDocument.get? field) := by
  rw [h.get?_toDocument, Lifecycle.get?_merge]
  cases hchange : changes.get? field with
  | some c => rfl
  | none =>
    rw [Option.map_none, Option.none_or]
    cases hget : p.toDocument.get? field with
    | none => rfl
    | some v => exact congrArg some (Problem.filled_of_get?_toDocument hget)

end Draft.IsOf

end CaptureTheFlag
