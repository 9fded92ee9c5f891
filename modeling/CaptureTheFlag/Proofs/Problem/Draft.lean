import CaptureTheFlag.Problem.Lifecycle

/-!
# What a document has to say to make a draft

The rules on the fields of a document are checked one after another.  Here each rule is a condition
on the document, and a draft is told from the conditions alone.

* `Schema.Has`, `Schema.HasOptional`: a field has this value, and an optional field has it or has
  none.
* `Draft.IsOf`: the draft is what the document says, and the document breaks no rule.
* `Draft.ofDocument_eq_ok_iff`: then and only then the document makes the draft.
* `Lifecycle.get?_merge`: what a stored problem with new values for some fields says.
* `Draft.IsOf.isPid_of_merge`: the weights that it gives.

## Where weights get their identifiers

A weightmap is given by names when a problem is inserted and when it is updated, and it is stored by
identifiers.  An update writes the stored problem as a document, puts the new values in, and reads
the whole again.  So the weights that stay must not be given identifiers once more, and the new ones
must be given theirs before they are put in.  A new value that is no object is put in as it is; it
breaks the rule on weights, or it is null and there are no weights.
-/

namespace CaptureTheFlag

namespace Schema

variable {α : Type} {d : Document} {field complaint : String} {reading : Json → Option α}

/-! ## Rules -/

/-- The field is there, and this is its reading. -/
def Has (d : Document) (field : String) (reading : Json → Option α) (x : α) : Prop :=
  ∃ v, d.get? field = some v ∧ reading v = some x

/-- The value of an optional field: its reading, or nothing if the field is absent or null. -/
inductive HasOptional (d : Document) (field : String) (reading : Json → Option α) :
    Option α → Prop where
  | absent (h : d.get? field = none) : HasOptional d field reading none
  | null (h : d.get? field = some .null) : HasOptional d field reading none
  | present {x : α} (h : Has d field reading x) : HasOptional d field reading (some x)

theorem HasOptional.has {x : α} (h : HasOptional d field reading (some x)) :
    Has d field reading x := by
  cases h with
  | present hhas => exact hhas

theorem onlyFields_eq_ok_iff {allowed : List String} {u : Unit} :
    onlyFields d allowed = .ok u ↔ ∀ k ∈ d.keys, k ∈ allowed := by
  unfold onlyFields
  cases hfind : d.keys.find? (· ∉ allowed) with
  | none =>
    rw [List.find?_eq_none] at hfind
    simpa using hfind
  | some k =>
    have hk := List.find?_some hfind
    have hunknown : k ∉ allowed := of_decide_eq_true hk
    constructor
    · rintro ⟨⟩
    · exact fun h => absurd (h k (List.mem_of_find?_eq_some hfind)) hunknown

theorem forbidden_eq_ok_iff {u : Unit} :
    forbidden d field complaint = .ok u ↔ d.get? field = none := by
  unfold forbidden
  rw [← KeyMap.contains_eq_false_iff]
  cases d.contains field <;> simp

theorem required_eq_ok_iff {x : α} :
    required d field complaint reading = .ok x ↔ Has d field reading x := by
  unfold required Has
  cases d.get? field with
  | none => simp
  | some v => cases hv : reading v <;> simp [hv]

theorem optional_eq_ok_iff (hnull : reading .null = none) {x? : Option α} :
    optional d field complaint reading = .ok x? ↔ HasOptional d field reading x? := by
  constructor
  · intro h
    unfold optional at h
    split at h
    · next habsent =>
      cases h
      exact .absent habsent
    · next hget =>
      cases h
      exact .null hget
    · next v _ hget =>
      cases hv : reading v with
      | none => rw [hv] at h; cases h
      | some x =>
        rw [hv] at h
        cases h
        exact .present ⟨v, hget, hv⟩
  · rintro (h | h | ⟨v, hget, hv⟩)
    · rw [optional, h]
    · rw [optional, h]
    · unfold optional
      rw [hget]
      cases v <;> simp_all

end Schema

namespace Draft

open Schema

theorem checkName_eq_ok_iff {d : Document} {name : String} :
    checkName d = .ok name ↔ Has d "name" Json.string? name ∧ Text.trim name ≠ "" := by
  unfold checkName requiredString
  rw [Failure.bind_eq_ok_iff]
  constructor
  · rintro ⟨x, hx, h⟩
    rw [required_eq_ok_iff] at hx
    split at h
    · cases h
    · next hne =>
      cases h
      exact ⟨hx, by simpa using hne⟩
  · rintro ⟨h, hne⟩
    refine ⟨name, required_eq_ok_iff.2 h, ?_⟩
    rw [if_neg (by simpa using hne)]
    rfl

/-- The draft is what the document says, and the document breaks no rule. -/
structure IsOf (d : Document) (draft : Draft) : Prop where
  known : ∀ k ∈ d.keys, k ∈ Draft.fields
  no_pid : d.get? "pid" = none
  no_id : d.get? "_id" = none
  name : Has d "name" Json.string? draft.name
  trim_name_ne : Text.trim draft.name ≠ ""
  score : Has d "score" nonNegative? draft.score
  category : Has d "category" Json.string? draft.category
  grader : Has d "grader" Json.string? draft.grader
  description : Has d "description" Json.string? draft.description
  threshold : Has d "threshold" nonNegative? draft.threshold
  disabled : HasOptional d "disabled" Json.bool? draft.disabled
  autogen : HasOptional d "autogen" Json.bool? draft.autogen
  relatedProblems : HasOptional d "related_problems" strings? draft.relatedProblems
  weightmap : HasOptional d "weightmap" integers? draft.weightmap
  tags : HasOptional d "tags" strings? draft.tags
  hint : HasOptional d "hint" Json.string? draft.hint

theorem ofDocument_eq_ok_iff {d : Document} {draft : Draft} :
    ofDocument d = .ok draft ↔ IsOf d draft := by
  unfold ofDocument requiredString requiredNonNegative optionalBool optionalStrings optionalIntegers
    optionalString
  simp only [Failure.bind_eq_ok_iff, onlyFields_eq_ok_iff, forbidden_eq_ok_iff, checkName_eq_ok_iff,
    required_eq_ok_iff]
  have hbool : Json.bool? .null = none := rfl
  have hstrings : strings? .null = none := rfl
  have hintegers : integers? .null = none := rfl
  have hstring : Json.string? .null = none := rfl
  simp only [optional_eq_ok_iff hbool, optional_eq_ok_iff hstrings, optional_eq_ok_iff hintegers,
    optional_eq_ok_iff hstring]
  constructor
  · rintro ⟨_, hknown, _, hpid, _, hid, name, ⟨hname, htrim⟩, score, hscore, category, hcategory,
      grader, hgrader, description, hdescription, threshold, hthreshold, disabled, hdisabled,
      autogen, hautogen, related, hrelated, weightmap, hweightmap, tags, htags, hint, hhint, heq⟩
    cases heq
    exact ⟨hknown, hpid, hid, hname, htrim, hscore, hcategory, hgrader, hdescription, hthreshold,
      hdisabled, hautogen, hrelated, hweightmap, htags, hhint⟩
  · intro h
    exact ⟨(), h.known, (), h.no_pid, (), h.no_id, _, ⟨h.name, h.trim_name_ne⟩, _, h.score, _,
      h.category, _, h.grader, _, h.description, _, h.threshold, _, h.disabled, _, h.autogen, _,
      h.relatedProblems, _, h.weightmap, _, h.tags, _, h.hint, rfl⟩

end Draft

/-! ## New values for some fields -/

/-- A field of the merged document has its new value if it has one, and else what it had. -/
theorem Lifecycle.get?_merge (p : Problem) (changes : Document) (field : String) :
    (merge p changes).get? field =
      ((changes.get? field).map (mergedValue field)).or (p.toDocument.get? field) :=
  KeyMap.get?_foldl_insert mergedValue p.toDocument changes.ascending field

/-! ## Weights -/

namespace Problem

/-- The text is the identifier of some name. -/
def IsPid (pid : String) : Prop := ∃ name, pid = pidOf name

/-- Weights by names become weights by identifiers. -/
theorem isPid_of_mem_rekey {α : Type} {byName : KeyMap α} {pid : String}
    (h : pid ∈ (rekey byName).keys) : IsPid pid := by
  obtain ⟨e, he, rfl⟩ := KeyMap.mem_keys_ofList h
  obtain ⟨⟨name, v⟩, -, rfl⟩ := List.mem_map.1 he
  exact ⟨name, rfl⟩

theorem get?_toDocument_weightmap (p : Problem) :
    p.toDocument.get? "weightmap" = some (.ofDocument (p.weightmap.map .ofInt64)) := by
  simp [toDocument, KeyMap.ofList]

end Problem

/-- Integers that are read from a document are for its keys. -/
theorem Schema.keys_of_integers? {d : Document} {w : KeyMap Int64}
    (h : integers? (.ofDocument d) = some w) : w.keys = d.keys := by
  unfold integers? at h
  rw [Json.document?_ofDocument, Option.bind_some] at h
  exact KeyMap.keys_of_mapOption? h

/-- **An update keeps the weights by identifiers**, whatever it says about them. -/
theorem Draft.IsOf.isPid_of_merge {p : Problem} {changes : Document} {draft : Draft}
    (h : draft.IsOf (Lifecycle.merge p changes)) (hp : ∀ pid ∈ p.weightmap.keys, Problem.IsPid pid)
    {w : KeyMap Int64} (hw : draft.weightmap = some w) {pid : String} (hpid : pid ∈ w.keys) :
    Problem.IsPid pid := by
  have hweights := h.weightmap
  rw [hw] at hweights
  obtain ⟨v, hget, hread⟩ := hweights.has
  rw [Lifecycle.get?_merge] at hget
  cases hchange : changes.get? "weightmap" with
  | none =>
    -- the stored weights are read back
    rw [hchange, p.get?_toDocument_weightmap] at hget
    obtain rfl := Option.some.inj hget
    rw [Schema.keys_of_integers? hread, KeyMap.keys_map] at hpid
    exact hp pid hpid
  | some c =>
    rw [hchange] at hget
    obtain rfl : Lifecycle.mergedValue "weightmap" c = v := Option.some.inj hget
    unfold Lifecycle.mergedValue at hread
    rw [if_pos rfl] at hread
    cases hc : c.document? with
    | none =>
      rw [hc] at hread
      unfold Schema.integers? at hread
      rw [hc] at hread
      cases hread
    | some byName =>
      rw [hc] at hread
      rw [Schema.keys_of_integers? hread] at hpid
      exact Problem.isPid_of_mem_rekey hpid

end CaptureTheFlag
