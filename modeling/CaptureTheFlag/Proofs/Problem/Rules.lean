import CaptureTheFlag.Proofs.Problem.Schema

/-!
# The rules on the documents of problems

A document makes a draft if it breaks none of a list of rules, and the draft holds what the document
says.

* `Draft.rules`: the rules, in the order in which they are checked.
* `Draft.map_ofDocument`: making a draft is checking these rules one after another.
* `Document.IsLawful`, `Draft.Holds`: what the rules come to, and what the draft then holds.
* `Draft.decided_ofDocument`: together.

## Checks that look again

The name is read once and looked at twice: it has to be a text, and then there has to be something
to see in it.  These are two rules here, and the second reads the field again.  It finds what the
first has read, or the first has failed.  Apart from this, no check depends on what another has
read, which is why the whole is a list of checks without values (`Failure.map_bind_eq_forM`).
-/

namespace CaptureTheFlag

namespace Draft

open Schema

/-- The rules on the documents of problems, in the order in which they are checked. -/
def rules : List Rule := [
  .onlyFields fields,
  .forbidden "pid" "You should not specify a pid for a problem.",
  .forbidden "_id" "Your problems should not already have _ids.",
  .required "name" "The problem's display name must be a string." .string,
  .visible "name" "The problem's display name must not be empty.",
  .required "score" "Score must be a non-negative integer." .nonNegative,
  .required "category" "Category must be a string." .string,
  .required "grader" "The grader id must be a string." .string,
  .required "description" "The problem description must be a string." .string,
  .required "threshold" "Threshold must be a non-negative integer." .nonNegative,
  .optional "disabled" "A problem's disabled state is either true or false." .bool,
  .optional "autogen" "A problem should either be autogenerated or not, true/false." .bool,
  .optional "related_problems" "Related problems should be a list of related problems." .strings,
  .optional "weightmap" "Weightmap should be a mapping from problem names to integer weights."
    .integers,
  .optional "tags" "Tags must be described as a list." .strings,
  .optional "hint" "A hint must be a string." .string]

theorem map_checkName (d : Document) :
    (checkName d).map (fun _ => ()) =
      forM [Rule.required "name" "The problem's display name must be a string." .string,
        Rule.visible "name" "The problem's display name must not be empty."] (Rule.check d) := by
  rw [List.forM_cons, Failure.forM_singleton]
  unfold checkName requiredString Rule.check
  cases hread : Schema.required d "name" "The problem's display name must be a string."
      Json.string? with
  | error e =>
    show _ = (Schema.required d "name" "The problem's display name must be a string."
      Json.string?).map (fun _ => ()) >>= _
    rw [hread]
    rfl
  | ok name =>
    obtain ⟨v, hget, hv⟩ := required_eq_ok_iff.1 hread
    have hagain : (d.get? "name").bind Json.string? = some name := by
      rw [hget]
      exact hv
    show _ = (Schema.required d "name" "The problem's display name must be a string."
      Json.string?).map (fun _ => ()) >>= fun _ => Rule.checkVisible d "name" _
    unfold Rule.checkVisible
    rw [hread, hagain]
    simp only [Bind.bind, Except.bind, Except.map]
    cases (Text.trim name).isEmpty <;> rfl

/-- **Making a draft is checking the rules one after another.** -/
theorem map_ofDocument (d : Document) :
    (ofDocument d).map (fun _ => ()) = forM rules (Rule.check d) := by
  have hsingle {α : Type} {x : Except Failure α} (rule : Rule)
      (h : x.map (fun _ => ()) = rule.check d) :
      x.map (fun _ => ()) = forM [rule] (Rule.check d) := by
    rw [Failure.forM_singleton, h]
  unfold ofDocument
  refine Failure.map_bind_eq_forM (hsingle (.onlyFields _) (Failure.map_unit _)) fun _ => ?_
  refine Failure.map_bind_eq_forM (hsingle (.forbidden _ _) (Failure.map_unit _)) fun _ => ?_
  refine Failure.map_bind_eq_forM (hsingle (.forbidden _ _) (Failure.map_unit _)) fun _ => ?_
  refine Failure.map_bind_eq_forM (map_checkName d) fun _ => ?_
  refine Failure.map_bind_eq_forM (hsingle (.required _ _ .nonNegative) rfl) fun _ => ?_
  refine Failure.map_bind_eq_forM (hsingle (.required _ _ .string) rfl) fun _ => ?_
  refine Failure.map_bind_eq_forM (hsingle (.required _ _ .string) rfl) fun _ => ?_
  refine Failure.map_bind_eq_forM (hsingle (.required _ _ .string) rfl) fun _ => ?_
  refine Failure.map_bind_eq_forM (hsingle (.required _ _ .nonNegative) rfl) fun _ => ?_
  refine Failure.map_bind_eq_forM (hsingle (.optional _ _ .bool) rfl) fun _ => ?_
  refine Failure.map_bind_eq_forM (hsingle (.optional _ _ .bool) rfl) fun _ => ?_
  refine Failure.map_bind_eq_forM (hsingle (.optional _ _ .strings) rfl) fun _ => ?_
  refine Failure.map_bind_eq_forM (hsingle (.optional _ _ .integers) rfl) fun _ => ?_
  refine Failure.map_bind_eq_forM (hsingle (.optional _ _ .strings) rfl) fun _ => ?_
  refine Failure.map_bind_eq_forM (hsingle (.optional _ _ .string) rfl) fun _ => ?_
  rfl

end Draft

/-! ## What they come to -/

/-- **What the rules on problems come to.** -/
structure Document.IsLawful (d : Document) : Prop where
  known : ∀ field ∈ d.keys, field ∈ Problem.fieldNames
  name : ∃ s, d.get? "name" = some (.string s) ∧ ∃ c ∈ s.toList, Text.isBlank c = false
  score : Schema.Form.nonNegative.IsRequired d "score"
  category : Schema.Form.string.IsRequired d "category"
  grader : Schema.Form.string.IsRequired d "grader"
  description : Schema.Form.string.IsRequired d "description"
  threshold : Schema.Form.nonNegative.IsRequired d "threshold"
  disabled : Schema.Form.bool.IsOptional d "disabled"
  autogen : Schema.Form.bool.IsOptional d "autogen"
  relatedProblems : Schema.Form.strings.IsOptional d "related_problems"
  weightmap : Schema.Form.integers.IsOptional d "weightmap"
  tags : Schema.Form.strings.IsOptional d "tags"
  hint : Schema.Form.string.IsOptional d "hint"

namespace Draft

open Schema

/-- The draft holds what the document says.  What the draft does not have is absent or null. -/
structure Holds (d : Document) (draft : Draft) : Prop where
  name : d.get? "name" = some (.string draft.name)
  score : d.get? "score" = some (.ofInt64 draft.score)
  category : d.get? "category" = some (.string draft.category)
  grader : d.get? "grader" = some (.string draft.grader)
  description : d.get? "description" = some (.string draft.description)
  threshold : d.get? "threshold" = some (.ofInt64 draft.threshold)
  disabled : (d.get? "disabled").getD .null = (draft.disabled.map Json.bool).getD .null
  autogen : (d.get? "autogen").getD .null = (draft.autogen.map Json.bool).getD .null
  relatedProblems :
    (d.get? "related_problems").getD .null = (draft.relatedProblems.map Json.ofStrings).getD .null
  weightmap : (d.get? "weightmap").bind Json.document? = draft.weightmap.map (·.map .ofInt64)
  tags : (d.get? "tags").getD .null = (draft.tags.map Json.ofStrings).getD .null
  hint : (d.get? "hint").getD .null = (draft.hint.map Json.string).getD .null

/-- The rules leave the fields of a problem.  Two fields are known, and refused by rules of their
own. -/
theorem forall_mem_fieldNames_iff {d : Document} :
    (∀ field ∈ d.keys, field ∈ Problem.fieldNames) ↔
      (∀ field ∈ d.keys, field ∈ fields) ∧ d.get? "pid" = none ∧ d.get? "_id" = none := by
  have habsent (field : String) : d.get? field = none ↔ field ∉ d.keys := by
    rw [KeyMap.mem_keys_iff, ← Option.isSome_iff_exists, Option.not_isSome_iff_eq_none]
  rw [habsent, habsent]
  constructor
  · intro h
    have hknown : Problem.fieldNames ⊆ fields := by decide
    refine ⟨fun field hfield => hknown (h field hfield), ?_, ?_⟩
    · intro hpid
      exact absurd (h _ hpid) (by decide)
    · intro hid
      exact absurd (h _ hid) (by decide)
  · rintro ⟨hknown, hpid, hid⟩ field hfield
    have hfields : ∀ other ∈ fields,
        other ∈ Problem.fieldNames ∨ other = "pid" ∨ other = "_id" := by
      decide
    rcases hfields field (hknown field hfield) with hstored | rfl | rfl
    · exact hstored
    · exact absurd hfield hpid
    · exact absurd hfield hid

theorem isLawful_iff {d : Document} : d.IsLawful ↔ ∀ rule ∈ rules, rule.IsKept d := by
  unfold rules
  simp only [List.forall_mem_cons, Rule.isKept_onlyFields_iff, Rule.isKept_forbidden_iff,
    Rule.isKept_required_iff, Rule.isKept_visible_iff, Rule.isKept_optional_iff]
  constructor
  · intro h
    obtain ⟨hknown, hpid, hid⟩ := forall_mem_fieldNames_iff.1 h.known
    obtain ⟨s, hname, hvisible⟩ := h.name
    have hsame : ∀ s', d.get? "name" = some (.string s') →
        ∃ c ∈ s'.toList, Text.isBlank c = false := by
      intro s' hs'
      rw [hname] at hs'
      cases hs'
      exact hvisible
    exact ⟨hknown, hpid, hid, ⟨_, hname, s, rfl⟩, hsame, h.score, h.category, h.grader,
      h.description, h.threshold, h.disabled, h.autogen, h.relatedProblems, h.weightmap, h.tags,
      h.hint, by simp⟩
  · rintro ⟨hknown, hpid, hid, ⟨v, hname, s, rfl⟩, hvisible, hscore, hcategory, hgrader,
      hdescription, hthreshold, hdisabled, hautogen, hrelated, hweightmap, htags, hhint, -⟩
    exact ⟨forall_mem_fieldNames_iff.2 ⟨hknown, hpid, hid⟩, ⟨s, hname, hvisible s hname⟩, hscore,
      hcategory, hgrader, hdescription, hthreshold, hdisabled, hautogen, hrelated, hweightmap,
      htags, hhint⟩

/-- A document fails with what it breaks of the first rule that it breaks. -/
theorem ofDocument_eq_error_iff {d : Document} {e : Failure} :
    ofDocument d = .error e ↔ ∃ kept rule rest, rules = kept ++ rule :: rest ∧
      (∀ r ∈ kept, r.IsKept d) ∧ rule.Breaks d e := by
  rw [← Failure.map_eq_error_iff (f := fun _ => ()), map_ofDocument, Failure.forM_eq_error_iff]
  simp only [Rule.check_eq_ok_iff, Rule.check_eq_error_iff]

theorem exists_ofDocument_iff {d : Document} :
    (∃ draft, ofDocument d = .ok draft) ↔ d.IsLawful := by
  rw [isLawful_iff]
  have hchecks : (∀ rule ∈ rules, rule.IsKept d) ↔ forM rules (Rule.check d) = .ok () := by
    rw [Failure.forM_eq_ok_iff]
    simp only [Rule.check_eq_ok_iff]
  rw [hchecks, ← map_ofDocument]
  cases ofDocument d with
  | ok draft => exact ⟨fun _ => rfl, fun _ => ⟨draft, rfl⟩⟩
  | error e =>
    constructor
    · rintro ⟨draft, h⟩
      cases h
    · intro h
      cases h

theorem IsOf.holds {d : Document} {draft : Draft} (h : draft.IsOf d) : draft.Holds d where
  name := h.name.get?_eq Json.eq_string_of_string?
  score := h.score.get?_eq eq_ofInt64_of_nonNegative?
  category := h.category.get?_eq Json.eq_string_of_string?
  grader := h.grader.get?_eq Json.eq_string_of_string?
  description := h.description.get?_eq Json.eq_string_of_string?
  threshold := h.threshold.get?_eq eq_ofInt64_of_nonNegative?
  disabled := h.disabled.getD_eq Json.eq_bool_of_bool?
  autogen := h.autogen.getD_eq Json.eq_bool_of_bool?
  relatedProblems := h.relatedProblems.getD_eq eq_ofStrings_of_strings?
  weightmap := h.weightmap.document?_eq
  tags := h.tags.getD_eq eq_ofStrings_of_strings?
  hint := h.hint.getD_eq Json.eq_string_of_string?

/-- What a lawful document says is its draft. -/
theorem Holds.isOf {d : Document} {draft : Draft} (hd : d.IsLawful) (h : draft.Holds d) :
    draft.IsOf d := by
  obtain ⟨hknown, hpid, hid⟩ := forall_mem_fieldNames_iff.1 hd.known
  have hnonneg {field : String} {n : Int64} (hget : d.get? field = some (.ofInt64 n))
      (hform : Form.nonNegative.IsRequired d field) : Has d field nonNegative? n := by
    obtain ⟨v, hv, m, rfl, hlow, -⟩ := hform
    rw [hget] at hv
    have hm : n.toInt = m := Json.integer.inj (Option.some.inj hv)
    have hn : 0 ≤ n := by
      rw [Int64.le_iff_toInt_le, hm]
      exact hlow
    exact ⟨_, hget, nonNegative?_ofInt64 hn⟩
  have hvisible : Text.trim draft.name ≠ "" := by
    obtain ⟨s, hname, c, hc, hseen⟩ := hd.name
    rw [h.name] at hname
    cases hname
    intro hempty
    rw [(Text.trim_eq_empty_iff _).1 hempty c hc] at hseen
    cases hseen
  exact {
    known := hknown
    no_pid := hpid
    no_id := hid
    name := ⟨_, h.name, rfl⟩
    trim_name_ne := hvisible
    score := hnonneg h.score hd.score
    category := ⟨_, h.category, rfl⟩
    grader := ⟨_, h.grader, rfl⟩
    description := ⟨_, h.description, rfl⟩
    threshold := hnonneg h.threshold hd.threshold
    disabled := hasOptional_of_getD_eq h.disabled (fun _ => rfl) fun _ => Json.noConfusion
    autogen := hasOptional_of_getD_eq h.autogen (fun _ => rfl) fun _ => Json.noConfusion
    relatedProblems :=
      hasOptional_of_getD_eq h.relatedProblems strings?_ofStrings fun _ => Json.noConfusion
    weightmap := hasOptional_integers?_of_document? h.weightmap hd.weightmap
    tags := hasOptional_of_getD_eq h.tags strings?_ofStrings fun _ => Json.noConfusion
    hint := hasOptional_of_getD_eq h.hint (fun _ => rfl) fun _ => Json.noConfusion }

/-- **The drafts of documents are decided by the rules.**  A document makes a draft if it keeps the
rules, and the draft holds what the document says.  Any other document fails with what it breaks of
the first rule that it breaks, which is a fault of the input. -/
theorem decided_ofDocument (d : Document) :
    (∀ draft, ofDocument d = .ok draft ↔ d.IsLawful ∧ draft.Holds d) ∧
    ((∃ draft, ofDocument d = .ok draft) ↔ d.IsLawful) ∧
    (∀ e, ofDocument d = .error e ↔ ∃ kept rule rest, rules = kept ++ rule :: rest ∧
      (∀ r ∈ kept, r.IsKept d) ∧ rule.Breaks d e) ∧
    ∀ e, ofDocument d = .error e → e.kind = .validation := by
  refine ⟨fun draft => ?_, exists_ofDocument_iff, fun e => ofDocument_eq_error_iff, fun e h => ?_⟩
  · constructor
    · intro h
      exact ⟨exists_ofDocument_iff.1 ⟨draft, h⟩, (ofDocument_eq_ok_iff.1 h).holds⟩
    · rintro ⟨hd, hholds⟩
      exact ofDocument_eq_ok_iff.2 (hholds.isOf hd)
  · obtain ⟨kept, rule, rest, -, -, hbreaks⟩ := ofDocument_eq_error_iff.1 h
    exact hbreaks.kind_eq

/-- A blank name counts, and not the negative score, nor the tags that are no list. -/
example : ofDocument (KeyMap.ofList [("name", .string "\t"), ("score", .integer (-1)),
    ("tags", .bool true)]) =
      .error (.badField "The problem's display name must not be empty.") := by
  rfl

end Draft

end CaptureTheFlag
