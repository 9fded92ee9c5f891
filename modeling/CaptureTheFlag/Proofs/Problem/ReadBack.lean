import CaptureTheFlag.Proofs.Problem.Document
import CaptureTheFlag.Proofs.Problem.Proper

/-!
# A stored problem reads back

A stored problem is written as a document whenever it is updated, and the document is read again.
Where no field has a new value, the problem that comes out is the one that went in.

* `Problem.toDraft`: the draft of a stored problem, with every field in it.
* `Problem.IsReadable`: the rules on names, points and thresholds are kept.
* `Problem.IsReadable.isOf_toDraft`: then it is the draft of the problem's document.
* `Problem.ofDraft_toDraft`: and it makes the problem again.
* `Draft.IsOf.switch`: the same when the problem is switched off or on.
* `Store.isInvariant_hasReadableProblems`: that all stored problems read back, lie under their own
  identifiers and have names of their own is an invariant of the service.

The rules on names, points and thresholds are applied to what is stored as they are to what comes in,
so a problem that broke one could not be updated any more.  The weights are not looked at again.  This
is why the invariant holds of operations that are under way at once: what an update writes has been
read by the rules, and it does not matter of which problem it is an update.
-/

namespace CaptureTheFlag

/-! ## Values -/

namespace Json

theorem mapM_string?_map_string (l : List String) : (l.map Json.string).mapM string? = some l := by
  induction l with
  | nil => rfl
  | cons s r ih =>
    rw [List.map_cons, List.mapM_cons, ih]
    rfl

end Json

namespace Schema

theorem strings?_ofStrings (l : List String) : strings? (.ofStrings l) = some l :=
  Json.mapM_string?_map_string l

theorem nonNegative?_ofInt64 {n : Int64} (h : 0 ≤ n) : nonNegative? (.ofInt64 n) = some n := by
  unfold nonNegative?
  rw [Json.int64?_ofInt64]
  exact Option.filter_some_pos (decide_eq_true h)

theorem integers?_ofDocument (w : KeyMap Int64) :
    integers? (.ofDocument (w.map .ofInt64)) = some w := by
  unfold integers?
  rw [Json.document?_ofDocument, Option.bind_some, KeyMap.mapOption?_eq_some_iff]
  refine KeyMap.ext_get? fun k => ?_
  simp only [KeyMap.get?_map]
  cases w.get? k with
  | none => rfl
  | some n => exact congrArg some (Json.int64?_ofInt64 n)

end Schema

/-! ## Problems -/

namespace Problem

/-- The draft of a stored problem.  All its fields are there. -/
def toDraft (p : Problem) : Draft where
  name := p.name
  score := p.score
  category := p.category
  grader := p.grader
  description := p.description
  threshold := p.threshold
  disabled := some p.disabled
  autogen := some p.autogen
  relatedProblems := some p.relatedProblems
  weightmap := some p.weightmap
  tags := some p.tags
  hint := p.hint

/-- **The draft of a problem makes the problem again.** -/
theorem ofDraft_toDraft (p : Problem) : ofDraft p.pid p.toDraft = p := rfl

/-- The rules on names, points and thresholds are kept. -/
structure IsReadable (p : Problem) : Prop where
  trim_name_ne : Text.trim p.name ≠ ""
  score_nonneg : 0 ≤ p.score
  threshold_nonneg : 0 ≤ p.threshold

/-- **The document of such a problem breaks no rule**, and what it says is the problem. -/
theorem IsReadable.isOf_toDraft {p : Problem} (hp : p.IsReadable) :
    p.toDraft.IsOf p.toDocument where
  known field hfield := by
    obtain ⟨v, hv⟩ := (KeyMap.mem_keys_iff _ _).1 hfield
    have hstored : field ∈ fieldNames := by
      by_contra hunknown
      rw [get?_toDocument_eq_none hunknown] at hv
      cases hv
    have hallowed : fieldNames ⊆ Draft.fields := by decide
    exact hallowed hstored
  no_pid := get?_toDocument_eq_none (by decide)
  no_id := get?_toDocument_eq_none (by decide)
  name := ⟨.string p.name, by simp [toDocument, KeyMap.ofList], rfl⟩
  trim_name_ne := hp.trim_name_ne
  score :=
    ⟨.ofInt64 p.score, by simp [toDocument, KeyMap.ofList],
      Schema.nonNegative?_ofInt64 hp.score_nonneg⟩
  category := ⟨.string p.category, by simp [toDocument, KeyMap.ofList], rfl⟩
  grader := ⟨.string p.grader, by simp [toDocument, KeyMap.ofList], rfl⟩
  description := ⟨.string p.description, by simp [toDocument, KeyMap.ofList], rfl⟩
  threshold :=
    ⟨.ofInt64 p.threshold, by simp [toDocument, KeyMap.ofList],
      Schema.nonNegative?_ofInt64 hp.threshold_nonneg⟩
  disabled := .present ⟨.bool p.disabled, by simp [toDocument, KeyMap.ofList], rfl⟩
  autogen := .present ⟨.bool p.autogen, by simp [toDocument, KeyMap.ofList], rfl⟩
  relatedProblems :=
    .present ⟨.ofStrings p.relatedProblems, by simp [toDocument, KeyMap.ofList],
      Schema.strings?_ofStrings p.relatedProblems⟩
  weightmap :=
    .present ⟨_, p.get?_toDocument_weightmap, Schema.integers?_ofDocument p.weightmap⟩
  tags :=
    .present ⟨.ofStrings p.tags, by simp [toDocument, KeyMap.ofList],
      Schema.strings?_ofStrings p.tags⟩
  hint := by
    have hget : p.toDocument.get? "hint" = some (.ofString? p.hint) := by
      simp [toDocument, KeyMap.ofList]
    show Schema.HasOptional p.toDocument "hint" Json.string? p.hint
    cases hhint : p.hint with
    | none =>
      rw [hhint] at hget
      exact .null hget
    | some hint =>
      rw [hhint] at hget
      exact .present ⟨_, hget, rfl⟩

end Problem

/-! ## Switching off and on -/

namespace Schema

variable {α : Type} {d : Document} {field other : String} {reading : Json → Option α} {v : Json}

/-- A field says what it said when another is put in. -/
theorem Has.insert {x : α} (h : Has d field reading x) (hne : field ≠ other) :
    Has (d.insert other v) field reading x := by
  obtain ⟨w, hget, hread⟩ := h
  exact ⟨w, by rw [KeyMap.get?_insert, if_neg hne, hget], hread⟩

theorem HasOptional.insert {x? : Option α} (h : HasOptional d field reading x?)
    (hne : field ≠ other) : HasOptional (d.insert other v) field reading x? := by
  cases h with
  | absent h => exact .absent (by rw [KeyMap.get?_insert, if_neg hne, h])
  | null h => exact .null (by rw [KeyMap.get?_insert, if_neg hne, h])
  | present h => exact .present (h.insert hne)

end Schema

/-- A document in which a problem is switched off or on makes the draft with the switch set. -/
theorem Draft.IsOf.switch {d : Document} {draft : Draft} (h : draft.IsOf d) (disabled : Bool) :
    IsOf (d.insert "disabled" (.bool disabled)) { draft with disabled := some disabled } where
  known field hfield := by
    obtain ⟨v, hv⟩ := (KeyMap.mem_keys_iff _ _).1 hfield
    rw [KeyMap.get?_insert] at hv
    by_cases hsame : field = "disabled"
    · rw [hsame]
      decide
    · rw [if_neg hsame] at hv
      exact h.known field ((KeyMap.mem_keys_iff _ _).2 ⟨v, hv⟩)
  no_pid := by rw [KeyMap.get?_insert, if_neg (by decide), h.no_pid]
  no_id := by rw [KeyMap.get?_insert, if_neg (by decide), h.no_id]
  name := h.name.insert (by decide)
  trim_name_ne := h.trim_name_ne
  score := h.score.insert (by decide)
  category := h.category.insert (by decide)
  grader := h.grader.insert (by decide)
  description := h.description.insert (by decide)
  threshold := h.threshold.insert (by decide)
  disabled := .present ⟨.bool disabled, by rw [KeyMap.get?_insert, if_pos rfl], rfl⟩
  autogen := h.autogen.insert (by decide)
  relatedProblems := h.relatedProblems.insert (by decide)
  weightmap := h.weightmap.insert (by decide)
  tags := h.tags.insert (by decide)
  hint := h.hint.insert (by decide)

/-- The merged document of a problem that is switched off or on makes that problem. -/
theorem Problem.IsReadable.isOf_merge {p : Problem} (hp : p.IsReadable) (disabled : Bool) :
    Draft.IsOf (Lifecycle.merge p (KeyMap.empty.insert "disabled" (.bool disabled)))
      { p.toDraft with disabled := some disabled } :=
  hp.isOf_toDraft.switch disabled

/-! ## Stores -/

/-- A document that breaks no rule makes a problem that reads back, under any identifier and with
any weights. -/
theorem Draft.IsOf.isReadable_assemble {d : Document} {draft : Draft} (h : draft.IsOf d)
    (pid : String) (weightmap : KeyMap Int64) :
    (Problem.assemble pid draft weightmap).IsReadable where
  trim_name_ne := h.trim_name_ne
  score_nonneg := Schema.nonneg_of_has h.score
  threshold_nonneg := Schema.nonneg_of_has h.threshold

namespace Store

/-- Every problem lies under its own identifier, no two have one name, and all read back. -/
structure HasReadableProblems (s : Store) : Prop where
  wellKeyed : s.WellKeyed
  eq_of_name_eq : ∀ p ∈ s.problems.values, ∀ q ∈ s.problems.values, p.name = q.name → p = q
  isReadable : ∀ p ∈ s.problems.values, p.IsReadable

namespace HasReadableProblems

variable {s s' : Store}

theorem of_problems_eq (hs : s.HasReadableProblems) (h : s'.problems = s.problems) :
    s'.HasReadableProblems :=
  ⟨hs.wellKeyed.of_problems_eq h, h ▸ hs.eq_of_name_eq, h ▸ hs.isReadable⟩

/-- A problem is put where it belongs, and no other problem has its name. -/
theorem insert (hs : s.HasReadableProblems) {p : Problem} (hp : p.IsReadable)
    (hname : ∀ q ∈ s.problems.values, q.name = p.name → q.pid = p.pid) :
    { s with problems := s.problems.insert p.pid p }.HasReadableProblems := by
  have hmem : ∀ q ∈ (s.problems.insert p.pid p).values,
      q = p ∨ q ∈ s.problems.values ∧ q.pid ≠ p.pid := by
    intro q hq
    obtain ⟨pid, hpid⟩ := (KeyMap.mem_values_iff _ q).1 hq
    rw [KeyMap.get?_insert] at hpid
    by_cases hsame : pid = p.pid
    · rw [if_pos hsame] at hpid
      exact Or.inl (Option.some.inj hpid).symm
    · rw [if_neg hsame] at hpid
      refine Or.inr ⟨(KeyMap.mem_values_iff _ q).2 ⟨pid, hpid⟩, ?_⟩
      rw [hs.wellKeyed pid q hpid]
      exact hsame
  refine ⟨hs.wellKeyed.insert p, fun q hq q' hq' hsame => ?_, fun q hq => ?_⟩
  · rcases hmem q hq with rfl | ⟨hold, hpid⟩ <;> rcases hmem q' hq' with rfl | ⟨hold', hpid'⟩
    · rfl
    · exact absurd (hname q' hold' hsame.symm) hpid'
    · exact absurd (hname q hold hsame) hpid
    · exact hs.eq_of_name_eq q hold q' hold' hsame
  · rcases hmem q hq with rfl | ⟨hold, -⟩
    · exact hp
    · exact hs.isReadable q hold

theorem deleteProblem (hs : s.HasReadableProblems) (pid : String) :
    (s.deleteProblem pid).2.HasReadableProblems := by
  have hmem : ∀ q ∈ (s.problems.erase pid).values, q ∈ s.problems.values := by
    intro q hq
    obtain ⟨pid', hpid'⟩ := (KeyMap.mem_values_iff _ q).1 hq
    rw [KeyMap.get?_erase] at hpid'
    split at hpid'
    · cases hpid'
    · exact (KeyMap.mem_values_iff _ q).2 ⟨pid', hpid'⟩
  exact ⟨hs.wellKeyed.deleteProblem pid,
    fun q hq q' hq' => hs.eq_of_name_eq q (hmem q hq) q' (hmem q' hq'),
    fun q hq => hs.isReadable q (hmem q hq)⟩

/-- The store itself sees to the names and the identifiers, and what it is given reads back. -/
theorem perform (hs : s.HasReadableProblems) {setup : Setup} {o : Operation} {c : Call}
    (hc : o.Makes setup c) : (c.perform s).2.HasReadableProblems := by
  by_cases hwrites : c.WritesProblems
  · cases c with
    | insertProblem p =>
      obtain ⟨-, doc, draft, hdraft, -, rfl⟩ := hc
      have hp : (Problem.create draft).IsReadable :=
        (Draft.ofDocument_eq_ok_iff.1 hdraft).isReadable_assemble _ _
      show (Store.insertProblem _ s).2.HasReadableProblems
      rcases insertProblem_cases (Problem.create draft) s with hcase | ⟨-, hnew, hcase⟩ <;>
        rw [hcase]
      · exact hs
      · exact hs.insert hp fun q hq hname => absurd hname (hnew q hq)
    | replaceProblem p =>
      obtain ⟨-, stored, changes, draft, hdraft, rfl⟩ := hc
      have hp : (Problem.ofDraft stored.pid draft).IsReadable :=
        (Draft.ofDocument_eq_ok_iff.1 hdraft).isReadable_assemble stored.pid _
      show (Store.replaceProblem _ s).2.HasReadableProblems
      rcases replaceProblem_cases (Problem.ofDraft stored.pid draft) s with
        hcase | hcase | ⟨-, hname, hcase⟩ <;> rw [hcase]
      · exact hs
      · exact hs
      · exact hs.insert hp hname
    | deleteProblem pid => exact hs.deleteProblem pid
    | _ => exact hwrites.elim
  · exact hs.of_problems_eq (Call.problems_perform hwrites s)

end HasReadableProblems

/-- **That all stored problems read back is an invariant of the service.** -/
theorem isInvariant_hasReadableProblems : IsInvariant HasReadableProblems where
  empty := {
    wellKeyed := Reachable.wellKeyed .empty
    eq_of_name_eq := fun _ hp => by cases hp
    isReadable := fun _ hp => by cases hp }
  addUser _ _ hs := hs.of_problems_eq rfl
  perform _ _ _ _ hc hs := hs.perform hc

end Store

end CaptureTheFlag
