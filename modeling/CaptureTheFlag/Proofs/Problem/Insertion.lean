import CaptureTheFlag.Proofs.Problem.Lifecycle
import CaptureTheFlag.Proofs.Problem.Naming
import CaptureTheFlag.Proofs.Problem.Rules

/-!
# A problem is inserted and looked up

A document that is inserted is refused for the rules, for its grader or for its name, in this order.
If it is not refused, the problem that is found under the identifier of its name says what the
document says, with the defaults for what it leaves open and with identifiers for the names in its
weightmap.

* `KeyMap.get?_foldl_insert_eq_some_iff`: entries put in under images of their keys, where several
  keys may have one image.
* `Problem.get?_rekey_eq_some_iff`: of the names with one identifier, the greatest gives its weight.
* `Document.completed`: the document with the defaults and the identifiers.
* `Draft.IsOf.toDocument_create`: a new problem says what its completed document says.
* `Lifecycle.IsRefused`: why a document is refused; `Lifecycle.IsInserted`: what becomes of one that
  is not.
* `insert_and_get`: together.

## Names before numbers

A draft has weights that are numbers, and they get their identifiers as such.  In the document the
same weights are values of JSON.  It does not matter which comes first, the identifiers or the
numbers (`Problem.rekey_map`), so what is stored can be told from the document alone.
-/

namespace CaptureTheFlag

open Program

/-! ## Maps -/

namespace KeyMap

variable {α β : Type}

theorem map_insert (f : α → β) (m : KeyMap α) (k : String) (v : α) :
    (m.insert k v).map f = (m.map f).insert k (f v) := by
  refine ext_get? fun k' => ?_
  rw [get?_map, get?_insert, get?_insert, get?_map]
  split <;> rfl

theorem map_foldl_insert (f : α → β) (l : List (String × α)) (m : KeyMap α) :
    (l.foldl (fun m e => m.insert e.1 e.2) m).map f =
      (l.map fun e => (e.1, f e.2)).foldl (fun m e => m.insert e.1 e.2) (m.map f) := by
  induction l generalizing m with
  | nil => rfl
  | cons e r ih => rw [List.foldl_cons, ih, map_insert, List.map_cons, List.foldl_cons]

theorem map_ofList (f : α → β) (l : List (String × α)) :
    (ofList l).map f = ofList (l.map fun e => (e.1, f e.2)) :=
  map_foldl_insert f l empty

theorem get?_foldl_insert_map (g : String → α) (l : List String) (m : KeyMap α) (k : String) :
    ((l.map fun k' => (k', g k')).foldl (fun m e => m.insert e.1 e.2) m).get? k =
      if k ∈ l then some (g k) else m.get? k := by
  induction l generalizing m with
  | nil => rfl
  | cons k' r ih =>
    rw [List.map_cons, List.foldl_cons, ih, get?_insert]
    by_cases hr : k ∈ r
    · rw [if_pos hr, if_pos (List.mem_cons_of_mem _ hr)]
    · rw [if_neg hr]
      by_cases hk : k = k'
      · subst hk
        rw [if_pos rfl, if_pos List.mem_cons_self]
      · have hnot : k ∉ k' :: r := by simp [hk, hr]
        rw [if_neg hk, if_neg hnot]

/-- The map of pairs in which every key has its own value. -/
theorem get?_ofList_map (g : String → α) (l : List String) (k : String) :
    (ofList (l.map fun k' => (k', g k'))).get? k = if k ∈ l then some (g k) else none :=
  get?_foldl_insert_map g l empty k

/-- Entries are put in one after another, each under an image of its key.  Of the entries whose keys
have one image, the one with the greatest key is found.  The induction is on the entries, which
ascend, and what was there before stands for those that have been put in already. -/
theorem get?_foldl_insert_eq_some_iff (g : String → String) (m : KeyMap α)
    {l : List (String × α)} (h : l.Pairwise fun a b => a.1 < b.1) {k : String} {v : α} :
    (l.foldl (fun m e => m.insert (g e.1) e.2) m).get? k = some v ↔
      (∃ e ∈ l, g e.1 = k ∧ e.2 = v ∧ ∀ e' ∈ l, g e'.1 = k → e'.1 ≤ e.1) ∨
        ((∀ e ∈ l, g e.1 ≠ k) ∧ m.get? k = some v) := by
  induction l generalizing m with
  | nil => simp
  | cons e r ih =>
    obtain ⟨hfirst, hr⟩ := List.pairwise_cons.1 h
    rw [List.foldl_cons, ih _ hr, get?_insert]
    constructor
    · rintro (⟨x, hx, hk, hv, hgreatest⟩ | ⟨hnone, hget⟩)
      · refine Or.inl ⟨x, List.mem_cons_of_mem _ hx, hk, hv, fun e' he' hk' => ?_⟩
        rcases List.mem_cons.1 he' with rfl | he'
        · exact Std.le_of_lt (hfirst x hx)
        · exact hgreatest e' he' hk'
      · split at hget
        · next hk =>
          refine Or.inl ⟨e, List.mem_cons_self, hk.symm, Option.some.inj hget, fun e' he' hk' => ?_⟩
          rcases List.mem_cons.1 he' with rfl | he'
          · exact String.le_refl _
          · exact absurd hk' (hnone e' he')
        · next hk =>
          refine Or.inr ⟨fun e' he' => ?_, hget⟩
          rcases List.mem_cons.1 he' with rfl | he'
          · exact fun hsame => hk hsame.symm
          · exact hnone e' he'
    · rintro (⟨x, hx, hk, hv, hgreatest⟩ | ⟨hnone, hget⟩)
      · rcases List.mem_cons.1 hx with rfl | hx
        · -- an entry behind the first has a greater key
          refine Or.inr ⟨fun e' he' hk' => ?_, ?_⟩
          · have hle : e'.1 ≤ x.1 := hgreatest e' (List.mem_cons_of_mem _ he') hk'
            exact absurd (hfirst e' he') (Std.not_lt.2 hle)
          · rw [if_pos hk.symm, hv]
        · exact Or.inl ⟨x, hx, hk, hv, fun e' he' => hgreatest e' (List.mem_cons_of_mem _ he')⟩
      · have hk : k ≠ g e.1 := fun hsame => hnone e List.mem_cons_self hsame.symm
        refine Or.inr ⟨fun e' he' => hnone e' (List.mem_cons_of_mem _ he'), ?_⟩
        rw [if_neg hk, hget]

end KeyMap

namespace Problem

/-- Weights get their identifiers before or after they are turned into others. -/
theorem rekey_map {α β : Type} (f : α → β) (byName : KeyMap α) :
    rekey (byName.map f) = (rekey byName).map f := by
  unfold rekey
  rw [KeyMap.map_ofList, List.map_map]
  show KeyMap.ofList ((byName.entries.map _).map _) = _
  rw [List.map_map]
  rfl

/-- **Of the names with one identifier, the greatest gives its weight.** -/
theorem get?_rekey_eq_some_iff {α : Type} {byName : KeyMap α} {pid : String} {w : α} :
    (rekey byName).get? pid = some w ↔ ∃ name, pidOf name = pid ∧ byName.get? name = some w ∧
      ∀ other ∈ byName.keys, pidOf other = pid → other ≤ name := by
  unfold rekey KeyMap.ofList
  rw [List.foldl_map, KeyMap.get?_foldl_insert_eq_some_iff pidOf .empty byName.ascending]
  constructor
  · rintro (⟨⟨name, v⟩, he, hpid, rfl, hgreatest⟩ | ⟨-, hget⟩)
    · refine ⟨name, hpid, (byName.mem_entries_iff name v).1 he, fun other hother hsame => ?_⟩
      obtain ⟨e', he', rfl⟩ := List.mem_map.1 hother
      exact hgreatest e' he' hsame
    · cases hget
  · rintro ⟨name, hpid, hget, hgreatest⟩
    refine Or.inl ⟨(name, w), (byName.mem_entries_iff name w).2 hget, hpid, rfl, ?_⟩
    exact fun e' he' => hgreatest e'.1 (List.mem_map_of_mem he')

end Problem

/-! ## The document of a new problem -/

/-- The document with all fields of a problem, each with what is stored for its value.  A field that
is absent has the default, as if it were null. -/
def Document.completed (d : Document) : Document :=
  KeyMap.ofList <| Problem.fieldNames.map fun field =>
    (field, Lifecycle.storedValue field ((d.get? field).getD .null))

theorem Document.get?_completed (d : Document) (field : String) :
    d.completed.get? field =
      if field ∈ Problem.fieldNames then
        some (Lifecycle.storedValue field ((d.get? field).getD .null))
      else none :=
  KeyMap.get?_ofList_map _ _ _

theorem Lifecycle.storedValue_of_ne {field : String} (h : field ≠ "weightmap") (value : Json) :
    storedValue field value = Draft.filled field value := by
  unfold storedValue mergedValue
  rw [if_neg h]

namespace Draft

variable {d : Document} {draft : Draft}

/-- A field other than the weightmap is stored as the document has it, with the default for null. -/
theorem Holds.get?_toDocument (h : draft.Holds d) (pid : String) (weightmap : KeyMap Int64)
    {field : String} (hfield : field ∈ Problem.fieldNames) (hne : field ≠ "weightmap") :
    (Problem.assemble pid draft weightmap).toDocument.get? field =
      some (filled field ((d.get? field).getD .null)) := by
  unfold Problem.toDocument KeyMap.ofList Problem.assemble
  simp only [Problem.fieldNames, List.mem_cons, List.not_mem_nil, or_false] at hfield
  rcases hfield with rfl | rfl | rfl | rfl | rfl | rfl | rfl | rfl | rfl | rfl | rfl | rfl
  -- the fields that must be there
  · simp [h.name, filled]
  · simp [h.score, filled, Json.ofInt64]
  · simp [h.category, filled]
  · simp [h.grader, filled]
  · simp [h.description, filled]
  · simp [h.threshold, filled, Json.ofInt64]
  -- the fields that may be null
  · rw [h.disabled]
    cases draft.disabled <;> simp [filled]
  · rw [h.autogen]
    cases draft.autogen <;> simp [filled]
  · rw [h.tags]
    cases draft.tags <;> simp [filled, Json.ofStrings]
  · rw [h.hint]
    cases draft.hint <;> simp [filled, Json.ofString?]
  · rw [h.relatedProblems]
    cases draft.relatedProblems <;> simp [filled, Json.ofStrings]
  · exact absurd rfl hne

/-- The weights by identifiers are what is stored for the document's weights by names. -/
theorem IsOf.storedValue_weightmap (h : draft.IsOf d) :
    Lifecycle.storedValue "weightmap" ((d.get? "weightmap").getD .null) =
      .ofDocument ((Problem.rekey (draft.weightmap.getD .empty)).map .ofInt64) := by
  have hnone : Lifecycle.storedValue "weightmap" .null =
      .ofDocument ((Problem.rekey (.empty : KeyMap Int64)).map .ofInt64) := rfl
  have hweights := h.weightmap
  cases hw : draft.weightmap with
  | none =>
    rw [hw] at hweights
    cases hweights with
    | absent habsent =>
      rw [habsent]
      exact hnone
    | null hnull =>
      rw [hnull]
      exact hnone
  | some w =>
    rw [hw] at hweights
    obtain ⟨v, hget, hread⟩ := hweights.has
    have hv : v.document? = some (w.map .ofInt64) := Schema.document?_of_integers? hread
    rw [hget, Option.getD_some, Option.getD_some, ← Problem.rekey_map]
    unfold Lifecycle.storedValue Lifecycle.mergedValue
    rw [if_pos rfl, hv]
    rfl

/-- **A new problem says what its document says**, with the defaults and the identifiers. -/
theorem IsOf.toDocument_create (h : draft.IsOf d) :
    (Problem.create draft).toDocument = d.completed := by
  refine KeyMap.ext_get? fun field => ?_
  rw [d.get?_completed]
  split
  · next hfield =>
    by_cases hweightmap : field = "weightmap"
    · subst hweightmap
      rw [Problem.get?_toDocument_weightmap, h.storedValue_weightmap]
      rfl
    · rw [Lifecycle.storedValue_of_ne hweightmap]
      exact h.holds.get?_toDocument _ _ hfield hweightmap
  · next hfield => exact Problem.get?_toDocument_eq_none hfield

/-- The weights of a new problem, by identifiers, from the weights that the document gives. -/
theorem IsOf.get?_weightmap_eq_some_iff {byName : Document} (h : draft.IsOf d)
    (hgiven : Document.GivesWeights d byName) {pid : String} {n : Int64} :
    (Problem.create draft).weightmap.get? pid = some n ↔
      ∃ name, Problem.pidOf name = pid ∧ Document.weight? byName name = some n ∧
        ∀ other ∈ byName.keys, Problem.pidOf other = pid → other ≤ name := by
  obtain ⟨w, hw, hkeys, hget⟩ := h.exists_weightmap hgiven
  show (Problem.rekey (draft.weightmap.getD .empty)).get? pid = some n ↔ _
  rw [hw, Option.getD_some, Problem.get?_rekey_eq_some_iff, hkeys]
  simp only [hget]

end Draft

/-! ## Insertions -/

/-- The grader may be used: it is registered, or that is not checked. -/
def Setup.Admits (setup : Setup) (grader : String) : Prop :=
  setup.checkGraders = false ∨ setup.registry.contains grader = true

/-- No stored problem has the identifier of the name, or the name itself.  After a renaming these
may be two problems. -/
structure Store.IsFree (s : Store) (name : String) : Prop where
  pid : s.problem? (Problem.pidOf name) = none
  name : ∀ q ∈ s.problems.values, q.name ≠ name

namespace Lifecycle

theorem checkGrader_eq_ok_iff {setup : Setup} {grader : String} :
    checkGrader setup grader = .ok () ↔ setup.Admits grader := by
  unfold checkGrader Setup.Admits
  cases setup.checkGraders <;> cases setup.registry.contains grader <;> simp

theorem eq_of_checkGrader_eq_error {setup : Setup} {grader : String} {e : Failure}
    (h : checkGrader setup grader = .error e) :
    e = .unregisteredGrader grader ∧ ¬setup.Admits grader := by
  constructor
  · unfold checkGrader at h
    split at h
    · cases h
      rfl
    · cases h
  · intro hadmits
    rw [checkGrader_eq_ok_iff.2 hadmits] at h
    cases h

/-- A stored problem is found, disabled or not. -/
theorem run_get_of_stored {s : Store} {pid : String} {p : Problem} (hp : s.problem? pid = some p) :
    (get pid true).run .none s = (.ok p, s) := by
  unfold get
  rw [bind_eq, run_bind_of_ok (run_call (.findProblem pid) s)]
  simp only [hp, Bool.true_or, if_true]
  rfl

/-- Why a document is refused.  A rule that is broken counts before the grader, and the grader
before the name. -/
inductive IsRefused (setup : Setup) (doc : Document) (s : Store) : Failure → Prop where
  | broken {e : Failure} (h : Draft.ofDocument doc = .error e) : IsRefused setup doc s e
  | unregistered {draft : Draft} (hdraft : Draft.ofDocument doc = .ok draft)
      (h : ¬setup.Admits draft.grader) : IsRefused setup doc s (.unregisteredGrader draft.grader)
  | taken {draft : Draft} (hdraft : Draft.ofDocument doc = .ok draft)
      (hgrader : setup.Admits draft.grader) (h : ¬s.IsFree draft.name) :
      IsRefused setup doc s (.nameTaken draft.name)

/-- A document has been inserted under an identifier: what is found there, and that nothing else has
changed. -/
structure IsInserted (doc : Document) (s s' : Store) (pid : String) : Prop where
  pid_eq : ∃ name, doc.get? "name" = some (.string name) ∧ pid = Problem.pidOf name
  others : ∀ other, other ≠ pid → s'.problem? other = s.problem? other
  users : s'.users = s.users
  submissions : s'.submissions = s.submissions
  found : ∃ p, (get pid true).run .none s' = (.ok p, s') ∧ p.pid = pid ∧
    p.toDocument = doc.completed ∧
    ∀ byName, Document.GivesWeights doc byName → ∀ helper n,
      p.weightmap.get? helper = some n ↔
        ∃ name, Problem.pidOf name = helper ∧ Document.weight? byName name = some n ∧
          ∀ other ∈ byName.keys, Problem.pidOf other = helper → other ≤ name

namespace IsRefused

variable {setup : Setup} {doc : Document} {s : Store} {e : Failure}

/-- Broken rules and graders that are not registered are faults of the input. -/
theorem kind_eq_validation (h : IsRefused setup doc s e)
    (hfault : ∀ draft, Draft.ofDocument doc = .ok draft → ¬setup.Admits draft.grader) :
    e.kind = .validation := by
  cases h with
  | broken hbroken =>
    obtain ⟨kept, rule, rest, -, -, hbreaks⟩ := Draft.ofDocument_eq_error_iff.1 hbroken
    exact hbreaks.kind_eq
  | unregistered => rfl
  | taken hdraft hgrader => exact absurd hgrader (hfault _ hdraft)

/-- A name that is taken is at odds with what is stored. -/
theorem kind_eq_conflict (h : IsRefused setup doc s e) {draft : Draft}
    (hdraft : Draft.ofDocument doc = .ok draft) (hgrader : setup.Admits draft.grader) :
    ¬s.IsFree draft.name ∧ e.kind = .conflict := by
  cases h with
  | broken hbroken =>
    rw [hdraft] at hbroken
    cases hbroken
  | unregistered hdraft' hnot =>
    rw [hdraft] at hdraft'
    cases hdraft'
    exact absurd hgrader hnot
  | taken hdraft' _ htaken =>
    rw [hdraft] at hdraft'
    cases hdraft'
    exact ⟨htaken, rfl⟩

end IsRefused

/-- A document that is inserted is refused, and nothing changes; or it is accepted, and a new
problem lies under the identifier of its name. -/
theorem insertion_cases (setup : Setup) (doc : Document) (s : Store) :
    (∃ e, (insert setup doc).run .none s = (.error e, s) ∧ IsRefused setup doc s e) ∨
      ∃ draft, draft.IsOf doc ∧ setup.Admits draft.grader ∧ s.IsFree draft.name ∧
        (insert setup doc).run .none s = (.ok (Problem.pidOf draft.name),
          { s with
            problems := s.problems.insert (Problem.pidOf draft.name) (Problem.create draft) }) := by
  have hinsertion := insertion setup doc s
  generalize (insert setup doc).run .none s = out at hinsertion ⊢
  cases hinsertion with
  | rejected h => exact Or.inl ⟨_, rfl, .broken h⟩
  | unregistered hdraft h =>
    obtain ⟨rfl, hnot⟩ := eq_of_checkGrader_eq_error h
    exact Or.inl ⟨_, rfl, .unregistered hdraft hnot⟩
  | taken hdraft hgrader h =>
    refine Or.inl ⟨_, rfl, .taken hdraft (checkGrader_eq_ok_iff.1 hgrader) fun hfree => ?_⟩
    rcases h with hpid | ⟨q, hq, hname⟩
    · exact hpid hfree.pid
    · exact hfree.name q hq hname
  | stored hdraft hgrader hpid hname =>
    exact Or.inr ⟨_, Draft.ofDocument_eq_ok_iff.1 hdraft, checkGrader_eq_ok_iff.1 hgrader,
      ⟨hpid, hname⟩, rfl⟩

/-- What is found where a new problem has been put. -/
theorem isInserted_of_isOf {doc : Document} {draft : Draft} (hdraft : draft.IsOf doc) (s : Store) :
    IsInserted doc s
      { s with problems := s.problems.insert (Problem.pidOf draft.name) (Problem.create draft) }
      (Problem.pidOf draft.name) where
  pid_eq := ⟨draft.name, hdraft.holds.name, rfl⟩
  others other hne := by
    show (s.problems.insert _ _).get? other = s.problems.get? other
    rw [KeyMap.get?_insert, if_neg hne]
  users := rfl
  submissions := rfl
  found := by
    refine ⟨Problem.create draft, run_get_of_stored ?_, rfl, hdraft.toDocument_create, ?_⟩
    · show (s.problems.insert _ _).get? _ = _
      rw [KeyMap.get?_insert, if_pos rfl]
    · intro byName hgiven helper n
      exact hdraft.get?_weightmap_eq_some_iff hgiven

end Lifecycle

/-- **A problem is inserted and looked up.**  A document is accepted if it keeps the rules, its
grader may be used, and its name is free; whatever else is stored does not matter.  If it is not
accepted, nothing changes, and the failure is a fault of the input unless the name is the only thing
that is wrong.  If it is accepted, then the problem that is found says what the document says, with
the defaults and the identifiers, and everything else is as before. -/
theorem insert_and_get (setup : Setup) (doc : Document) (s : Store) :
    ((∃ pid s', (Lifecycle.insert setup doc).run .none s = (.ok pid, s')) ↔
      ∃ draft, Draft.ofDocument doc = .ok draft ∧ setup.Admits draft.grader ∧
        s.IsFree draft.name) ∧
    (∀ e s', (Lifecycle.insert setup doc).run .none s = (.error e, s') →
      s' = s ∧ Lifecycle.IsRefused setup doc s e ∧
      ((∀ draft, Draft.ofDocument doc = .ok draft → ¬setup.Admits draft.grader) →
        e.kind = .validation) ∧
      ∀ draft, Draft.ofDocument doc = .ok draft → setup.Admits draft.grader →
        ¬s.IsFree draft.name ∧ e.kind = .conflict) ∧
    ∀ pid s', (Lifecycle.insert setup doc).run .none s = (.ok pid, s') →
      Lifecycle.IsInserted doc s s' pid := by
  rcases Lifecycle.insertion_cases setup doc s with
    ⟨e, hrun, hrefused⟩ | ⟨draft, hdraft, hgrader, hfree, hrun⟩
  · rw [hrun]
    refine ⟨⟨?_, ?_⟩, ?_, ?_⟩
    · rintro ⟨pid, s', h⟩
      cases h
    · rintro ⟨draft, hdraft, hgrader, hfree⟩
      exact absurd hfree (hrefused.kind_eq_conflict hdraft hgrader).1
    · intro e' s' h
      cases h
      exact ⟨rfl, hrefused, hrefused.kind_eq_validation,
        fun draft hdraft hgrader => hrefused.kind_eq_conflict hdraft hgrader⟩
    · intro pid s' h
      cases h
  · rw [hrun]
    refine ⟨⟨fun _ => ?_, fun _ => ⟨_, _, rfl⟩⟩, ?_, ?_⟩
    · exact ⟨draft, Draft.ofDocument_eq_ok_iff.2 hdraft, hgrader, hfree⟩
    · intro e' s' h
      cases h
    · intro pid s' h
      cases h
      exact Lifecycle.isInserted_of_isOf hdraft s

/-- A problem with a weight, put in beside the problem that the weight is for, is found with the
weight under the identifier of that problem, enabled, and without a hint. -/
theorem insert_and_get_locked :
    let pid := Problem.pidOf "Vault"
    let run := (Lifecycle.insert Sample.setup (Sample.locked "Warmup")).run .none Sample.renamed
    run = (.ok pid, run.2) ∧ ∃ p, (Lifecycle.get pid true).run .none run.2 = (.ok p, run.2) ∧
      p.toDocument.get? "disabled" = some (.bool false) ∧
      p.toDocument.get? "hint" = some .null ∧
      p.weightmap.get? (Problem.pidOf "Warmup") = some 5 := by
  intro pid run
  have hok : run = (.ok pid, run.2) := eq_ok_of_toOption (by decide +kernel)
  obtain ⟨-, -, hinserted⟩ := insert_and_get Sample.setup (Sample.locked "Warmup") Sample.renamed
  obtain ⟨p, hp, -, hdocument, hweights⟩ := (hinserted pid run.2 hok).found
  refine ⟨hok, p, hp, ?_, ?_, ?_⟩
  · rw [hdocument]
    rfl
  · rw [hdocument]
    rfl
  · refine (hweights _ (Sample.givesWeights_locked "Warmup") _ 5).2 ⟨"Warmup", rfl, by decide, ?_⟩
    intro other hother _
    have hkeys : (Sample.weights "Warmup").keys = ["Warmup"] := rfl
    rw [hkeys, List.mem_singleton] at hother
    subst hother
    exact String.le_refl _

end CaptureTheFlag
