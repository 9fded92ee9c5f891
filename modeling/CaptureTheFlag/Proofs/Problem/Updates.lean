import CaptureTheFlag.Proofs.Problem.Insertion
import CaptureTheFlag.Proofs.Problem.TwoUpdates
import CaptureTheFlag.Proofs.Team.Locality

/-!
# Updates and their composition

An update that succeeds gives some fields of a stored problem new values, and leaves all others as
they are.  Two updates, one after the other, come to one update with the new values of both, where
the later ones count.

* `Document.override`: new values of two updates put together.
* `Document.IsLawful.of_either`: the rules are about one field at a time.
* `Problem.eq_of_toDocument_eq`: a stored problem is told from its identifier and its document.
* `Lifecycle.IsUpdated`: what becomes of an update that succeeds.
* `Lifecycle.run_update_empty`: an update that names no field changes nothing.
* `Lifecycle.run_update_override`: two updates are one.
* `updates_merge_and_compose`: together.

## One update in place of two

What the second update reads is not what the single update reads.  The second one meets the problem
that the first has stored, in which the nulls of the first are replaced by defaults already; the
single one meets those nulls.  But every field of its document is as in one of the documents of the
two, and the rules ask for nothing that two fields have to do with each other
(`Document.IsLawful.of_either`).  So the single update makes a draft.  That it makes the same
problem need not be seen from the drafts: the documents of the two problems say the same.

The grader and the name are compared with those of the problem that is there.  A grader that has
gone and come back has changed twice for the two updates, and not at all for the single one, which
asks less.  Whoever has the name besides the problem was there before both.
-/

namespace CaptureTheFlag

open Program

namespace KeyMap

variable {α : Type}

/-- The later of two values under one key counts. -/
theorem insert_insert (m : KeyMap α) (k : String) (v v' : α) :
    (m.insert k v).insert k v' = m.insert k v' := by
  refine ext_get? fun k' => ?_
  simp only [get?_insert]
  split <;> rfl

/-- Putting in what is there changes nothing. -/
theorem insert_of_get? {m : KeyMap α} {k : String} {v : α} (h : m.get? k = some v) :
    m.insert k v = m := by
  refine ext_get? fun k' => ?_
  rw [get?_insert]
  by_cases hk : k' = k
  · rw [if_pos hk, hk, h]
  · rw [if_neg hk]

end KeyMap

/-! ## New values put together -/

/-- The fields of two documents; the second counts where both have a field. -/
def Document.override (d d' : Document) : Document :=
  d'.entries.foldl (fun d e => d.insert e.1 e.2) d

theorem Document.get?_override (d d' : Document) (field : String) :
    (d.override d').get? field = (d'.get? field).or (d.get? field) := by
  have h := KeyMap.get?_foldl_insert (fun _ v => v) d d'.ascending field
  rw [Option.map_id'] at h
  exact h

/-- Merging both is merging the second over what the first has made of the document. -/
theorem Lifecycle.get?_merge_override (p : Problem) (changes changes' : Document) (field : String) :
    (merge p (changes.override changes')).get? field =
      ((changes'.get? field).map (mergedValue field)).or ((merge p changes).get? field) := by
  rw [get?_merge, get?_merge, Document.get?_override, Option.map_or, Option.or_assoc]

/-! ## Rules on one field at a time -/

namespace Schema.Form

variable {form : Form} {d d' : Document} {field : String}

theorem IsRequired.congr (h : form.IsRequired d field) (hget : d'.get? field = d.get? field) :
    form.IsRequired d' field := by
  obtain ⟨v, hv, hfits⟩ := h
  exact ⟨v, hget.trans hv, hfits⟩

theorem IsOptional.congr (h : form.IsOptional d field) (hget : d'.get? field = d.get? field) :
    form.IsOptional d' field :=
  fun v hv hne => h v (hget.symm.trans hv) hne

end Schema.Form

/-- **The rules are about one field at a time**: a document keeps them if each of its fields is as
in one of two documents that keep them. -/
theorem Document.IsLawful.of_either {d d₁ d₂ : Document} (h₁ : d₁.IsLawful) (h₂ : d₂.IsLawful)
    (h : ∀ field, d.get? field = d₁.get? field ∨ d.get? field = d₂.get? field) : d.IsLawful where
  known field hfield := by
    obtain ⟨v, hv⟩ := (KeyMap.mem_keys_iff _ _).1 hfield
    rcases h field with hget | hget
    · exact h₁.known field ((KeyMap.mem_keys_iff _ _).2 ⟨v, hget.symm.trans hv⟩)
    · exact h₂.known field ((KeyMap.mem_keys_iff _ _).2 ⟨v, hget.symm.trans hv⟩)
  name := by
    rcases h "name" with hget | hget
    · obtain ⟨s, hs, hvisible⟩ := h₁.name
      exact ⟨s, hget.trans hs, hvisible⟩
    · obtain ⟨s, hs, hvisible⟩ := h₂.name
      exact ⟨s, hget.trans hs, hvisible⟩
  score := (h "score").elim h₁.score.congr h₂.score.congr
  category := (h "category").elim h₁.category.congr h₂.category.congr
  grader := (h "grader").elim h₁.grader.congr h₂.grader.congr
  description := (h "description").elim h₁.description.congr h₂.description.congr
  threshold := (h "threshold").elim h₁.threshold.congr h₂.threshold.congr
  disabled := (h "disabled").elim h₁.disabled.congr h₂.disabled.congr
  autogen := (h "autogen").elim h₁.autogen.congr h₂.autogen.congr
  relatedProblems :=
    (h "related_problems").elim h₁.relatedProblems.congr h₂.relatedProblems.congr
  weightmap := (h "weightmap").elim h₁.weightmap.congr h₂.weightmap.congr
  tags := (h "tags").elim h₁.tags.congr h₂.tags.congr
  hint := (h "hint").elim h₁.hint.congr h₂.hint.congr

theorem Draft.IsOf.isLawful {d : Document} {draft : Draft} (h : draft.IsOf d) : d.IsLawful :=
  Draft.exists_ofDocument_iff.1 ⟨draft, Draft.ofDocument_eq_ok_iff.2 h⟩

/-- A document makes one draft. -/
theorem Draft.IsOf.unique {d : Document} {draft draft' : Draft} (h : draft.IsOf d)
    (h' : draft'.IsOf d) : draft = draft' :=
  Except.ok.inj ((Draft.ofDocument_eq_ok_iff.2 h).symm.trans (Draft.ofDocument_eq_ok_iff.2 h'))

/-- **A stored problem is told from its identifier and its document.** -/
theorem Problem.eq_of_toDocument_eq {p q : Problem} (hp : p.IsReadable) (hq : q.IsReadable)
    (hpid : p.pid = q.pid) (hdocument : p.toDocument = q.toDocument) : p = q := by
  have hread : q.toDraft.IsOf p.toDocument := by
    rw [hdocument]
    exact hq.isOf_toDraft
  have hdraft : p.toDraft = q.toDraft := hp.isOf_toDraft.unique hread
  calc p = ofDraft p.pid p.toDraft := (ofDraft_toDraft p).symm
    _ = ofDraft q.pid q.toDraft := by rw [hpid, hdraft]
    _ = q := ofDraft_toDraft q

/-! ## One update -/

namespace Lifecycle

variable {setup : Setup} {pid : String} {changes changes' : Document} {s s' s'' : Store}
  {p q q' : Problem}

/-- What becomes of an update that succeeds. -/
structure IsUpdated (changes : Document) (p q : Problem) (s s' : Store) (pid : String) : Prop where
  pid_eq : q.pid = pid
  stored : s'.problem? pid = some q
  others : ∀ other, other ≠ pid → s'.problem? other = s.problem? other
  users : s'.users = s.users
  submissions : s'.submissions = s.submissions
  /-- Where there is no new value, the problem says what it said. -/
  kept : ∀ field, changes.get? field = none →
    q.toDocument.get? field = p.toDocument.get? field
  /-- Where there is one, it says the new value. -/
  changed : q.Says changes
  /-- A new problem with the value in its document says the same. -/
  as_inserted : ∀ field value, changes.get? field = some value →
    ∀ setup doc t pid' t', doc.get? field = some value →
      (insert setup doc).run .none t = (.ok pid', t') →
      ∃ q', (get pid' true).run .none t' = (.ok q', t') ∧
        q'.toDocument.get? field = q.toDocument.get? field

/-- A value says the same in a new problem as it does in an update. -/
theorem get?_toDocument_of_inserted {doc : Document} {t t' : Store} {pid' field : String}
    {value : Json} (hvalue : doc.get? field = some value)
    (hrun : (insert setup doc).run .none t = (.ok pid', t')) (hfield : field ∈ Problem.fieldNames) :
    ∃ q', (get pid' true).run .none t' = (.ok q', t') ∧
      q'.toDocument.get? field = some (storedValue field value) := by
  rcases insertion_cases setup doc t with ⟨e, herror, -⟩ | ⟨draft, hdraft, -, -, hok⟩
  · rw [hrun] at herror
    cases herror
  · rw [hrun] at hok
    cases hok
    obtain ⟨q', hget, -, hdocument, -⟩ := (isInserted_of_isOf hdraft t).found
    refine ⟨q', hget, ?_⟩
    rw [hdocument, doc.get?_completed, if_pos hfield, hvalue]
    rfl

theorem isUpdated_of_run (hs : s.WellKeyed) (hp : s.problem? pid = some p)
    (hrun : (update setup pid changes).run .none s = (.ok q, s')) :
    IsUpdated changes p q s s' pid := by
  obtain ⟨p', draft, hp', hdraft, -, -, rfl, rfl⟩ := (run_update_eq_ok_iff hs).1 hrun
  obtain rfl : p = p' := Option.some.inj (hp.symm.trans hp')
  have hpid : p.pid = pid := hs pid p hp
  have hupdate : (Problem.ofDraft pid draft).IsUpdateOf p changes :=
    ⟨draft, hdraft, by rw [hpid]⟩
  have hstored : (s.problems.insert pid (Problem.ofDraft pid draft)).get? pid =
      some (Problem.ofDraft pid draft) := by
    rw [KeyMap.get?_insert, if_pos rfl]
  refine ⟨rfl, hstored, ?_, rfl, rfl, fun field => hupdate.get?_eq, hupdate.toSays, ?_⟩
  · intro other hne
    show (s.problems.insert _ _).get? other = s.problems.get? other
    rw [KeyMap.get?_insert, if_neg hne]
  · intro field value hvalue setup' doc t pid' t' hdoc hinsert
    have hsays := hupdate.toSays field value hvalue
    -- no problem has fields but those of a problem, and a new value is in one of them
    have hfield : field ∈ Problem.fieldNames := by
      by_contra hnot
      rw [Problem.get?_toDocument_eq_none hnot] at hsays
      cases hsays
    obtain ⟨q', hget, hq'⟩ := get?_toDocument_of_inserted hdoc hinsert hfield
    exact ⟨q', hget, hq'.trans hsays.symm⟩

/-- An update that names no field succeeds and changes nothing, whatever became of the grader. -/
theorem run_update_empty (hs : s.HasReadableProblems) (hp : s.problem? pid = some p) :
    (update setup pid .empty).run .none s = (.ok p, s) := by
  have hpid : p.pid = pid := hs.wellKeyed pid p hp
  have hreadable : p.IsReadable := hs.isReadable p ((s.problems.mem_values_iff p).2 ⟨pid, hp⟩)
  have hmerge : merge p .empty = p.toDocument := by
    refine KeyMap.ext_get? fun field => ?_
    rw [get?_merge, KeyMap.get?_empty, Option.map_none, Option.none_or]
  have hdraft : Draft.ofDocument (merge p .empty) = .ok p.toDraft := by
    rw [hmerge]
    exact Draft.ofDocument_eq_ok_iff.2 hreadable.isOf_toDraft
  have hsame : Problem.ofDraft pid p.toDraft = p := by rw [← hpid, Problem.ofDraft_toDraft]
  have hstore : s.problems.insert pid p = s.problems := KeyMap.insert_of_get? hp
  rw [run_update_of_kept hs hp hdraft rfl rfl, hsame, hstore]

/-! ## Two updates -/

/-- The document that a single update reads has each field as one of two updates has read it. -/
theorem get?_merge_override_cases (p q : Problem) (changes changes' : Document) (field : String) :
    (merge p (changes.override changes')).get? field = (merge p changes).get? field ∨
      (merge p (changes.override changes')).get? field = (merge q changes').get? field := by
  rw [get?_merge_override, get?_merge q]
  cases changes'.get? field with
  | none =>
    rw [Option.map_none, Option.none_or]
    exact Or.inl rfl
  | some value =>
    rw [Option.map_some, Option.some_or, Option.some_or]
    exact Or.inr rfl

/-- **The draft of a single update** makes the problem that the second of two updates makes. -/
theorem exists_draft_of_override {draft draft' : Draft} (hdraft : draft.IsOf (merge p changes))
    (hdraft' : draft'.IsOf (merge (Problem.ofDraft pid draft) changes')) :
    ∃ draft'', draft''.IsOf (merge p (changes.override changes')) ∧
      Problem.ofDraft pid draft'' = Problem.ofDraft pid draft' := by
  have hlawful : (merge p (changes.override changes')).IsLawful :=
    hdraft.isLawful.of_either hdraft'.isLawful (get?_merge_override_cases _ _ _ _)
  obtain ⟨draft'', hread⟩ := Draft.exists_ofDocument_iff.2 hlawful
  have hdraft'' := Draft.ofDocument_eq_ok_iff.1 hread
  refine ⟨draft'', hdraft'', Problem.eq_of_toDocument_eq (hdraft''.isReadable_assemble pid _)
    (hdraft'.isReadable_assemble pid _) rfl (KeyMap.ext_get? fun field => ?_)⟩
  rw [hdraft''.get?_of_merge, hdraft'.get?_of_merge, hdraft.get?_of_merge, Document.get?_override,
    Option.map_or, Option.or_assoc]

/-- **Two updates are one**: what two updates that succeed come to, a single update with the new
values of both comes to, and it succeeds. -/
theorem run_update_override (hs : s.WellKeyed)
    (hrun : (update setup pid changes).run .none s = (.ok q, s'))
    (hrun' : (update setup pid changes').run .none s' = (.ok q', s'')) :
    (update setup pid (changes.override changes')).run .none s = (.ok q', s'') := by
  obtain ⟨p, draft, hp, hdraft, hgrader, -, rfl, rfl⟩ := (run_update_eq_ok_iff hs).1 hrun
  have hs' : Store.WellKeyed
      { s with problems := s.problems.insert pid (Problem.ofDraft pid draft) } :=
    hs.insert (Problem.ofDraft pid draft)
  obtain ⟨p', draft', hp', hdraft', hgrader', hname', rfl, rfl⟩ :=
    (run_update_eq_ok_iff hs').1 hrun'
  obtain rfl : Problem.ofDraft pid draft = p' := by
    change (s.problems.insert _ _).get? _ = _ at hp'
    rw [KeyMap.get?_insert, if_pos rfl] at hp'
    exact Option.some.inj hp'
  obtain ⟨draft'', hdraft'', hsame⟩ := exists_draft_of_override hdraft hdraft'
  have hgraderEq : draft''.grader = draft'.grader := congrArg Problem.grader hsame
  have hnameEq : draft''.name = draft'.name := congrArg Problem.name hsame
  refine (run_update_eq_ok_iff hs).2 ⟨p, draft'', hp, hdraft'', ?_, ?_, hsame.symm, ?_⟩
  · -- the grader has come with the second update, or with the first, or it was there
    intro hne
    rw [hgraderEq] at hne ⊢
    by_cases hfirst : draft'.grader = draft.grader
    · rw [hfirst] at hne ⊢
      exact hgrader hne
    · exact hgrader' hfirst
  · -- whoever else has the name was there before both updates
    intro other hother hname
    rw [hnameEq] at hname
    by_contra hne
    have hstored : other ∈ (s.problems.insert pid (Problem.ofDraft pid draft)).values := by
      obtain ⟨k, hk⟩ := (s.problems.mem_values_iff other).1 hother
      have hk' : k ≠ pid := fun hk' => hne ((hs k other hk).trans hk')
      refine (KeyMap.mem_values_iff _ other).2 ⟨k, ?_⟩
      rw [KeyMap.get?_insert, if_neg hk', hk]
    exact hne (hname' other hstored hname)
  · rw [hsame, KeyMap.insert_insert]

end Lifecycle

/-- **Updates merge and compose.**  Whenever a problem is stored, an update of it that succeeds
gives the fields that it names the values that they would have in a new problem, and leaves
everything else as it is; an update that names no field succeeds, as does switching the problem off
or on, with whatever graders are registered by then; and two updates that succeed come to the one in
which the new values of the second override those of the first. -/
theorem updates_merge_and_compose {s : Store} {threads : List Thread}
    (hw : World.Reachable ⟨s, threads⟩) {pid : String} {p : Problem} (hp : s.problem? pid = some p)
    (setup : Setup) :
    (∀ changes q s', (Lifecycle.update setup pid changes).run .none s = (.ok q, s') →
      Lifecycle.IsUpdated changes p q s s' pid) ∧
    (Lifecycle.update setup pid .empty).run .none s = (.ok p, s) ∧
    (∀ disabled, (Lifecycle.setDisabled setup pid disabled).run .none s =
      (.ok { p with disabled },
        { s with problems := s.problems.insert pid { p with disabled } })) ∧
    ∀ changes changes' q s' q' s'',
      (Lifecycle.update setup pid changes).run .none s = (.ok q, s') →
      (Lifecycle.update setup pid changes').run .none s' = (.ok q', s'') →
      (Lifecycle.update setup pid (changes.override changes')).run .none s = (.ok q', s'') := by
  have hs : s.HasReadableProblems := Store.isInvariant_hasReadableProblems.of_reachable hw
  refine ⟨?_, Lifecycle.run_update_empty hs hp, Lifecycle.run_setDisabled hs hp, ?_⟩
  · intro changes q s' hrun
    exact Lifecycle.isUpdated_of_run hs.wellKeyed hp hrun
  · intro changes changes' q s' q' s'' hrun hrun'
    exact Lifecycle.run_update_override hs.wellKeyed hrun hrun'

namespace Sample

/-- A new name and a new score. -/
def there : Document := KeyMap.ofList [("name", .string "Start"), ("score", .integer 7)]

/-- The old name, and no hint. -/
def back : Document := KeyMap.ofList [("name", .string "Warmup"), ("hint", .null)]

end Sample

/-- A problem is renamed there and back.  The one update in place of the two gives it the new score
and does not rename it. -/
theorem updates_merge_and_compose_there_and_back :
    let pid := Problem.pidOf "Warmup"
    let first := (Lifecycle.update Sample.setup pid Sample.there).run .none Sample.store
    let second := (Lifecycle.update Sample.setup pid Sample.back).run .none first.2
    let single :=
      (Lifecycle.update Sample.setup pid (Sample.there.override Sample.back)).run .none Sample.store
    (∃ threads, World.Reachable ⟨Sample.store, threads⟩) ∧
      (∃ p, Sample.store.problem? pid = some p) ∧
      first.1.toOption.map (·.name) = some "Start" ∧
      ∃ q, second.1.toOption = some q ∧ single = second ∧ q.name = "Warmup" ∧ q.score = 7 ∧
        second.2.problem? pid = some q := by
  intro pid first second single
  obtain ⟨threads, hw⟩ := Sample.served_store.exists_world
  obtain ⟨hstored, hfirst, hsecond⟩ :
      (Sample.store.problem? pid).isSome = true ∧ first.1.toOption.map (·.name) = some "Start" ∧
        second.1.toOption.map (fun q => (q.name, q.score)) = some ("Warmup", 7) := by
    decide +kernel
  obtain ⟨p, hp⟩ := Option.isSome_iff_exists.1 hstored
  obtain ⟨q, hq, -⟩ := Option.map_eq_some_iff.1 hfirst
  obtain ⟨q', hq', hpair⟩ := Option.map_eq_some_iff.1 hsecond
  obtain ⟨hname, hscore⟩ := Prod.mk.inj hpair
  obtain ⟨hmerge, -, -, hcompose⟩ := updates_merge_and_compose hw hp Sample.setup
  have hok : second = (.ok q', second.2) := eq_ok_of_toOption hq'
  have hsingle : single = (.ok q', second.2) :=
    hcompose Sample.there Sample.back q first.2 q' second.2 (eq_ok_of_toOption hq) hok
  have hupdated := hmerge (Sample.there.override Sample.back) q' second.2 hsingle
  exact ⟨⟨threads, hw⟩, ⟨p, hp⟩, hfirst, q', hq', hsingle.trans hok.symm, hname, hscore,
    hupdated.stored⟩

end CaptureTheFlag
