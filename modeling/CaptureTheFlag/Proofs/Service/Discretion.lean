import CaptureTheFlag.Proofs.Program.Discretion
import CaptureTheFlag.Proofs.Submission.Gates

/-!
# Operations keep private texts to themselves

What a grader says when it has no verdict, and the private text of a failure of the store, have no
part in what an operation does.

* `Setup.Alike`: two setups differ at most in why their graders have no verdict.
* `Setup.Alike.program_eq`: then every operation has the same program under both.
* `Operation.discreet_program`: the program of an operation does not tell alike failures apart.

## Two different reasons

A grader's failure is met at once where the grader is asked, and is dropped there: an attempt and a
preview report that the grader of the problem is offline, and a problem that is judged again skips
the key.  So setups that are alike give not only alike programs but the same ones.  A failure of the
store is met only when the program runs, and most often it is passed on as it is.
-/

namespace CaptureTheFlag

open Program

/-! ## Setups -/

/-- The same graders are registered, and each has the same verdicts.  Where a grader has none, it may
be late in one setup and fail in the other, or fail with another text. -/
structure Setup.Alike (setup setup' : Setup) : Prop where
  checkGraders : setup'.checkGraders = setup.checkGraders
  ids : setup'.registry.ids = setup.registry.ids
  judges : ∀ id uid? key v,
    setup'.registry.Judges id uid? key v ↔ setup.registry.Judges id uid? key v

namespace Setup.Alike

variable {setup setup' : Setup}

theorem contains_eq (h : setup.Alike setup') (id : String) :
    setup'.registry.contains id = setup.registry.contains id := by
  have hkeys : setup'.registry.graders.keys = setup.registry.graders.keys := h.ids
  rw [Bool.eq_iff_iff]
  unfold Registry.contains
  rw [KeyMap.contains_iff, KeyMap.contains_iff, ← KeyMap.mem_keys_iff, ← KeyMap.mem_keys_iff, hkeys]

/-- A verdict is the same in both, or there is none in either. -/
theorem grade_cases (h : setup.Alike setup') (id : String) (uid? : Option String) (key : String) :
    (∃ v, setup.registry.grade id uid? key = .ok v ∧ setup'.registry.grade id uid? key = .ok v) ∨
      ∃ refusal refusal', setup.registry.grade id uid? key = .error refusal ∧
        setup'.registry.grade id uid? key = .error refusal' := by
  have hverdict : ∀ v, setup'.registry.grade id uid? key = .ok v ↔
      setup.registry.grade id uid? key = .ok v := by
    intro v
    rw [Registry.grade_eq_ok_iff, Registry.grade_eq_ok_iff, h.judges]
  cases hgrade : setup.registry.grade id uid? key with
  | ok v => exact Or.inl ⟨v, rfl, (hverdict v).2 hgrade⟩
  | error refusal =>
    refine Or.inr ⟨refusal, ?_⟩
    cases hgrade' : setup'.registry.grade id uid? key with
    | ok v =>
      rw [(hverdict v).1 hgrade'] at hgrade
      cases hgrade
    | error refusal' => exact ⟨refusal', rfl, rfl⟩

theorem checkGrader_eq (h : setup.Alike setup') (grader : String) :
    Lifecycle.checkGrader setup' grader = Lifecycle.checkGrader setup grader := by
  unfold Lifecycle.checkGrader
  rw [h.checkGraders, h.contains_eq]

theorem issues_eq (h : setup.Alike setup') :
    Lifecycle.issues setup' = Lifecycle.issues setup := by
  funext pids p
  unfold Lifecycle.issues
  rw [h.contains_eq]

/-- What is told about a grader without a verdict does not say why it has none. -/
theorem judge_eq (h : setup.Alike setup') (p : Problem) (uid? : Option String) (key : String) :
    Pipeline.judge setup' p uid? key = Pipeline.judge setup p uid? key := by
  unfold Pipeline.judge
  rcases h.grade_cases p.grader uid? key with ⟨v, hv, hv'⟩ | ⟨refusal, refusal', hr, hr'⟩
  · rw [hv, hv']
  · rw [hr, hr']

theorem insert_eq (h : setup.Alike setup') (doc : Document) :
    Lifecycle.insert setup' doc = Lifecycle.insert setup doc := by
  unfold Lifecycle.insert
  simp only [h.checkGrader_eq]

theorem insertAll_eq (h : setup.Alike setup') (items : List Json) :
    Lifecycle.insertAll setup' items = Lifecycle.insertAll setup items := by
  induction items with
  | nil => rfl
  | cons item r ih =>
    unfold Lifecycle.insertAll
    simp only [h.insert_eq, ih]

theorem importText_eq (h : setup.Alike setup') (text : String) :
    Lifecycle.importText setup' text = Lifecycle.importText setup text := by
  unfold Lifecycle.importText
  simp only [h.insertAll_eq, h.insert_eq]

theorem update_eq (h : setup.Alike setup') (pid : String) (changes : Document) :
    Lifecycle.update setup' pid changes = Lifecycle.update setup pid changes := by
  unfold Lifecycle.update
  simp only [h.checkGrader_eq]

theorem submitNormalized_eq (h : setup.Alike setup') (now : Int) (a : Attempt) :
    Pipeline.submitNormalized setup' now a = Pipeline.submitNormalized setup now a := by
  unfold Pipeline.submitNormalized
  simp only [h.judge_eq]

theorem regradeKey_eq (h : setup.Alike setup') (pid grader : String) (found : List Submission)
    (key : String) :
    Regrade.regradeKey setup' pid grader found key = Regrade.regradeKey setup pid grader found key := by
  unfold Regrade.regradeKey
  rcases h.grade_cases grader none key with ⟨v, hv, hv'⟩ | ⟨refusal, refusal', hr, hr'⟩
  · rw [hv, hv']
  · rw [hr, hr']

theorem regradeKeys_eq (h : setup.Alike setup') :
    Regrade.regradeKeys setup' = Regrade.regradeKeys setup := by
  funext pid grader found keys teams
  induction keys generalizing teams with
  | nil => rfl
  | cons key r ih =>
    unfold Regrade.regradeKeys
    simp only [h.regradeKey_eq, ih]

theorem reevaluate_eq (h : setup.Alike setup') (pid : String) :
    Regrade.reevaluate setup' pid = Regrade.reevaluate setup pid := by
  unfold Regrade.reevaluate
  rw [h.regradeKeys_eq]

theorem preview_eq (h : setup.Alike setup') (pid key : String) (uid? : Option String) :
    Pipeline.preview setup' pid key uid? = Pipeline.preview setup pid key uid? := by
  unfold Pipeline.preview
  simp only [h.judge_eq]

theorem integrity_eq (h : setup.Alike setup') :
    Lifecycle.integrity setup' = Lifecycle.integrity setup := by
  unfold Lifecycle.integrity
  rw [h.issues_eq]

/-- **An operation has the same program under setups that are alike.** -/
theorem program_eq (h : setup.Alike setup') (o : Operation) :
    o.program setup' = o.program setup := by
  cases o with
  | insert doc => exact h.insert_eq doc
  | update pid changes => exact h.update_eq pid changes
  | setDisabled pid disabled => exact h.update_eq pid _
  | importText text => exact h.importText_eq text
  | integrity => exact h.integrity_eq
  | submit now a => exact h.submitNormalized_eq now a.normalized
  | preview pid key uid => exact h.preview_eq pid key uid
  | reevaluate pid => exact h.reevaluate_eq pid
  | _ => rfl

end Setup.Alike

/-! ## Programs of the service

Each program is followed once.  Most calls pass on the failure that they are answered with, and what
is done with an answer that is no failure does not matter here. -/

theorem Lifecycle.discreet_find (pid : String) : (Lifecycle.find pid).Discreet := by
  refine Discreet.call_bind fun found => ?_
  cases found with
  | none => exact Discreet.fail _
  | some p => exact Discreet.done _

/-- A name that the store already has is reported in another way, and a private text is not touched
by that. -/
theorem Lifecycle.discreet_storing (c : Call) (name : String) {α : Type} {f : c.Reply → Program α}
    (hf : ∀ a, (f a).Discreet) :
    (((Program.call c).mapFailure (Lifecycle.takenIfStored name)).bind f).Discreet :=
  Discreet.bind ((Discreet.call c).mapFailure fun _ _ h => h.replaced id (.nameTaken name)) hf

theorem Lifecycle.discreet_insert (setup : Setup) (doc : Document) :
    (Lifecycle.insert setup doc).Discreet := by
  refine Discreet.done_bind fun draft => ?_
  refine Discreet.done_bind fun _ => ?_
  refine Discreet.call_bind fun holder => Discreet.ite (Discreet.fail _) ?_
  refine Discreet.call_bind fun namesake => Discreet.ite (Discreet.fail _) ?_
  exact Lifecycle.discreet_storing _ _ fun _ => Discreet.done _

theorem Lifecycle.discreet_insertAll (setup : Setup) (items : List Json) :
    (Lifecycle.insertAll setup items).Discreet := by
  induction items with
  | nil => exact Discreet.done _
  | cons item r ih =>
    unfold Lifecycle.insertAll
    split
    · exact Discreet.fail _
    · exact Discreet.bind (Lifecycle.discreet_insert setup _) fun _ =>
        Discreet.bind ih fun _ => Discreet.done _

theorem Lifecycle.discreet_importText (setup : Setup) (text : String) :
    (Lifecycle.importText setup text).Discreet := by
  unfold Lifecycle.importText
  split
  · exact Discreet.fail _
  · exact Discreet.bind (Lifecycle.discreet_insertAll setup _) fun _ => Discreet.done _
  · split
    · exact Discreet.fail _
    · exact Discreet.bind (Lifecycle.discreet_insert setup _) fun _ => Discreet.done _

theorem Lifecycle.discreet_checkName (p : Problem) : (Lifecycle.checkName p).Discreet := by
  refine Discreet.call_bind fun holder => ?_
  cases holder with
  | none => exact Discreet.done _
  | some q => exact Discreet.ite (Discreet.fail _) (Discreet.done _)

theorem Lifecycle.discreet_update (setup : Setup) (pid : String) (changes : Document) :
    (Lifecycle.update setup pid changes).Discreet := by
  refine Discreet.bind (Lifecycle.discreet_find pid) fun stored => ?_
  refine Discreet.done_bind fun draft => ?_
  have hend : ∀ u : Unit, Program.Discreet (do
      (Program.call (.replaceProblem (Problem.ofDraft stored.pid draft))).mapFailure
        (Lifecycle.takenIfStored (Problem.ofDraft stored.pid draft).name)
      pure (Problem.ofDraft stored.pid draft)) := fun _ =>
    Lifecycle.discreet_storing _ _ fun _ => Discreet.done _
  -- whether or not the grader is checked, the name may be looked at next
  refine Discreet.ite (Discreet.done_bind fun _ => ?_) ?_
  all_goals exact Discreet.ite (Discreet.bind (Lifecycle.discreet_checkName _) hend) (hend ())

theorem Lifecycle.discreet_remove (pid : String) : (Lifecycle.remove pid).Discreet := by
  refine Discreet.bind (Lifecycle.discreet_find pid) fun p => ?_
  refine Discreet.call_bind fun found => ?_
  split
  · exact Discreet.done _
  · exact Discreet.fail _

theorem Lifecycle.discreet_get (pid : String) (showDisabled : Bool) :
    (Lifecycle.get pid showDisabled).Discreet := by
  refine Discreet.call_bind fun found => ?_
  cases found with
  | none => exact Discreet.fail _
  | some p => exact Discreet.ite (Discreet.done _) (Discreet.fail _)

theorem Lifecycle.discreet_getNamed (name : String) (showDisabled : Bool) :
    (Lifecycle.getNamed name showDisabled).Discreet := by
  refine Discreet.call_bind fun found => ?_
  cases found with
  | none => exact Discreet.fail _
  | some p => exact Discreet.ite (Discreet.done _) (Discreet.fail _)

theorem Progress.discreet_solvedPids (tid : String) (category : Option String) :
    (Progress.solvedPids tid category).Discreet :=
  Discreet.call_bind fun _ => Discreet.done _

theorem Progress.discreet_resolve (pids : List String) : (Progress.resolve pids).Discreet := by
  induction pids with
  | nil => exact Discreet.done _
  | cons pid r ih =>
    refine Discreet.call_bind fun found => ?_
    cases found with
    | none => exact Discreet.fail _
    | some p => exact Discreet.bind ih fun _ => Discreet.done _

theorem Progress.discreet_unlocked (tid : String) (category : Option String) :
    (Progress.unlocked tid category).Discreet :=
  Discreet.bind (Progress.discreet_solvedPids tid none) fun _ =>
    Discreet.call_bind fun _ => Discreet.done _

theorem Progress.discreet_unlockedPids (tid : String) (category : Option String) :
    (Progress.unlockedPids tid category).Discreet :=
  Discreet.bind (Progress.discreet_unlocked tid category) fun _ => Discreet.done _

theorem Lifecycle.discreet_getForTeam (pid tid : String) :
    (Lifecycle.getForTeam pid tid).Discreet := by
  refine Discreet.bind (Progress.discreet_unlockedPids tid none) fun unlocked => ?_
  exact Discreet.ite (Lifecycle.discreet_get pid false) (Discreet.fail _)

/-- The gates in front of the verdict pass on the failures of the store. -/
theorem Pipeline.discreet_submitNormalized (setup : Setup) (now : Int) (a : Attempt) :
    (Pipeline.submitNormalized setup now a).Discreet := by
  have hlocked : (Pipeline.checkUnlocked a.tid a.pid).Discreet := by
    refine Discreet.bind (Progress.discreet_unlockedPids a.tid none) fun unlocked => ?_
    exact Discreet.ite (Discreet.done _) (Discreet.fail _)
  have hsolved : (Pipeline.checkUnsolved a.tid a.pid).Discreet := by
    refine Discreet.bind (Progress.discreet_solvedPids a.tid none) fun solved => ?_
    exact Discreet.ite (Discreet.fail _) (Discreet.done _)
  have huser : (Pipeline.resolveUser a.uid).Discreet := by
    refine Discreet.call_bind fun found => ?_
    cases found with
    | none => exact Discreet.fail _
    | some u => exact Discreet.done _
  have htried : (Pipeline.checkUntried a).Discreet := by
    refine Discreet.call_bind fun earlier => ?_
    exact Discreet.ite (Discreet.done _) (Discreet.fail _)
  refine Discreet.done_bind fun _ => ?_
  refine Discreet.bind hlocked fun _ => ?_
  refine Discreet.bind hsolved fun _ => ?_
  refine Discreet.bind huser fun user => ?_
  refine Discreet.bind htried fun _ => ?_
  refine Discreet.bind (Lifecycle.discreet_find a.pid) fun p => ?_
  refine Discreet.done_bind fun v => ?_
  exact Discreet.bind ((Discreet.call _).mapFailure fun _ _ h => h.replaced id .alreadyTried)
    fun _ => Discreet.done _

/-- A verdict that cannot be set is passed over, whatever the reason. -/
theorem Regrade.discreet_regradeKey (setup : Setup) (pid grader : String)
    (found : List Submission) (key : String) :
    (Regrade.regradeKey setup pid grader found key).Discreet := by
  unfold Regrade.regradeKey
  split
  · exact Discreet.done _
  · split
    · exact Discreet.done _
    · refine (Discreet.call _).attempt_bind fun r r' hr => ?_
      cases hr with
      | ok n => exact Discreet.done _
      | error _ => exact Discreet.done _

theorem Regrade.discreet_regradeKeys (setup : Setup) (pid grader : String)
    (found : List Submission) (keys : List String) (teams : TextSet) :
    (Regrade.regradeKeys setup pid grader found keys teams).Discreet := by
  induction keys generalizing teams with
  | nil => exact Discreet.done _
  | cons key r ih =>
    exact Discreet.bind (Regrade.discreet_regradeKey setup pid grader found key) fun _ => ih _

theorem Regrade.discreet_reevaluate (setup : Setup) (pid : String) :
    (Regrade.reevaluate setup pid).Discreet := by
  refine Discreet.bind (Lifecycle.discreet_find pid) fun p => Discreet.ite (Discreet.fail _) ?_
  refine Discreet.call_bind fun found => ?_
  exact Discreet.bind (Regrade.discreet_regradeKeys setup pid p.grader found _ _) fun _ =>
    Discreet.done _

theorem Upkeep.discreet_clear (uid tid : Option String) : (Upkeep.clear uid tid).Discreet := by
  cases uid with
  | some uid => exact Discreet.call (.deleteSubmissions _)
  | none =>
    cases tid with
    | some tid => exact Discreet.call (.deleteSubmissions _)
    | none => exact Discreet.fail _

theorem Upkeep.discreet_correctSubmissions (query : Submission.Query) :
    (Upkeep.correctSubmissions query).Discreet :=
  Discreet.ite (Discreet.call (.findSubmissions _)) (Discreet.fail _)

/-! ## All operations -/

/-- **No operation tells alike failures apart.** -/
theorem Operation.discreet_program (setup : Setup) (o : Operation) :
    (o.program setup).Discreet := by
  cases o with
  | insert doc => exact Lifecycle.discreet_insert setup doc
  | update pid changes => exact Lifecycle.discreet_update setup pid changes
  | setDisabled pid disabled => exact Lifecycle.discreet_update setup pid _
  | remove pid => exact Lifecycle.discreet_remove pid
  | importText text => exact Lifecycle.discreet_importText setup text
  | integrity => exact Discreet.call_bind fun _ => Discreet.done _
  | get pid showDisabled => exact Lifecycle.discreet_get pid showDisabled
  | getNamed name showDisabled => exact Lifecycle.discreet_getNamed name showDisabled
  | getForTeam pid tid => exact Lifecycle.discreet_getForTeam pid tid
  | list category disabled => exact Discreet.call (.listProblems _)
  | search conditions => exact Discreet.call_bind fun _ => Discreet.done _
  | solvedPids tid category => exact Progress.discreet_solvedPids tid category
  | solvedProblems tid category =>
    exact Discreet.bind (Progress.discreet_solvedPids tid category) fun _ =>
      Progress.discreet_resolve _
  | unlockedPids tid category => exact Progress.discreet_unlockedPids tid category
  | unlockedProblems tid category =>
    exact Discreet.bind (Progress.discreet_unlocked tid category) fun _ => Discreet.done _
  | submit now a => exact Pipeline.discreet_submitNormalized setup now a.normalized
  | preview pid key uid =>
    exact Discreet.bind (Lifecycle.discreet_find pid) fun _ => Discreet.done _
  | reevaluate pid => exact Regrade.discreet_reevaluate setup pid
  | invalidate query => exact Discreet.call (.setCorrect _ _)
  | clear uid tid => exact Upkeep.discreet_clear uid tid
  | clearAll => exact Discreet.call (.deleteSubmissions _)
  | submissions query => exact Discreet.call (.findSubmissions _)
  | correctSubmissions query => exact Upkeep.discreet_correctSubmissions query

end CaptureTheFlag
