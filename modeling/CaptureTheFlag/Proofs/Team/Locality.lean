import CaptureTheFlag.Proofs.Problem.Naming
import CaptureTheFlag.Proofs.Store.Listing
import CaptureTheFlag.Proofs.Team.Progress

/-!
# Operations on one problem leave the others as they are

Problems refer to one another by their weights, and one may be a helper of many.  Still, when one is
inserted, changed, switched off or removed, every team sees the others as before, and keeps what it
has solved.

* `Store.without`: the store without one problem.
* `Store.filter_entriesTo`: a team sees the other problems as if this one were not there.
* `Lifecycle.Accepted`: an operation on one problem has succeeded; `Lifecycle.Accepted.without_eq`:
  it has changed nothing else.
* `Lifecycle.run_setDisabled`: switching a stored problem off or on succeeds, and changes nothing
  else about it.
* `locality_of_accepted`: together.

## Both sides seen without the problem

What was there before the operation and what is there behind it are not compared with each other.
Each is compared with the store without the problem, and that is one store for both.  A team's view
of the others is a function of it: whether a problem is open depends on its own weights and on the
team's correct submissions, never on which other problems are stored.

The order needs more.  Problems are listed by score and then by name, and no two stored problems have
one name.  So there is one listing of some problems (`IsListing.unique`), and what is left when one is
taken out is how the others are listed by themselves.
-/

namespace CaptureTheFlag

open Program

/-! ## Stores that agree besides one problem -/

/-- Of two conditions either may be applied first. -/
theorem filter_filter_comm {α : Type} (l : List α) (keep keep' : α → Bool) :
    (l.filter keep).filter keep' = (l.filter keep').filter keep := by
  rw [List.filter_filter, List.filter_filter]
  exact List.filter_congr fun x _ => Bool.and_comm _ _

namespace Store

/-- The store without one problem. -/
def without (s : Store) (pid : String) : Store := { s with problems := s.problems.erase pid }

theorem without_insert (s : Store) (pid : String) (p : Problem) :
    { s with problems := s.problems.insert pid p }.without pid = s.without pid := by
  unfold without
  rw [KeyMap.erase_insert]

theorem without_without (s : Store) (pid : String) :
    (s.without pid).without pid = s.without pid := by
  unfold without
  rw [KeyMap.erase_erase]

/-! ## What a team sees -/

variable {s : Store}

/-- The problems that do not have an identifier are those that lie elsewhere. -/
theorem filter_values (hs : s.WellKeyed) (pid : String) :
    s.problems.values.filter (fun p => p.pid ≠ pid) = (s.without pid).problems.values := by
  unfold without KeyMap.values KeyMap.erase
  rw [List.filter_map]
  refine congrArg (List.map _) (List.filter_congr fun e he => ?_)
  have hpid : e.2.pid = e.1 := hs e.1 e.2 ((s.problems.mem_entries_iff e.1 e.2).1 he)
  show decide (e.2.pid ≠ pid) = decide (e.1 ≠ pid)
  rw [hpid]

/-- Leaving a problem out of a list is listing without it. -/
theorem filter_problemsWhere (hs : s.HasReadableProblems) (f : Problem.Filter) (pid : String) :
    (s.problemsWhere f).filter (fun p => p.pid ≠ pid) = (s.without pid).problemsWhere f := by
  have hwithout : (s.without pid).HasReadableProblems := hs.deleteProblem pid
  refine ((isListing_problemsWhere hs f).filter _).eq_of_mem_iff
    (isListing_problemsWhere hwithout f) fun p => ?_
  rw [List.mem_filter, mem_problemsWhere, mem_problemsWhere, ← filter_values hs.wellKeyed,
    List.mem_filter, and_right_comm]

/-- The problems that are open to a team, each with whether it is solved. -/
def entriesTo (s : Store) (tid : String) (category : Option String) : List UnlockedProblem :=
  (s.openTo tid category).map fun p => ⟨p, (s.solvedBy tid).contains p.pid⟩

/-- **A team sees the other problems as if the problem were not there.**  Whether one of them is
open depends on its own weights and on what the team has solved, and removing a problem changes
neither. -/
theorem filter_entriesTo (hs : s.HasReadableProblems) (tid pid : String)
    (category : Option String) :
    (s.entriesTo tid category).filter (fun u => u.problem.pid ≠ pid) =
      (s.without pid).entriesTo tid category := by
  have hsolved : (s.without pid).solvedBy tid = s.solvedBy tid := rfl
  unfold entriesTo openTo
  rw [List.filter_map, hsolved, ← filter_problemsWhere hs]
  exact congrArg (List.map _) (filter_filter_comm _ _ _)

/-- Where the problem is not open, a team sees all as if it were not there. -/
theorem entriesTo_eq_without (hs : s.HasReadableProblems) {tid pid : String}
    {category : Option String} (h : ∀ p ∈ s.openTo tid category, p.pid ≠ pid) :
    s.entriesTo tid category = (s.without pid).entriesTo tid category := by
  rw [← filter_entriesTo hs, eq_comm, List.filter_eq_self]
  intro u hu
  obtain ⟨p, hp, rfl⟩ := List.mem_map.1 hu
  exact decide_eq_true (h p hp)

end Store

/-- What a team has solved is worked out from the submissions alone. -/
theorem Progress.run_solvedPids_of_submissions_eq {s s' : Store}
    (h : s'.submissions = s.submissions) (tid : String) (category : Option String) :
    (solvedPids tid category).run .none s' = (((solvedPids tid category).run .none s).1, s') := by
  have hfound (f : Submission.Filter) : s'.submissionsWhere f = s.submissionsWhere f := by
    unfold Store.submissionsWhere
    rw [h]
  show (Except.ok (TextSet.ofList ((s'.submissionsWhere _).map (·.pid))), s') = _
  rw [hfound]
  rfl

/-! ## Operations on one problem -/

namespace Lifecycle

/-- An operation on the problem with the identifier has succeeded, and has led from one store to the
other. -/
inductive Accepted (setup : Setup) (pid : String) (s s' : Store) : Prop where
  | inserted (doc : Document) (h : (insert setup doc).run .none s = (.ok pid, s'))
  | updated (changes : Document) (p : Problem)
      (h : (update setup pid changes).run .none s = (.ok p, s'))
  | switched (disabled : Bool) (p : Problem)
      (h : (setDisabled setup pid disabled).run .none s = (.ok p, s'))
  | removed (p : Problem) (h : (remove pid).run .none s = (.ok p, s'))

variable {setup : Setup} {pid : String} {s s' : Store}

theorem without_of_insert {doc : Document} (h : (insert setup doc).run .none s = (.ok pid, s')) :
    s'.without pid = s.without pid := by
  have hinsertion := insertion setup doc s
  rw [h] at hinsertion
  cases hinsertion with
  | stored => exact s.without_insert _ _

theorem without_of_update (hs : s.WellKeyed) {changes : Document} {p : Problem}
    (h : (update setup pid changes).run .none s = (.ok p, s')) :
    s'.without pid = s.without pid := by
  have hreplacement := replacement hs setup pid changes
  rw [h] at hreplacement
  cases hreplacement with
  | replaced => exact s.without_insert _ _

theorem eq_without_of_remove {p : Problem} (h : (remove pid).run .none s = (.ok p, s')) :
    s' = s.without pid := by
  rcases run_remove s pid with ⟨-, hrun⟩ | ⟨q, -, hrun⟩
  · rw [h] at hrun
    cases hrun
  · rw [h] at hrun
    exact (Prod.mk.inj hrun).2

/-- **An operation on a problem changes nothing else.** -/
theorem Accepted.without_eq (hs : s.WellKeyed) (h : Accepted setup pid s s') :
    s'.without pid = s.without pid := by
  cases h with
  | inserted doc h => exact without_of_insert h
  | updated changes p h => exact without_of_update hs h
  | switched disabled p h => exact without_of_update hs h
  | removed p h => rw [eq_without_of_remove h, s.without_without]

/-- It keeps what holds of all stored problems. -/
theorem Accepted.hasReadableProblems (hs : s.HasReadableProblems) (h : Accepted setup pid s s') :
    s'.HasReadableProblems := by
  have hrun : ∃ o : Operation, s' = ((o.program setup).run .none s).2 := by
    cases h with
    | inserted doc h => exact ⟨.insert doc, (congrArg Prod.snd h).symm⟩
    | updated changes p h => exact ⟨.update pid changes, (congrArg Prod.snd h).symm⟩
    | switched disabled p h => exact ⟨.setDisabled pid disabled, (congrArg Prod.snd h).symm⟩
    | removed p h => exact ⟨.remove pid, (congrArg Prod.snd h).symm⟩
  obtain ⟨o, rfl⟩ := hrun
  exact run_preserves (fun _ _ hc ht => ht.perform hc) .none (o.calls_program setup) hs

/-! ## Switching a problem off and on -/

/-- An update of a stored problem that keeps its name and its grader succeeds, if the merged document
makes a draft.  Nobody else has the name, and the grader is not checked again. -/
theorem run_update_of_kept {p : Problem} {changes : Document} {draft : Draft}
    (hs : s.HasReadableProblems) (hp : s.problem? pid = some p)
    (hdraft : Draft.ofDocument (merge p changes) = .ok draft) (hname : draft.name = p.name)
    (hgrader : draft.grader = p.grader) :
    (update setup pid changes).run .none s = (.ok (Problem.ofDraft pid draft),
      { s with problems := s.problems.insert pid (Problem.ofDraft pid draft) }) := by
  have hname' : ∀ q ∈ s.problems.values, q.name = draft.name → q.pid = pid := by
    intro q hq hqname
    have hstored := (s.problems.mem_values_iff _).2 ⟨pid, hp⟩
    obtain rfl := hs.eq_of_name_eq q hq _ hstored (hqname.trans hname)
    exact hs.wellKeyed pid q hp
  exact (run_update_eq_ok_iff hs.wellKeyed).2 ⟨p, draft, hp, Draft.ofDocument_eq_ok_iff.1 hdraft,
    fun hne => absurd hgrader hne, hname', rfl, rfl⟩

/-- **A stored problem is switched off or on without a failure**, and nothing else about it changes. -/
theorem run_setDisabled {p : Problem} (hs : s.HasReadableProblems)
    (hp : s.problem? pid = some p) (disabled : Bool) :
    (setDisabled setup pid disabled).run .none s =
      (.ok { p with disabled }, { s with problems := s.problems.insert pid { p with disabled } }) := by
  have hpid : p.pid = pid := hs.wellKeyed pid p hp
  subst hpid
  have hreadable := hs.isReadable p ((s.problems.mem_values_iff p).2 ⟨p.pid, hp⟩)
  have hdraft := Draft.ofDocument_eq_ok_iff.2 (hreadable.isOf_merge disabled)
  exact run_update_of_kept hs hp hdraft rfl rfl

/-- Who may switch a problem off has it stored, and then it is not open to anyone. -/
theorem pid_ne_of_switched_off {p : Problem} (hs : s.HasReadableProblems)
    (h : (setDisabled setup pid true).run .none s = (.ok p, s')) (tid : String)
    (category : Option String) : ∀ q ∈ s'.openTo tid category, q.pid ≠ pid := by
  obtain ⟨stored, hstored⟩ : ∃ stored, s.problem? pid = some stored := by
    have hreplacement := replacement hs.wellKeyed setup pid
      (KeyMap.empty.insert "disabled" (.bool true))
    change Replacement _ _ _ _ ((setDisabled setup pid true).run .none s) at hreplacement
    rw [h] at hreplacement
    cases hreplacement with
    | replaced hstored => exact ⟨_, hstored⟩
  have hs' := Accepted.hasReadableProblems hs (.switched true p h)
  rw [run_setDisabled hs hstored true] at h
  obtain rfl := (Prod.mk.inj h).2
  intro q hq hpid
  obtain ⟨hopens, -⟩ := (Store.mem_openTo _ tid category q).1 hq
  obtain ⟨pid', hfound⟩ := (KeyMap.mem_values_iff _ q).1 hopens.stored
  obtain rfl : q.pid = pid' := hs'.wellKeyed pid' q hfound
  rw [hpid, KeyMap.get?_insert, if_pos rfl] at hfound
  have henabled := hopens.enabled
  rw [← Option.some.inj hfound] at henabled
  cases henabled

/-- A problem that is enabled is switched off and on again, and the store is what it was. -/
theorem run_setDisabled_twice {p : Problem} (hs : s.HasReadableProblems) (hp : s.problem? pid = some p)
    (henabled : p.disabled = false) :
    ∃ q s', (setDisabled setup pid true).run .none s = (.ok q, s') ∧
      (setDisabled setup pid false).run .none s' = (.ok p, s) := by
  have hoff : (setDisabled setup pid true).run .none s = _ :=
    run_setDisabled hs hp true
  refine ⟨_, _, hoff, ?_⟩
  have hs' := Accepted.hasReadableProblems hs (.switched true _ hoff)
  have hstored : Store.problem?
      { s with problems := s.problems.insert pid { p with disabled := true } } pid =
        some { p with disabled := true } := by
    unfold Store.problem?
    rw [KeyMap.get?_insert, if_pos rfl]
  have hproblem : ({ p with disabled := false } : Problem) = p := by
    rw [← henabled]
  have hproblems : (s.problems.insert pid { p with disabled := true }).insert pid p =
      s.problems := by
    refine KeyMap.ext_get? fun pid' => ?_
    rw [KeyMap.get?_insert, KeyMap.get?_insert]
    by_cases hsame : pid' = pid
    · rw [if_pos hsame, hsame]
      exact hp.symm
    · rw [if_neg hsame, if_neg hsame]
  rw [run_setDisabled hs' hstored false]
  show (Except.ok { p with disabled := false }, _) = _
  rw [hproblem, hproblems]

end Lifecycle

/-! ## Together -/

/-- **Operations on a problem are local.**  In every store that operations lead to, one after another
or at once, let an operation on one problem succeed.  Every team sees the other problems as before,
in the same order and with the same marks, whether or not the problem was a helper of theirs; and
what it has solved is the same.  When the problem is switched off or removed, a team sees what it saw
but for this problem.  An enabled problem can be switched off and on again, and then the whole store
is what it was. -/
theorem locality_of_accepted {s : Store} {threads : List Thread}
    (hw : World.Reachable ⟨s, threads⟩) (setup : Setup) (tid : String) (category : Option String) :
    (∀ pid s', Lifecycle.Accepted setup pid s s' → ∃ before after solved,
      (Progress.unlockedProblems tid category).run .none s = (.ok before, s) ∧
        (Progress.unlockedProblems tid category).run .none s' = (.ok after, s') ∧
        after.filter (fun u => u.problem.pid ≠ pid) =
          before.filter (fun u => u.problem.pid ≠ pid) ∧
        (Progress.solvedPids tid category).run .none s = (.ok solved, s) ∧
        (Progress.solvedPids tid category).run .none s' = (.ok solved, s')) ∧
      (∀ pid p s', (Lifecycle.setDisabled setup pid true).run .none s = (.ok p, s') ∨
          (Lifecycle.remove pid).run .none s = (.ok p, s') →
        ∃ before, (Progress.unlockedProblems tid category).run .none s = (.ok before, s) ∧
          (Progress.unlockedProblems tid category).run .none s' =
            (.ok (before.filter fun u => u.problem.pid ≠ pid), s')) ∧
      ∀ pid p, s.problem? pid = some p → p.disabled = false →
        ∃ q s', (Lifecycle.setDisabled setup pid true).run .none s = (.ok q, s') ∧
          (Lifecycle.setDisabled setup pid false).run .none s' = (.ok p, s) := by
  have hs : s.HasReadableProblems := Store.isInvariant_hasReadableProblems.of_reachable hw
  refine ⟨fun pid s' h => ?_, fun pid p s' h => ?_, fun pid p hp henabled =>
    Lifecycle.run_setDisabled_twice hs hp henabled⟩
  · have hwithout := h.without_eq hs.wellKeyed
    have hsubmissions : s'.submissions = s.submissions :=
      show (s'.without pid).submissions = (s.without pid).submissions by rw [hwithout]
    have hsolved := Progress.run_solvedPids_of_submissions_eq hsubmissions tid category
    refine ⟨_, _, _, Progress.run_unlockedProblems s tid category,
      Progress.run_unlockedProblems s' tid category, ?_, rfl, hsolved⟩
    show (s'.entriesTo tid category).filter _ = (s.entriesTo tid category).filter _
    rw [Store.filter_entriesTo hs, Store.filter_entriesTo (h.hasReadableProblems hs), hwithout]
  · refine ⟨_, Progress.run_unlockedProblems s tid category, ?_⟩
    show _ = (Except.ok ((s.entriesTo tid category).filter _), s')
    rw [Store.filter_entriesTo hs, Progress.run_unlockedProblems]
    show (Except.ok (s'.entriesTo tid category), s') = _
    rcases h with h | h
    · have haccepted : Lifecycle.Accepted setup pid s s' := .switched true p h
      rw [Store.entriesTo_eq_without (haccepted.hasReadableProblems hs)
        (Lifecycle.pid_ne_of_switched_off hs h tid category), haccepted.without_eq hs.wellKeyed]
    · rw [Lifecycle.eq_without_of_remove h]

namespace Sample

/-- A team has solved a problem, and another problem needs it to open. -/
def vaultStore : Store :=
  let solved := ((Operation.submit 7 attempt).program setup).run .none store
  (((Operation.insert (locked "Warmup")).program setup).run .none solved.2).2

theorem served_vaultStore : vaultStore.Served :=
  (served_store.operation setup (.submit 7 attempt)).operation setup (.insert (locked "Warmup"))

end Sample

/-- The helper is removed.  The problem that it has opened stays open, and only the helper is gone. -/
theorem locality_of_removed_helper :
    let s := Sample.vaultStore
    let pid := Problem.pidOf "Warmup"
    (∃ threads, World.Reachable ⟨s, threads⟩) ∧
      ∃ p s', (Lifecycle.remove pid).run .none s = (.ok p, s') ∧
      ∃ before, (Progress.unlockedProblems "red" none).run .none s = (.ok before, s) ∧
        (Progress.unlockedProblems "red" none).run .none s' =
          (.ok (before.filter fun u => u.problem.pid ≠ pid), s') ∧
        (⟨p, true⟩ : UnlockedProblem) ∈ before ∧
        (before.filter fun u => u.problem.pid ≠ pid).map (fun u => (u.problem.name, u.solved)) =
          [("Vault", false)] := by
  intro s pid
  obtain ⟨threads, hw⟩ := Sample.served_vaultStore.exists_world
  have hs : s.HasReadableProblems :=
    Store.isInvariant_hasReadableProblems.of_served Sample.served_vaultStore
  have hhelper : (s.problem? pid).any (fun p => p.pid = pid && p.isUnlockedBy (s.solvedBy "red") &&
      !p.disabled) = true := by decide +kernel
  have hsolved : (s.solvedBy "red").contains pid = true := by decide +kernel
  have hothers : ((s.without pid).entriesTo "red" none).map
      (fun u => (u.problem.name, u.solved)) = [("Vault", false)] := by decide +kernel
  obtain ⟨p, hp, hhelper⟩ := (Option.any_eq_true _ _).1 hhelper
  simp only [Bool.and_eq_true, decide_eq_true_eq, Bool.not_eq_true'] at hhelper
  obtain ⟨⟨hpid, hunlocked⟩, henabled⟩ := hhelper
  obtain ⟨s', hrun⟩ : ∃ s', (Lifecycle.remove pid).run .none s = (.ok p, s') := by
    rcases Lifecycle.run_remove s pid with ⟨hnone, -⟩ | ⟨p', hp', hrun⟩
    · rw [hp] at hnone
      cases hnone
    · obtain rfl := Option.some.inj (hp.symm.trans hp')
      exact ⟨_, hrun⟩
  obtain ⟨-, hgone, -⟩ := locality_of_accepted hw Sample.setup "red" none
  obtain ⟨before, hbefore, hafter⟩ := hgone pid p s' (Or.inr hrun)
  have hentries : before = s.entriesTo "red" none := by
    rw [Progress.run_unlockedProblems] at hbefore
    exact (Except.ok.inj (Prod.mk.inj hbefore).1).symm
  refine ⟨⟨threads, hw⟩, p, s', hrun, before, hbefore, hafter, ?_, ?_⟩
  · have hopen : p ∈ s.openTo "red" none :=
      List.mem_filter.2 ⟨(s.mem_problemsWhere _ p).2
        ⟨(s.problems.mem_values_iff p).2 ⟨pid, hp⟩, by
          simp [Problem.Filter.selects, henabled]⟩, hunlocked⟩
    rw [hentries]
    refine List.mem_map.2 ⟨p, hopen, ?_⟩
    rw [hpid, hsolved]
  · rw [hentries, Store.filter_entriesTo hs]
    exact hothers

end CaptureTheFlag
