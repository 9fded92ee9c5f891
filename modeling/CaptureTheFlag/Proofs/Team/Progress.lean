import CaptureTheFlag.Proofs.Store.Reachable
import CaptureTheFlag.Team.Progress

/-!
# What a team has solved, and what is open to it

The progress of a team is worked out by programs.  Here it is said in terms of what is stored, and
the programs are shown to find it.

* `Store.HasSolved`, `Store.solvedBy`: the problems that a team has a correct submission for, one by
  one and as a set.
* `Store.Opens`: a problem is enabled and the team may see it.
* `Progress.run_solvedPids`, `Progress.run_unlocked`: what the programs find.
* `Store.mem_openTo`, `Store.mem_openPids`: what they find is what is open.

The programs find submissions in the order of their times, and problems in the order of their
scores.  Neither matters here: a set of identifiers does not depend on the order in which it was put
together (`TextSet.ext_contains`).
-/

namespace CaptureTheFlag

namespace Store

/-! ## Solved problems -/

/-- The team has a correct submission for the problem. -/
def HasSolved (s : Store) (tid pid : String) : Prop :=
  ∃ x ∈ s.submissions, x.tid = tid ∧ x.pid = pid ∧ x.correct = true

/-- The identifiers of the team's correct submissions. -/
def solvedBy (s : Store) (tid : String) : TextSet :=
  TextSet.ofList ((s.submissions.filter fun x => x.tid = tid && x.correct).map (·.pid))

theorem contains_solvedBy (s : Store) (tid pid : String) :
    (s.solvedBy tid).contains pid = true ↔ s.HasSolved tid pid := by
  unfold solvedBy HasSolved
  rw [TextSet.contains_ofList, decide_eq_true_iff, List.mem_map]
  constructor
  · rintro ⟨x, hx, hpid⟩
    obtain ⟨hx, hsolved⟩ := List.mem_filter.1 hx
    rw [Bool.and_eq_true, decide_eq_true_eq] at hsolved
    exact ⟨x, hx, hsolved.1, hpid, hsolved.2⟩
  · rintro ⟨x, hx, htid, hpid, hcorrect⟩
    refine ⟨x, List.mem_filter.2 ⟨hx, ?_⟩, hpid⟩
    rw [Bool.and_eq_true, decide_eq_true_eq]
    exact ⟨htid, hcorrect⟩

/-- The filter that a team's correct submissions are found by selects them; those of one category if
given. -/
theorem selects_solved (tid : String) (category : Option String) (x : Submission) :
    (((Submission.Filter.forTeam tid).inCategory category).withVerdict true).selects x = true ↔
      x.tid = tid ∧ x.correct = true ∧ Submission.Filter.admits category x.category = true := by
  rw [Submission.Filter.selects_iff]
  simp only [Submission.Filter.withVerdict, Submission.Filter.inCategory, Submission.Filter.forTeam,
    Submission.Filter.admits_none, Submission.Filter.admits_some, true_and, decide_eq_true_eq]
  constructor
  · rintro ⟨htid, hcategory, hcorrect⟩
    exact ⟨htid.symm, hcorrect.symm, hcategory⟩
  · rintro ⟨htid, hcorrect, hcategory⟩
    exact ⟨htid.symm, hcategory, hcorrect.symm⟩

/-! ## Open problems -/

/-- The problem is stored and enabled, and it needs no helpers or those that the team has solved
weigh enough. -/
structure Opens (s : Store) (tid : String) (p : Problem) : Prop where
  stored : p ∈ s.problems.values
  enabled : p.disabled = false
  helped : p.weightmap.isEmpty = true ∨ p.threshold ≤ p.weightSum (s.solvedBy tid)

/-- The problems that are open to a team, by score and name; those of one category if given. -/
def openTo (s : Store) (tid : String) (category : Option String) : List Problem :=
  (s.problemsWhere ⟨category, some false⟩).filter (·.isUnlockedBy (s.solvedBy tid))

/-- Which problems are listed as open depends on the category, and nothing else does. -/
theorem mem_openTo (s : Store) (tid : String) (category : Option String) (p : Problem) :
    p ∈ s.openTo tid category ↔
      s.Opens tid p ∧ Submission.Filter.admits category p.category = true := by
  unfold openTo
  rw [List.mem_filter, mem_problemsWhere]
  unfold Problem.Filter.selects Problem.isUnlockedBy
  simp only [Submission.Filter.admits_some, Bool.and_eq_true, Bool.or_eq_true, decide_eq_true_eq]
  constructor
  · rintro ⟨⟨hstored, hcategory, henabled⟩, hhelped⟩
    exact ⟨⟨hstored, henabled.symm, hhelped⟩, hcategory⟩
  · rintro ⟨⟨hstored, henabled, hhelped⟩, hcategory⟩
    exact ⟨⟨hstored, hcategory, henabled.symm⟩, hhelped⟩

theorem mem_openPids (s : Store) (tid pid : String) :
    pid ∈ (s.openTo tid none).map (·.pid) ↔ ∃ p, s.Opens tid p ∧ p.pid = pid := by
  rw [List.mem_map]
  constructor
  · rintro ⟨p, hp, hpid⟩
    exact ⟨p, ((s.mem_openTo tid none p).1 hp).1, hpid⟩
  · rintro ⟨p, hp, hpid⟩
    exact ⟨p, (s.mem_openTo tid none p).2 ⟨hp, rfl⟩, hpid⟩

/-- In a reachable store no two problems that are open have one identifier. -/
theorem Opens.eq_of_pid_eq {s : Store} (hs : s.Reachable) {tid : String} {p p' : Problem}
    (h : s.Opens tid p) (h' : s.Opens tid p') (hpid : p.pid = p'.pid) : p = p' := by
  have hp := hs.problem?_of_mem h.stored
  have hp' := hs.problem?_of_mem h'.stored
  rw [hpid, hp'] at hp
  exact (Option.some.inj hp).symm

end Store

/-! ## What the programs find -/

namespace Progress

open Program

/-- What a team has solved is found from its correct submissions; those of one category if given. -/
theorem run_solvedPids_in (s : Store) (tid : String) (category : Option String) :
    ∃ solved, (solvedPids tid category).run .none s = (.ok solved, s) ∧
      ∀ pid, solved.contains pid = true ↔ ∃ x ∈ s.submissions, x.tid = tid ∧ x.pid = pid ∧
        x.correct = true ∧ Submission.Filter.admits category x.category = true := by
  refine ⟨_, rfl, fun pid => ?_⟩
  rw [TextSet.contains_ofList, decide_eq_true_iff, List.mem_map]
  constructor
  · rintro ⟨x, hx, hpid⟩
    obtain ⟨hx, hselected⟩ := (s.mem_submissionsWhere _ x).1 hx
    obtain ⟨htid, hcorrect, hcategory⟩ := (Store.selects_solved tid category x).1 hselected
    exact ⟨x, hx, htid, hpid, hcorrect, hcategory⟩
  · rintro ⟨x, hx, htid, hpid, hcorrect, hcategory⟩
    have hselected := (Store.selects_solved tid category x).2 ⟨htid, hcorrect, hcategory⟩
    exact ⟨x, (s.mem_submissionsWhere _ x).2 ⟨hx, hselected⟩, hpid⟩

theorem run_solvedPids (s : Store) (tid : String) :
    (solvedPids tid none).run .none s = (.ok (s.solvedBy tid), s) := by
  obtain ⟨solved, hrun, hsolved⟩ := run_solvedPids_in s tid none
  have hset : solved = s.solvedBy tid := by
    refine TextSet.ext_contains fun pid => ?_
    rw [hsolved, s.contains_solvedBy]
    constructor
    · rintro ⟨x, hx, htid, hpid, hcorrect, -⟩
      exact ⟨x, hx, htid, hpid, hcorrect⟩
    · rintro ⟨x, hx, htid, hpid, hcorrect⟩
      exact ⟨x, hx, htid, hpid, hcorrect, rfl⟩
  rw [hrun, hset]

theorem run_unlocked (s : Store) (tid : String) (category : Option String) :
    (unlocked tid category).run .none s = (.ok (s.openTo tid category, s.solvedBy tid), s) := by
  unfold unlocked
  rw [bind_eq, run_bind_of_ok (run_solvedPids s tid)]
  rfl

theorem run_unlockedPids (s : Store) (tid : String) (category : Option String) :
    (unlockedPids tid category).run .none s =
      (.ok ((s.openTo tid category).map (·.pid)), s) := by
  unfold unlockedPids
  rw [bind_eq, run_bind_of_ok (run_unlocked s tid category)]
  rfl

theorem run_unlockedProblems (s : Store) (tid : String) (category : Option String) :
    (unlockedProblems tid category).run .none s =
      (.ok ((s.openTo tid category).map fun p => ⟨p, (s.solvedBy tid).contains p.pid⟩), s) := by
  unfold unlockedProblems
  rw [bind_eq, run_bind_of_ok (run_unlocked s tid category)]
  rfl

end Progress

end CaptureTheFlag
