import CaptureTheFlag.Proofs.Submission.Gates

/-!
# What a team may see is what it may attempt

There are four ways to find out whether a problem is open to a team: to ask for the identifiers of
all that is open, to ask for the open problems themselves, to ask for this problem, and to send in a
key for it.  They go through different programs, and they agree.

* `Lifecycle.run_getForTeam`: asking for one problem finds it where it is open, and only there.
* `Pipeline.fst_run_submit_eq_locked_iff`, `Pipeline.fst_run_submit_eq_alreadySolved_iff`: when an
  attempt is told that its problem is locked, and when that it is solved.
* `visibility_of_problem`: the four ways agree on what is open, and on what is solved.

## What the agreement rests on

All four begin with the list of what is open (`Store.mem_openPids`).  Asking for one problem, and
sending in a key, then look the problem up by its identifier.  That this finds the problem that was
listed, which is enabled, is due to the problems lying under their own identifiers
(`Store.Reachable.problem?_of_mem`).  So nothing is left open by a problem that was disabled, or
removed and inserted again: the list and the look-up see the same.
-/

namespace CaptureTheFlag

open Program

/-! ## Asking for one problem -/

namespace Lifecycle

/-- An enabled problem is found by its identifier. -/
theorem run_get_of_enabled {s : Store} {pid : String} {p : Problem} (hp : s.problem? pid = some p)
    (henabled : p.disabled = false) : (get pid false).run .none s = (.ok p, s) := by
  unfold get
  rw [bind_eq, run_bind_of_ok (run_call (.findProblem pid) s)]
  simp only [hp, henabled, Bool.not_false, Bool.or_true, if_true]
  rfl

/-- A team that asks for one problem is given the problem if it is open to the team.  Otherwise it is
told that there is nothing to be had, whatever the reason. -/
theorem run_getForTeam {s : Store} (hs : s.Reachable) (pid tid : String) :
    (∃ p, s.Opens tid p ∧ p.pid = pid ∧ s.problem? pid = some p ∧
        (getForTeam pid tid).run .none s = (.ok p, s)) ∨
      (∀ p, s.Opens tid p → p.pid ≠ pid) ∧
        (getForTeam pid tid).run .none s = (.error .hidden, s) := by
  have hrun := run_bind_of_ok (Progress.run_unlockedPids s tid none) fun unlocked =>
    if pid ∈ unlocked then get pid false else Program.fail .hidden
  unfold getForTeam
  rw [bind_eq, hrun]
  by_cases hmem : pid ∈ (s.openTo tid none).map (·.pid)
  · rw [if_pos hmem]
    obtain ⟨p, hopen, hpid⟩ := (s.mem_openPids tid pid).1 hmem
    have hp : s.problem? pid = some p := hpid ▸ hs.problem?_of_mem hopen.stored
    exact Or.inl ⟨p, hopen, hpid, hp, run_get_of_enabled hp hopen.enabled⟩
  · rw [if_neg hmem]
    refine Or.inr ⟨fun p hopen hpid => ?_, rfl⟩
    exact hmem ((s.mem_openPids tid pid).2 ⟨p, hopen, hpid⟩)

end Lifecycle

/-! ## Sending in a key -/

/-- The attempt is made by the team for the problem, and its key has a proper length once the blanks
around it are stripped. -/
structure Attempt.IsFor (a : Attempt) (tid pid : String) : Prop where
  tid_eq : a.tid = tid
  pid_eq : a.pid = pid
  isKey_trim : isKey (Text.trim a.key) = true

/-- Such an attempt passes the check if the identifiers of team and problem do. -/
theorem Attempt.IsFor.isProper {a : Attempt} {tid pid : String} (h : a.IsFor tid pid)
    (htid : tid.length ≤ maxLength) (hpid : pid.length ≤ maxLength) : a.normalized.IsProper := by
  obtain ⟨hone, hle⟩ := (isKey_iff _).1 h.isKey_trim
  refine ⟨hone, hle, ?_, ?_⟩
  · simpa only [normalized_pid, h.pid_eq] using hpid
  · simpa only [normalized_tid, h.tid_eq] using htid

namespace Pipeline

variable {s : Store} {a : Attempt}

/-- A proper attempt is told that its problem is locked exactly when no problem with the identifier
is open to the team. -/
theorem fst_run_submit_eq_locked_iff (hs : s.Reachable) (setup : Setup) (now : Int)
    (ha : a.normalized.IsProper) :
    ((submit setup now a).run .none s).1 = .error .locked ↔
      ∀ p, s.Opens a.tid p → p.pid ≠ a.pid := by
  have houtcome := outcome_submitNormalized hs setup now a.normalized
  unfold submit
  generalize (submitNormalized setup now a.normalized).run .none s = out at houtcome ⊢
  cases houtcome with
  | improper h => exact absurd ha h
  | locked _ h => exact ⟨fun _ => h, fun _ => rfl⟩
  | _ => exact ⟨nofun, fun h => absurd ‹_ = _› (h _ ‹s.Opens _ _›)⟩

/-- A proper attempt is told that its problem is solved exactly when the problem is open to the team
and the team has solved it. -/
theorem fst_run_submit_eq_alreadySolved_iff (hs : s.Reachable) (setup : Setup) (now : Int)
    (ha : a.normalized.IsProper) :
    ((submit setup now a).run .none s).1 = .error .alreadySolved ↔
      (∃ p, s.Opens a.tid p ∧ p.pid = a.pid) ∧ s.HasSolved a.tid a.pid := by
  have houtcome := outcome_submitNormalized hs setup now a.normalized
  unfold submit
  generalize (submitNormalized setup now a.normalized).run .none s = out at houtcome ⊢
  cases houtcome with
  | improper h => exact absurd ha h
  | locked _ h => exact ⟨nofun, fun ⟨⟨p, hopen, hpid⟩, _⟩ => absurd hpid (h p hopen)⟩
  | solved _ hopen hpid h => exact ⟨fun _ => ⟨⟨_, hopen, hpid⟩, h⟩, fun _ => rfl⟩
  | _ => exact ⟨nofun, fun ⟨_, hsolved⟩ => absurd hsolved ‹¬s.HasSolved _ _›⟩

end Pipeline

/-! ## The ways agree -/

/-- The problems that are listed as open are those under the identifiers that are listed. -/
theorem Store.mem_openPids_iff_mem_entries (s : Store) (tid pid : String) :
    pid ∈ (s.openTo tid none).map (·.pid) ↔
      ∃ u ∈ (s.openTo tid none).map fun p =>
        (⟨p, (s.solvedBy tid).contains p.pid⟩ : UnlockedProblem), u.problem.pid = pid := by
  rw [List.mem_map]
  constructor
  · rintro ⟨p, hp, hpid⟩
    exact ⟨_, List.mem_map.2 ⟨p, hp, rfl⟩, hpid⟩
  · rintro ⟨u, hu, hpid⟩
    obtain ⟨p, hp, rfl⟩ := List.mem_map.1 hu
    exact ⟨p, hp, hpid⟩

/-- **What a team may see is what it may attempt.**  In a reachable store, for a team and a problem
whose identifiers are not too long: the identifier is listed as open exactly when the problem is
listed as open, exactly when the team that asks for the problem is given it, and exactly when an
attempt with any key of a proper length is not told that the problem is locked.  Then the team is
given the problem that is stored, which is enabled, and it is marked as solved exactly when the team
has solved it, and exactly when every such attempt is told so.  Otherwise the team that asks for the
problem is told that it cannot get it. -/
theorem visibility_of_problem {s : Store} (hs : s.Reachable) {tid pid : String}
    (htid : tid.length ≤ Attempt.maxLength) (hpid : pid.length ≤ Attempt.maxLength) :
    ∃ pids entries solved,
      ((Progress.unlockedPids tid none).run .none s = (.ok pids, s) ∧
        (Progress.unlockedProblems tid none).run .none s = (.ok entries, s) ∧
        (Progress.solvedPids tid none).run .none s = (.ok solved, s)) ∧
      (pid ∈ pids ↔ ∃ u ∈ entries, u.problem.pid = pid) ∧
      (pid ∈ pids ↔ ∃ p, (Lifecycle.getForTeam pid tid).run .none s = (.ok p, s)) ∧
      (∀ (setup : Setup) (now : Int) (a : Attempt), a.IsFor tid pid →
        (pid ∈ pids ↔ ((Pipeline.submit setup now a).run .none s).1 ≠ .error .locked)) ∧
      (pid ∈ pids →
        (∃ p, s.problem? pid = some p ∧ p.disabled = false ∧
          (Lifecycle.getForTeam pid tid).run .none s = (.ok p, s)) ∧
        (∀ u ∈ entries, u.problem.pid = pid → (u.solved = true ↔ pid ∈ solved.toList)) ∧
        ∀ (setup : Setup) (now : Int) (a : Attempt), a.IsFor tid pid →
          (pid ∈ solved.toList ↔
            ((Pipeline.submit setup now a).run .none s).1 = .error .alreadySolved)) ∧
      (pid ∉ pids →
        (Lifecycle.getForTeam pid tid).run .none s = (.error .hidden, s) ∧
          Failure.hidden.display = "Not found: You cannot get this problem") := by
  have hlocked : ∀ (setup : Setup) (now : Int) (a : Attempt), a.IsFor tid pid →
      (((Pipeline.submit setup now a).run .none s).1 = .error .locked ↔
        ∀ p, s.Opens tid p → p.pid ≠ pid) := by
    intro setup now a ha
    rw [Pipeline.fst_run_submit_eq_locked_iff hs setup now (ha.isProper htid hpid), ha.tid_eq,
      ha.pid_eq]
  refine ⟨_, _, _, ⟨Progress.run_unlockedPids s tid none, Progress.run_unlockedProblems s tid none,
    Progress.run_solvedPids s tid⟩, s.mem_openPids_iff_mem_entries tid pid, ?_, ?_, ?_, ?_⟩
  · rw [s.mem_openPids]
    rcases Lifecycle.run_getForTeam hs pid tid with ⟨p, hopen, heq, -, hrun⟩ | ⟨hnone, hrun⟩
    · exact ⟨fun _ => ⟨p, hrun⟩, fun _ => ⟨p, hopen, heq⟩⟩
    · rw [hrun]
      exact ⟨fun ⟨p, hopen, heq⟩ => absurd heq (hnone p hopen), nofun⟩
  · intro setup now a ha
    rw [s.mem_openPids, ne_eq, hlocked setup now a ha, not_forall]
    simp only [Classical.not_imp, not_not]
  · intro hmem
    rw [s.mem_openPids] at hmem
    refine ⟨?_, fun u hu heq => ?_, fun setup now a ha => ?_⟩
    · rcases Lifecycle.run_getForTeam hs pid tid with ⟨p, hopen, -, hp, hrun⟩ | ⟨hnone, -⟩
      · exact ⟨p, hp, hopen.enabled, hrun⟩
      · obtain ⟨p, hopen, heq⟩ := hmem
        exact absurd heq (hnone p hopen)
    · obtain ⟨p, -, rfl⟩ := List.mem_map.1 hu
      rw [← heq, TextSet.mem_toList_iff]
    · rw [Pipeline.fst_run_submit_eq_alreadySolved_iff hs setup now (ha.isProper htid hpid),
        ha.tid_eq, ha.pid_eq, TextSet.mem_toList_iff, s.contains_solvedBy]
      exact ⟨fun hsolved => ⟨hmem, hsolved⟩, fun h => h.2⟩
  · intro hmem
    rw [s.mem_openPids] at hmem
    rcases Lifecycle.run_getForTeam hs pid tid with ⟨p, hopen, heq, -, -⟩ | ⟨-, hrun⟩
    · exact absurd ⟨p, hopen, heq⟩ hmem
    · exact ⟨hrun, rfl⟩

/-- The red team has solved the only problem.  It is still given the problem, which is marked as
solved, and another key is turned down for that reason.  What nobody has inserted it cannot get. -/
theorem visibility_of_solved_and_missing :
    let s := ((Pipeline.submit Sample.setup 7 Sample.attempt).run .none Sample.store).2
    let pid := Problem.pidOf "Warmup"
    let again : Attempt := { Sample.attempt with key := "glaf" }
    (s.Reachable ∧ "red".length ≤ Attempt.maxLength ∧ pid.length ≤ Attempt.maxLength ∧
      "nowhere".length ≤ Attempt.maxLength ∧ again.IsFor "red" pid) ∧
    (∃ p, s.problem? pid = some p ∧ p.disabled = false ∧
      (Lifecycle.getForTeam pid "red").run .none s = (.ok p, s)) ∧
    ((Pipeline.submit Sample.setup 8 again).run .none s).1 = .error .alreadySolved ∧
    (Lifecycle.getForTeam "nowhere" "red").run .none s = (.error .hidden, s) := by
  intro s pid again
  have hs : s.Reachable :=
    (Sample.served_store.operation Sample.setup (.submit 7 Sample.attempt)).reachable
  have hpid : pid.length ≤ Attempt.maxLength := by
    rw [Problem.pidOf_length]
    decide
  have hagain : again.IsFor "red" pid := ⟨rfl, rfl, by decide +kernel⟩
  have hopen : pid ∈ (s.openTo "red" none).map (·.pid) ∧
      "nowhere" ∉ (s.openTo "red" none).map (·.pid) ∧
      pid ∈ (s.solvedBy "red").toList := by decide +kernel
  obtain ⟨pids, entries, solved, ⟨hpids, -, hsolved⟩, -, -, -, hvisible, -⟩ :=
    @visibility_of_problem s hs "red" pid (by decide) hpid
  have hpids := (Progress.run_unlockedPids s "red" none).symm.trans hpids
  have hsolved := (Progress.run_solvedPids s "red").symm.trans hsolved
  rw [← Except.ok.inj (Prod.mk.inj hpids).1, ← Except.ok.inj (Prod.mk.inj hsolved).1] at hvisible
  obtain ⟨hgiven, -, htold⟩ := hvisible hopen.1
  obtain ⟨pids', -, -, ⟨hpids', -, -⟩, -, -, -, -, hhidden⟩ :=
    @visibility_of_problem s hs "red" "nowhere" (by decide) (by decide)
  have hpids' := (Progress.run_unlockedPids s "red" none).symm.trans hpids'
  rw [← Except.ok.inj (Prod.mk.inj hpids').1] at hhidden
  exact ⟨⟨hs, by decide, hpid, by decide, hagain⟩, hgiven,
    (htold Sample.setup 8 again hagain).1 hopen.2.2, (hhidden hopen.2.1).1⟩

end CaptureTheFlag
