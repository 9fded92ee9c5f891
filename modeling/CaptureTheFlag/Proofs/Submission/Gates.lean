import CaptureTheFlag.Proofs.Problem.Lifecycle
import CaptureTheFlag.Proofs.Team.Progress

/-!
# What becomes of an attempt

An attempt meets a number of gates, and the first one that stays shut decides what becomes of it.
Here every gate is a condition on what is stored, and the outcome of an attempt is told from these
conditions alone.

* `Registry.Judges`: a grader is registered, is in time, and has this verdict.
* `Pipeline.Outcome`: what becomes of an attempt, with one case for each gate and one for an attempt
  that passes them all.
* `Pipeline.run_checkUnlocked` and what follows it: the two ends of each gate.
* `Pipeline.outcome_submitNormalized`: the gates in their order.
* `outcome_of_submitted`: what becomes of an attempt that is submitted.

## Where reachability comes in

The way of an attempt has two ends that are not among the outcomes.  The problem might not be found
when it is fetched for its grader, although it is listed as open; and the store might refuse the
attempt although it has not been found before.  Both are ruled out by how things are stored.  A
listed problem is found by its identifier since it lies under it
(`Store.Reachable.problem?_of_mem`), and the store compares attempts by the very parts that the gate
before it asks for (`Store.HasTried`).  The grader is asked about the user that was found, who has
the identifier that was looked up (`Store.Reachable.uid_of_user?`).
-/

namespace CaptureTheFlag

open Program

/-! ## Verdicts -/

/-- The grader is registered, answers in time, and has this verdict. -/
def Registry.Judges (r : Registry) (id : String) (uid? : Option String) (key : String)
    (v : Verdict) : Prop :=
  ∃ g, r.graders.get? id = some g ∧ min (g uid? key).delay Grader.horizon ≤ r.timeout ∧
    (g uid? key).result = .ok v

theorem Registry.grade_eq_ok_iff (r : Registry) (id : String) (uid? : Option String) (key : String)
    (v : Verdict) : r.grade id uid? key = .ok v ↔ r.Judges id uid? key v := by
  unfold grade Judges
  cases hg : r.graders.get? id with
  | none => simp
  | some g =>
    simp only [Option.some.injEq, exists_eq_left']
    split
    · next hlate => simp [Nat.not_le.2 hlate]
    · next hlate =>
      rw [Nat.not_lt] at hlate
      cases hresult : (g uid? key).result with
      | ok w => simp [hlate]
      | error cause => simp

/-- A grader that has a verdict has one only. -/
theorem Registry.Judges.unique {r : Registry} {id key : String} {uid? : Option String}
    {v v' : Verdict} (h : r.Judges id uid? key v) (h' : r.Judges id uid? key v') : v = v' := by
  rw [← r.grade_eq_ok_iff] at h h'
  rw [h] at h'
  exact Except.ok.inj h'

/-! ## Tried keys -/

/-- The team has sent in the key for the problem. -/
def Store.HasTried (s : Store) (tid pid key : String) : Prop :=
  ∃ x ∈ s.submissions, x.tid = tid ∧ x.pid = pid ∧ x.key = key

/-! ## Outcomes -/

namespace Pipeline

/-- What becomes of an attempt with a stripped key.  Each case asks for all gates before its own to
be open: a problem with the identifier is open to the team, the team has not solved it, the user is
known, and the team has not tried the key. -/
inductive Outcome (setup : Setup) (now : Int) (s : Store) (a : Attempt) :
    Except Failure Result × Store → Prop where
  | improper (h : ¬a.IsProper) : Outcome setup now s a (.error (.badAttempt a.badFields), s)
  | locked (hproper : a.IsProper) (h : ∀ p, s.Opens a.tid p → p.pid ≠ a.pid) :
      Outcome setup now s a (.error .locked, s)
  | solved (hproper : a.IsProper) {p : Problem} (hopen : s.Opens a.tid p) (hpid : p.pid = a.pid)
      (h : s.HasSolved a.tid a.pid) : Outcome setup now s a (.error .alreadySolved, s)
  | unknown (hproper : a.IsProper) {p : Problem} (hopen : s.Opens a.tid p) (hpid : p.pid = a.pid)
      (hunsolved : ¬s.HasSolved a.tid a.pid) (h : s.user? a.uid = none) :
      Outcome setup now s a (.error (.unknownUser a.uid), s)
  | tried (hproper : a.IsProper) {p : Problem} (hopen : s.Opens a.tid p) (hpid : p.pid = a.pid)
      (hunsolved : ¬s.HasSolved a.tid a.pid) (huser : s.user? a.uid ≠ none)
      (h : s.HasTried a.tid a.pid a.key) : Outcome setup now s a (.error .alreadyTried, s)
  /-- The grader is not registered, is late, or fails. -/
  | offline (hproper : a.IsProper) {p : Problem} (hopen : s.Opens a.tid p) (hpid : p.pid = a.pid)
      (hunsolved : ¬s.HasSolved a.tid a.pid) (huser : s.user? a.uid ≠ none)
      (huntried : ¬s.HasTried a.tid a.pid a.key)
      (h : ∀ v, ¬setup.registry.Judges p.grader (some a.uid) a.key v) :
      Outcome setup now s a (.error (.graderOffline p.name), s)
  /-- The attempt is stored with its verdict, behind all others. -/
  | judged (hproper : a.IsProper) {p : Problem} (hopen : s.Opens a.tid p) (hpid : p.pid = a.pid)
      (hunsolved : ¬s.HasSolved a.tid a.pid) (huser : s.user? a.uid ≠ none)
      (huntried : ¬s.HasTried a.tid a.pid a.key) {v : Verdict}
      (h : setup.registry.Judges p.grader (some a.uid) a.key v) :
      Outcome setup now s a
        (.ok ⟨v.correct, p.score, v.message⟩,
          { s with submissions := s.submissions ++
              [⟨a.uid, a.tid, a.pid, a.key, now, a.ip, p.category, v.correct⟩] })

/-! ## The two ends of each gate

A gate is shut, and the attempt fails there; or it is open, and the attempt goes on.  The store
stays as it is in either case. -/

variable (s : Store)

theorem run_checkUnlocked (tid pid : String) :
    (∀ p, s.Opens tid p → p.pid ≠ pid) ∧
        (checkUnlocked tid pid).run .none s = (.error .locked, s) ∨
      (∃ p, s.Opens tid p ∧ p.pid = pid) ∧ (checkUnlocked tid pid).run .none s = (.ok (), s) := by
  have hrun := run_bind_of_ok (Progress.run_unlockedPids s tid none) fun unlocked =>
    if pid ∈ unlocked then pure () else Program.fail .locked
  unfold checkUnlocked
  rw [bind_eq, hrun]
  by_cases hmem : pid ∈ (s.openTo tid none).map (·.pid)
  · rw [if_pos hmem]
    exact Or.inr ⟨(s.mem_openPids tid pid).1 hmem, rfl⟩
  · rw [if_neg hmem]
    refine Or.inl ⟨fun p hopen hpid => ?_, rfl⟩
    exact hmem ((s.mem_openPids tid pid).2 ⟨p, hopen, hpid⟩)

theorem run_checkUnsolved (tid pid : String) :
    s.HasSolved tid pid ∧ (checkUnsolved tid pid).run .none s = (.error .alreadySolved, s) ∨
      ¬s.HasSolved tid pid ∧ (checkUnsolved tid pid).run .none s = (.ok (), s) := by
  have hrun := run_bind_of_ok (Progress.run_solvedPids s tid) fun solved =>
    if solved.contains pid then Program.fail .alreadySolved else pure ()
  unfold checkUnsolved
  rw [bind_eq, hrun]
  by_cases hsolved : (s.solvedBy tid).contains pid = true
  · rw [if_pos hsolved]
    exact Or.inl ⟨(s.contains_solvedBy tid pid).1 hsolved, rfl⟩
  · rw [if_neg hsolved]
    exact Or.inr ⟨fun h => hsolved ((s.contains_solvedBy tid pid).2 h), rfl⟩

theorem run_resolveUser (uid : String) :
    s.user? uid = none ∧ (resolveUser uid).run .none s = (.error (.unknownUser uid), s) ∨
      ∃ u, s.user? uid = some u ∧ (resolveUser uid).run .none s = (.ok u, s) := by
  unfold resolveUser
  rw [bind_eq, run_bind_of_ok (run_call (.findUser uid) s)]
  cases hu : s.user? uid with
  | none => exact Or.inl ⟨rfl, rfl⟩
  | some u => exact Or.inr ⟨u, rfl, rfl⟩

/-- The filter of the gate and the comparison of the store ask for the same. -/
theorem selects_tried (tid pid key : String) (x : Submission) :
    Submission.Filter.selects { pid := some pid, tid := some tid, key := some key } x = true ↔
      x.tid = tid ∧ x.pid = pid ∧ x.key = key := by
  rw [Submission.Filter.selects_iff]
  simp only [Submission.Filter.admits_none, Submission.Filter.admits_some, true_and, and_true,
    decide_eq_true_eq]
  constructor
  · rintro ⟨hpid, htid, hkey⟩
    exact ⟨htid.symm, hpid.symm, hkey.symm⟩
  · rintro ⟨htid, hpid, hkey⟩
    exact ⟨hpid.symm, htid.symm, hkey.symm⟩

theorem run_checkUntried (a : Attempt) :
    s.HasTried a.tid a.pid a.key ∧ (checkUntried a).run .none s = (.error .alreadyTried, s) ∨
      ¬s.HasTried a.tid a.pid a.key ∧ (checkUntried a).run .none s = (.ok (), s) := by
  have hmem : ∀ x, x ∈ s.submissionsWhere
      { pid := some a.pid, tid := some a.tid, key := some a.key } ↔
        x ∈ s.submissions ∧ x.tid = a.tid ∧ x.pid = a.pid ∧ x.key = a.key := by
    intro x
    rw [s.mem_submissionsWhere, selects_tried]
  unfold checkUntried
  rw [bind_eq, run_bind_of_ok (run_call _ s)]
  cases hfound : s.submissionsWhere
      { pid := some a.pid, tid := some a.tid, key := some a.key } with
  | nil =>
    rw [hfound] at hmem
    refine Or.inr ⟨?_, rfl⟩
    rintro ⟨x, hx⟩
    cases (hmem x).2 hx
  | cons x r =>
    rw [hfound] at hmem
    exact Or.inl ⟨⟨x, (hmem x).1 List.mem_cons_self⟩, rfl⟩

theorem judge_cases (setup : Setup) (p : Problem) (uid? : Option String) (key : String) :
    (∀ v, ¬setup.registry.Judges p.grader uid? key v) ∧
        judge setup p uid? key = .error (.graderOffline p.name) ∨
      ∃ v, setup.registry.Judges p.grader uid? key v ∧ judge setup p uid? key = .ok v := by
  unfold judge
  cases hgrade : setup.registry.grade p.grader uid? key with
  | ok v => exact Or.inr ⟨v, (setup.registry.grade_eq_ok_iff _ _ _ v).1 hgrade, rfl⟩
  | error refusal =>
    refine Or.inl ⟨fun v hv => ?_, rfl⟩
    rw [(setup.registry.grade_eq_ok_iff _ _ _ v).2 hv] at hgrade
    cases hgrade

/-- The store does not refuse what has not been tried. -/
theorem run_insert {x : Submission} (h : ¬s.HasTried x.tid x.pid x.key) (r : Result) :
    Program.run .none (do
      (Program.call (.insertSubmission x)).mapFailure triedIfStored
      pure r) s = (.ok r, { s with submissions := s.submissions ++ [x] }) := by
  have hstored : ((Program.call (.insertSubmission x)).mapFailure triedIfStored).run .none s =
      (.ok (), { s with submissions := s.submissions ++ [x] }) := by
    rw [run_mapFailure, run_call]
    show ((s.insertSubmission x).1.mapError triedIfStored, (s.insertSubmission x).2) = _
    rcases Store.insertSubmission_cases x s with ⟨⟨y, hy, hsame⟩, -⟩ | ⟨-, hx⟩
    · exact absurd ⟨y, hy, (Submission.sameAttempt_iff y x).1 hsame⟩ h
    · rw [hx]
      rfl
  exact run_bind_of_ok hstored _

/-! ## The gates in their order -/

/-- The first gate that stays shut decides what becomes of an attempt. -/
theorem outcome_submitNormalized {s : Store} (hs : s.Reachable) (setup : Setup) (now : Int)
    (a : Attempt) : Outcome setup now s a ((submitNormalized setup now a).run .none s) := by
  unfold submitNormalized
  simp only [bind_eq, lift_eq, pure_eq]
  by_cases hproper : a.IsProper
  case neg =>
    rw [Attempt.check_of_not_isProper hproper]
    exact .improper hproper
  rw [a.check_eq_ok_iff.2 hproper, done_ok_bind]
  rcases run_checkUnlocked s a.tid a.pid with ⟨hlocked, hrun⟩ | ⟨⟨p, hopen, hpid⟩, hrun⟩
  · rw [run_bind_of_error hrun]
    exact .locked hproper hlocked
  rw [run_bind_of_ok hrun]
  rcases run_checkUnsolved s a.tid a.pid with ⟨hsolved, hrun⟩ | ⟨hunsolved, hrun⟩
  · rw [run_bind_of_error hrun]
    exact .solved hproper hopen hpid hsolved
  rw [run_bind_of_ok hrun]
  rcases run_resolveUser s a.uid with ⟨hunknown, hrun⟩ | ⟨u, hfound, hrun⟩
  · rw [run_bind_of_error hrun]
    exact .unknown hproper hopen hpid hunsolved hunknown
  rw [run_bind_of_ok hrun]
  have huser : s.user? a.uid ≠ none := by
    rw [hfound]
    exact Option.some_ne_none u
  rcases run_checkUntried s a with ⟨htried, hrun⟩ | ⟨huntried, hrun⟩
  · rw [run_bind_of_error hrun]
    exact .tried hproper hopen hpid hunsolved huser htried
  rw [run_bind_of_ok hrun]
  -- the problem is fetched by its identifier, and the grader is told the identifier of the user
  have hlisted : s.problem? a.pid = some p := by
    rw [← hpid]
    exact hs.problem?_of_mem hopen.stored
  rcases Lifecycle.run_find s a.pid with ⟨hmissing, -⟩ | ⟨p', hp', hrun⟩
  · rw [hlisted] at hmissing
    cases hmissing
  obtain rfl : p = p' := Option.some.inj (hlisted.symm.trans hp')
  rw [run_bind_of_ok hrun, hs.uid_of_user? hfound]
  rcases judge_cases setup p (some a.uid) a.key with ⟨hoffline, hv⟩ | ⟨v, hjudged, hv⟩
  · rw [hv]
    exact .offline hproper hopen hpid hunsolved huser huntried hoffline
  have hstored := run_insert s (x := record now a p v) huntried ⟨v.correct, p.score, v.message⟩
  rw [hv, done_ok_bind]
  refine Eq.mpr (congrArg (Outcome setup now s a) hstored) ?_
  exact .judged hproper hopen hpid hunsolved huser huntried hjudged

/-! ## There is one outcome -/

/-- The cases of an outcome exclude each other: each asks for a gate to be shut that the later ones
ask to be open. -/
theorem Outcome.unique {setup : Setup} {now : Int} {s : Store} (hs : s.Reachable) {a : Attempt}
    {out out' : Except Failure Result × Store} (h : Outcome setup now s a out)
    (h' : Outcome setup now s a out') : out = out' := by
  cases h with
  | improper h =>
    cases h' with
    | improper => rfl
    | _ => contradiction
  | locked _ h =>
    cases h' with
    | improper => contradiction
    | locked => rfl
    | solved _ hopen hpid => exact absurd hpid (h _ hopen)
    | unknown _ hopen hpid => exact absurd hpid (h _ hopen)
    | tried _ hopen hpid => exact absurd hpid (h _ hopen)
    | offline _ hopen hpid => exact absurd hpid (h _ hopen)
    | judged _ hopen hpid => exact absurd hpid (h _ hopen)
  | solved _ hopen hpid h =>
    cases h' with
    | locked _ h' => exact absurd hpid (h' _ hopen)
    | solved => rfl
    | _ => contradiction
  | unknown _ hopen hpid _ h =>
    cases h' with
    | locked _ h' => exact absurd hpid (h' _ hopen)
    | unknown => rfl
    | _ => contradiction
  | tried _ hopen hpid _ _ h =>
    cases h' with
    | locked _ h' => exact absurd hpid (h' _ hopen)
    | tried => rfl
    | _ => contradiction
  | offline _ hopen hpid _ _ _ h =>
    cases h' with
    | locked _ h' => exact absurd hpid (h' _ hopen)
    | offline _ hopen' hpid' =>
      obtain rfl := hopen.eq_of_pid_eq hs hopen' (hpid.trans hpid'.symm)
      rfl
    | judged _ hopen' hpid' _ _ _ hjudged =>
      obtain rfl := hopen.eq_of_pid_eq hs hopen' (hpid.trans hpid'.symm)
      exact absurd hjudged (h _)
    | _ => contradiction
  | judged _ hopen hpid _ _ _ hjudged =>
    cases h' with
    | locked _ h' => exact absurd hpid (h' _ hopen)
    | offline _ hopen' hpid' _ _ _ h' =>
      obtain rfl := hopen.eq_of_pid_eq hs hopen' (hpid.trans hpid'.symm)
      exact absurd hjudged (h' _)
    | judged _ hopen' hpid' _ _ _ hjudged' =>
      obtain rfl := hopen.eq_of_pid_eq hs hopen' (hpid.trans hpid'.symm)
      rw [hjudged.unique hjudged']
    | _ => contradiction

end Pipeline

/-- **What becomes of an attempt**: in every reachable store, with any graders, an attempt that is
submitted has its key stripped, and then the first gate that stays shut decides what is returned and
what is stored; if none does, its verdict decides. -/
theorem outcome_of_submitted {s : Store} (hs : s.Reachable) (setup : Setup) (now : Int)
    (a : Attempt) (out : Except Failure Pipeline.Result × Store) :
    (Pipeline.submit setup now a).run .none s = out ↔
      Pipeline.Outcome setup now s a.normalized out := by
  have hrun := Pipeline.outcome_submitNormalized hs setup now a.normalized
  constructor
  · rintro rfl
    exact hrun
  · intro hout
    exact hrun.unique hs hout

/-- The right flag is accepted.  Sent in once more, and by nobody who is known, it meets three gates
that are shut: the problem is solved, the user is unknown, and the key is tried.  The first of them
decides. -/
theorem outcome_of_right_flag :
    let first := (Pipeline.submit Sample.setup 7 Sample.attempt).run .none Sample.store
    let again := (Pipeline.submit Sample.setup 8 { Sample.attempt with uid := "eve" }).run .none
      first.2
    (Sample.store.Reachable ∧
      Pipeline.Outcome Sample.setup 7 Sample.store Sample.attempt.normalized first) ∧
    first.1.toOption = some ⟨true, 50, "Correct!"⟩ ∧
    (first.2.Reachable ∧ Pipeline.Outcome Sample.setup 8 first.2
      { Sample.attempt with uid := "eve" }.normalized again) ∧
    (match again.1 with | .error f => some f | .ok _ => none) = some .alreadySolved := by
  intro first again
  have hfirst : first.2.Reachable :=
    (Sample.served_store.operation Sample.setup (.submit 7 Sample.attempt)).reachable
  refine ⟨⟨Sample.served_store.reachable, ?_⟩, by decide +kernel, ⟨hfirst, ?_⟩, ?_⟩
  · exact (outcome_of_submitted Sample.served_store.reachable Sample.setup 7 Sample.attempt _).1 rfl
  · exact (outcome_of_submitted hfirst Sample.setup 8 _ _).1 rfl
  · decide +kernel

end CaptureTheFlag
