import CaptureTheFlag.Proofs.Submission.Gates

/-!
# Solved problems that are gone

The problems that a team has solved are told from its correct submissions, and each is looked up by
its identifier.  A submission stays when its problem is removed, so a look-up may miss.  Then the
team is given no problem at all, but a failure that names the first one missing.

* `Store.HasSolvedIn`: the problems that a team has solved; those of one category if given.
* `Store.ServedLosing`: the stores that operations lead to one after another, with the problems that
  are lost.
* `Store.ServedLosing.stored_or_lost`: what a submission is for is stored or lost.
* `Progress.run_resolve`: what becomes of looking up problems one after another.
* `Progress.Resolution`: what becomes of asking for the problems that a team has solved.
* `resolution_of_servedLosing`: they are found unless one of them is lost.

## What is lost

A problem is lost when it is removed, and it is found again when a problem with its identifier comes
in.  The store keeps no trace of what is gone, so the lost problems are kept beside it
(`Store.lostAfter`).  No operation looks at them, and they are there for every store that operations
lead to.
-/

namespace CaptureTheFlag

open Program

/-! ## What an operation leaves stored -/

/-- What is stored stays so when something is put in. -/
theorem KeyMap.get?_insert_ne_none {α : Type} {m : KeyMap α} {k : String} (h : m.get? k ≠ none)
    (k' : String) (v : α) : (m.insert k' v).get? k ≠ none := by
  rw [get?_insert]
  split
  · exact Option.some_ne_none v
  · exact h

/-- Only its removal takes a problem away. -/
theorem Call.problem?_perform_ne_none {c : Call} {pid : String} (hc : c ≠ .deleteProblem pid)
    {s : Store} (hp : s.problem? pid ≠ none) : (c.perform s).2.problem? pid ≠ none := by
  by_cases hw : c.WritesProblems
  · cases c with
    | insertProblem p =>
      show (Store.insertProblem p s).2.problem? pid ≠ none
      rcases Store.insertProblem_cases p s with h | ⟨-, -, h⟩ <;> rw [h]
      · exact hp
      · exact KeyMap.get?_insert_ne_none hp _ _
    | replaceProblem p =>
      show (Store.replaceProblem p s).2.problem? pid ≠ none
      rcases Store.replaceProblem_cases p s with h | h | ⟨-, -, h⟩ <;> rw [h]
      · exact hp
      · exact hp
      · exact KeyMap.get?_insert_ne_none hp _ _
    | deleteProblem pid' =>
      have hne : pid ≠ pid' := by
        rintro rfl
        exact hc rfl
      show (s.problems.erase pid').get? pid ≠ none
      rw [KeyMap.get?_erase, if_neg hne]
      exact hp
    | _ => exact hw.elim
  · unfold Store.problem?
    rw [Call.problems_perform hw]
    exact hp

/-- Setting verdicts and deleting brings in no submissions. -/
theorem Call.exists_pid_eq_of_mem_perform {c : Call} (hc : ∀ x, c ≠ .insertSubmission x)
    {s : Store} {x : Submission} (hx : x ∈ (c.perform s).2.submissions) :
    ∃ y ∈ s.submissions, y.pid = x.pid := by
  by_cases hw : c.WritesSubmissions
  · cases c with
    | insertSubmission x => exact absurd rfl (hc x)
    | setCorrect f correct =>
      obtain ⟨y, hy, rfl⟩ := List.mem_map.1 hx
      refine ⟨y, hy, ?_⟩
      split <;> rfl
    | deleteSubmissions f => exact ⟨x, (List.mem_filter.1 hx).1, rfl⟩
    | _ => exact hw.elim
  · rw [Call.submissions_perform hw] at hx
    exact ⟨x, hx, rfl⟩

/-- An attempt is stored for a problem that is stored. -/
theorem Pipeline.mem_or_stored {s : Store} (hs : s.Reachable) (setup : Setup) (now : Int)
    (a : Attempt) {x : Submission} (hx : x ∈ ((submit setup now a).run .none s).2.submissions) :
    x ∈ s.submissions ∨ ((submit setup now a).run .none s).2.problem? x.pid ≠ none := by
  have houtcome := outcome_submitNormalized hs setup now a.normalized
  unfold submit at hx ⊢
  generalize (submitNormalized setup now a.normalized).run .none s = out at houtcome hx ⊢
  cases houtcome with
  | @judged hproper p hopen hpid hunsolved huser huntried v h =>
    rcases List.mem_append.1 hx with hx | hx
    · exact Or.inl hx
    · have hstored := hs.problem?_of_mem hopen.stored
      rw [hpid] at hstored
      rw [List.mem_singleton.1 hx]
      exact Or.inr fun hnone => Option.some_ne_none p (hstored.symm.trans hnone)
  | _ => exact Or.inl hx

namespace Operation

/-- No operation takes a problem away but its removal. -/
theorem problem?_program_ne_none {o : Operation} {pid : String} (ho : o ≠ .remove pid)
    (setup : Setup) {s : Store} (hp : s.problem? pid ≠ none) :
    ((o.program setup).run .none s).2.problem? pid ≠ none := by
  refine run_preserves (I := fun t => t.problem? pid ≠ none) (fun c t hc ht => ?_) .none
    (o.calls_program setup) hp
  refine Call.problem?_perform_ne_none ?_ ht
  rintro rfl
  exact ho hc

/-- A submission is for a problem that an earlier one is for, or for one that is stored. -/
theorem exists_pid_eq_or_stored {s : Store} (hs : s.Reachable) (setup : Setup) (o : Operation)
    {x : Submission} (hx : x ∈ ((o.program setup).run .none s).2.submissions) :
    (∃ y ∈ s.submissions, y.pid = x.pid) ∨
      ((o.program setup).run .none s).2.problem? x.pid ≠ none := by
  by_cases hsubmit : ∃ now a, o = .submit now a
  · obtain ⟨now, a, rfl⟩ := hsubmit
    have hstore : (((Operation.submit now a).program setup).run .none s).2 =
        ((Pipeline.submit setup now a).run .none s).2 := rfl
    rw [hstore] at hx ⊢
    rcases Pipeline.mem_or_stored hs setup now a hx with hx | hstored
    · exact Or.inl ⟨x, hx, rfl⟩
    · exact Or.inr hstored
  · refine Or.inl (run_preserves
      (I := fun t => ∀ x ∈ t.submissions, ∃ y ∈ s.submissions, y.pid = x.pid)
      (fun c t hc ht x hx => ?_) .none (o.calls_program setup) (fun x hx => ⟨x, hx, rfl⟩) x hx)
    have hinsert : ∀ z, c ≠ .insertSubmission z := by
      rintro z rfl
      obtain ⟨now, a, p, v, ho, -⟩ := hc
      exact hsubmit ⟨now, a, ho⟩
    obtain ⟨y, hy, hpid⟩ := Call.exists_pid_eq_of_mem_perform hinsert hx
    obtain ⟨z, hz, hpid'⟩ := ht y hy
    exact ⟨z, hz, hpid'.trans hpid⟩

end Operation

/-! ## Problems that are lost -/

namespace Store

/-- The problems that are lost after an operation has led from one store to another: what was lost
before or has been removed by it, and is not stored behind it. -/
def lostAfter (lost : String → Prop) (o : Operation) (s s' : Store) (pid : String) : Prop :=
  s'.problem? pid = none ∧ (lost pid ∨ o = .remove pid ∧ s.problem? pid ≠ none)

/-- The stores that operations lead to one after another, each with the problems that are lost. -/
inductive ServedLosing : (String → Prop) → Store → Prop where
  | empty : ServedLosing (fun _ => False) .empty
  | addUser {lost : String → Prop} {s : Store} (u : User) (hs : ServedLosing lost s) :
      ServedLosing lost (s.addUser u)
  | operation {lost : String → Prop} {s : Store} (setup : Setup) (o : Operation)
      (hs : ServedLosing lost s) :
      ServedLosing (lostAfter lost o s ((o.program setup).run .none s).2)
        ((o.program setup).run .none s).2

/-- What is lost can be kept whatever is done. -/
theorem Served.exists_lost {s : Store} (hs : s.Served) : ∃ lost, s.ServedLosing lost := by
  induction hs with
  | empty => exact ⟨_, .empty⟩
  | addUser u _ ih =>
    obtain ⟨lost, h⟩ := ih
    exact ⟨_, h.addUser u⟩
  | operation setup o _ ih =>
    obtain ⟨lost, h⟩ := ih
    exact ⟨_, h.operation setup o⟩

namespace ServedLosing

variable {lost : String → Prop} {s : Store}

theorem served (hs : s.ServedLosing lost) : s.Served := by
  induction hs with
  | empty => exact .empty
  | addUser u _ ih => exact ih.addUser u
  | operation setup o _ ih => exact ih.operation setup o

/-- What is lost is not stored. -/
theorem problem?_of_lost (hs : s.ServedLosing lost) {pid : String} (hpid : lost pid) :
    s.problem? pid = none := by
  induction hs with
  | empty => exact hpid.elim
  | addUser u _ ih => exact ih hpid
  | operation setup o _ _ => exact hpid.1

/-- **Every submission is for a problem that is stored or lost.**  The induction is on the
operations: a new submission is for a problem that is stored, and a problem that an operation takes
away is lost by it. -/
theorem stored_or_lost (hs : s.ServedLosing lost) :
    ∀ x ∈ s.submissions, s.problem? x.pid ≠ none ∨ lost x.pid := by
  induction hs with
  | empty =>
    intro x hx
    cases hx
  | addUser u _ ih => exact ih
  | @operation lost s setup o hs ih =>
    intro x hx
    by_cases hgone : ((o.program setup).run .none s).2.problem? x.pid = none
    case neg => exact Or.inl hgone
    right
    refine ⟨hgone, ?_⟩
    rcases o.exists_pid_eq_or_stored hs.served.reachable setup hx with ⟨y, hy, hpid⟩ | hstored
    case inr => exact absurd hgone hstored
    rw [← hpid] at hgone ⊢
    rcases ih y hy with hstored | hlost
    · refine Or.inr ⟨?_, hstored⟩
      by_contra ho
      exact o.problem?_program_ne_none ho setup hstored hgone
    · exact Or.inl hlost

end ServedLosing

/-- The team has a correct submission for the problem, of the category if one is given. -/
def HasSolvedIn (s : Store) (tid : String) (category : Option String) (pid : String) : Prop :=
  ∃ x ∈ s.submissions, x.tid = tid ∧ x.pid = pid ∧ x.correct = true ∧
    Submission.Filter.admits category x.category = true

end Store

/-! ## Looking up what is solved -/

namespace Progress

/-- Problems are looked up one after another, up to the first that is missing. -/
theorem run_resolve (s : Store) (pids : List String) :
    (∃ ps : List Problem, pids.map s.problem? = ps.map some ∧
        (resolve pids).run .none s = (.ok ps, s)) ∨
      ∃ before pid after, pids = before ++ pid :: after ∧ (∀ q ∈ before, s.problem? q ≠ none) ∧
        s.problem? pid = none ∧
        (resolve pids).run .none s = (.error (.solvedProblemMissing pid), s) := by
  induction pids with
  | nil => exact Or.inl ⟨[], rfl, rfl⟩
  | cons pid r ih =>
    unfold resolve
    rw [bind_eq, run_bind_of_ok (run_call (.findProblem pid) s)]
    cases hp : s.problem? pid with
    | none => exact Or.inr ⟨[], pid, r, rfl, fun q hq => (List.not_mem_nil hq).elim, hp, rfl⟩
    | some p =>
      rcases ih with ⟨ps, hps, hrun⟩ | ⟨before, q, after, rfl, hbefore, hq, hrun⟩
      · refine Or.inl ⟨p :: ps, ?_, run_bind_of_ok hrun _⟩
        rw [List.map_cons, List.map_cons, hp, hps]
      · refine Or.inr ⟨pid :: before, q, after, rfl, fun q' hq' => ?_, hq,
          run_bind_of_error hrun _⟩
        rcases List.mem_cons.1 hq' with rfl | hq'
        · rw [hp]
          exact Option.some_ne_none p
        · exact hbefore q' hq'

/-- What becomes of asking for the problems that a team has solved. -/
inductive Resolution (lost : String → Prop) (s : Store) (tid : String) (category : Option String) :
    Except Failure (List Problem) × Store → Prop where
  /-- None of them is lost.  They are as they are stored, in ascending order of their
  identifiers. -/
  | found {ps : List Problem} (hkept : ∀ pid, s.HasSolvedIn tid category pid → ¬lost pid)
      (hstored : ∀ p ∈ ps, s.problem? p.pid = some p)
      (hsolved : ∀ pid, pid ∈ ps.map (·.pid) ↔ s.HasSolvedIn tid category pid)
      (hascending : (ps.map (·.pid)).Pairwise (· < ·)) :
      Resolution lost s tid category (.ok ps, s)
  /-- The first of those that are lost is missing. -/
  | missing {pid : String} (hsolved : s.HasSolvedIn tid category pid) (hlost : lost pid)
      (hfirst : ∀ pid', s.HasSolvedIn tid category pid' → lost pid' → pid ≤ pid') :
      Resolution lost s tid category (.error (.solvedProblemMissing pid), s)

end Progress

/-- Problems that are found lie under the identifiers that they were looked up by. -/
theorem Store.WellKeyed.map_pid {s : Store} (hs : s.WellKeyed) {pids : List String}
    {ps : List Problem} (h : pids.map s.problem? = ps.map some) :
    ps.map (·.pid) = pids ∧ ∀ p ∈ ps, s.problem? p.pid = some p := by
  induction pids generalizing ps with
  | nil =>
    obtain rfl := List.map_eq_nil_iff.1 h.symm
    exact ⟨rfl, fun p hp => by cases hp⟩
  | cons pid r ih =>
    cases ps with
    | nil => cases h
    | cons p ps =>
      obtain ⟨hp, hr⟩ := List.cons.inj h
      obtain ⟨hpids, hstored⟩ := ih hr
      have hpid := hs pid p hp
      refine ⟨by rw [List.map_cons, hpid, hpids], fun q hq => ?_⟩
      rcases List.mem_cons.1 hq with rfl | hq
      · rw [hpid]
        exact hp
      · exact hstored q hq

/-- **What a team has solved is found unless some of it is lost**: after operations carried out one
after another, a team asks for the problems that it has solved, or for those of one category.  If
none of them has been removed without coming in again, it is given all of them, as they are stored
and in ascending order of their identifiers; and otherwise the first of those that have fails the
look-up.  The store stays as it is. -/
theorem resolution_of_servedLosing :
    (∀ s : Store, s.Served → ∃ lost, s.ServedLosing lost) ∧
      ∀ (lost : String → Prop) (s : Store), s.ServedLosing lost →
        ∀ (tid : String) (category : Option String),
          Progress.Resolution lost s tid category
            ((Progress.solvedProblems tid category).run .none s) := by
  refine ⟨fun s hs => hs.exists_lost, fun lost s hs tid category => ?_⟩
  obtain ⟨solved, hrun, hsolved⟩ := Progress.run_solvedPids_in s tid category
  have hmem (pid : String) : pid ∈ solved.toList ↔ s.HasSolvedIn tid category pid :=
    (solved.mem_toList_iff pid).trans (hsolved pid)
  have hascending := solved.toList_ascending
  unfold Progress.solvedProblems
  rw [bind_eq, run_bind_of_ok hrun]
  rcases Progress.run_resolve s solved.toList with
    ⟨ps, hps, hrun⟩ | ⟨before, pid, after, hpids, hbefore, hpid, hrun⟩
  · rw [hrun]
    obtain ⟨hpids, hstored⟩ := hs.served.reachable.wellKeyed.map_pid hps
    refine .found (fun pid hsolved hlost => ?_) hstored (fun pid => ?_) ?_
    · rw [← hmem, ← hpids] at hsolved
      obtain ⟨p, hp, rfl⟩ := List.mem_map.1 hsolved
      have hnone := hs.problem?_of_lost hlost
      rw [hstored p hp] at hnone
      cases hnone
    · rw [hpids, hmem]
    · rw [hpids]
      exact hascending
  · rw [hrun]
    have hfound : s.HasSolvedIn tid category pid := by
      rw [← hmem, hpids]
      exact List.mem_append_cons_self
    refine .missing hfound ?_ fun pid' hsolved' hlost' => ?_
    · obtain ⟨x, hx, -, rfl, -⟩ := hfound
      exact (hs.stored_or_lost x hx).resolve_left fun h => h hpid
    · rw [← hmem, hpids] at hsolved'
      rw [hpids] at hascending
      rcases List.mem_append.1 hsolved' with hbefore' | hafter
      · exact absurd (hs.problem?_of_lost hlost') (hbefore pid' hbefore')
      · rcases List.mem_cons.1 hafter with rfl | hafter
        · exact String.le_refl _
        · have hlt := (List.pairwise_cons.1 (List.pairwise_append.1 hascending).2.1).1 pid' hafter
          exact Std.le_of_lt hlt

namespace Sample

/-- The problem is solved and then removed. -/
def removedStore : Store :=
  let solved := ((Operation.submit 7 attempt).program setup).run .none store
  (((Operation.remove (Problem.pidOf "Warmup")).program setup).run .none solved.2).2

/-- It comes in again. -/
def restoredStore : Store := (((Operation.insert document).program setup).run .none removedStore).2

theorem served_removedStore : removedStore.Served :=
  (served_store.operation setup (.submit 7 attempt)).operation setup (.remove _)

/-- The problem is lost as long as it does not come in again. -/
theorem exists_lost_removedStore : ∃ lost lost', removedStore.ServedLosing lost ∧
    restoredStore.ServedLosing lost' ∧ lost (Problem.pidOf "Warmup") ∧
    ¬lost' (Problem.pidOf "Warmup") := by
  obtain ⟨lost, hs⟩ := (served_store.operation setup (.submit 7 attempt)).exists_lost
  have hremoved := hs.operation setup (.remove (Problem.pidOf "Warmup"))
  refine ⟨_, _, hremoved, hremoved.operation setup (.insert document),
    ⟨by decide +kernel, Or.inr ⟨rfl, by decide +kernel⟩⟩, fun hlost => ?_⟩
  have hstored : restoredStore.problem? (Problem.pidOf "Warmup") ≠ none := by decide +kernel
  exact hstored hlost.1

end Sample

/-- A team has solved a problem, the problem is removed, and the team is given no problems at all but
a failure. -/
theorem unresolved_of_removed :
    let s := Sample.removedStore
    s.Served ∧ s.HasSolvedIn "red" none (Problem.pidOf "Warmup") ∧
      s.problem? (Problem.pidOf "Warmup") = none ∧
      ((Progress.solvedProblems "red" none).run .none s).1.isOk = false := by
  intro s
  have hsolved : ∃ x ∈ s.submissions, x.tid = "red" ∧ x.pid = Problem.pidOf "Warmup" ∧
      x.correct = true ∧ Submission.Filter.admits none x.category = true := by decide +kernel
  exact ⟨Sample.served_removedStore, hsolved, by decide +kernel, by decide +kernel⟩

/-- The problem is lost when it is removed, and the team is given it once it has come in again. -/
theorem resolution_of_restored :
    (Sample.removedStore.Served ∧ ∃ lost, Sample.removedStore.ServedLosing lost) ∧
      (∃ lost, Sample.removedStore.ServedLosing lost ∧ lost (Problem.pidOf "Warmup") ∧
        Progress.Resolution lost Sample.removedStore "red" none
          ((Progress.solvedProblems "red" none).run .none Sample.removedStore)) ∧
      (∃ lost, Sample.restoredStore.ServedLosing lost ∧ ¬lost (Problem.pidOf "Warmup") ∧
        Progress.Resolution lost Sample.restoredStore "red" none
          ((Progress.solvedProblems "red" none).run .none Sample.restoredStore)) ∧
      ((Progress.solvedProblems "red" none).run .none Sample.restoredStore).1.toOption.map
        (·.map (·.name)) = some ["Warmup"] := by
  obtain ⟨lost, lost', hs, hs', hlost, hkept⟩ := Sample.exists_lost_removedStore
  exact ⟨⟨Sample.served_removedStore, resolution_of_servedLosing.1 _ Sample.served_removedStore⟩,
    ⟨lost, hs, hlost, resolution_of_servedLosing.2 lost _ hs "red" none⟩,
    ⟨lost', hs', hkept, resolution_of_servedLosing.2 lost' _ hs' "red" none⟩, by decide +kernel⟩

end CaptureTheFlag
