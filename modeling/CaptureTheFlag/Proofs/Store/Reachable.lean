import CaptureTheFlag.Proofs.Program.Calls
import Mathlib.Tactic.ByContra

/-!
# What a call does to the store, and the stores that calls lead to

A call looks something up, changes the problems, or changes the submissions; no call does two of
these, and none changes the users.

* `Store.insertProblem_cases`, `Store.replaceProblem_cases`, `Store.insertSubmission_cases`: what a
  change that may be refused can come to, with the reason for either end.
* `Call.IsLookup`, `Call.IsRead`, `Call.WritesProblems`, `Call.WritesSubmissions`: the kinds of
  calls.
* `Call.problems_perform`, `Call.submissions_perform`, `Call.users_perform`: what a call leaves
  alone.
* `Store.Reachable`: the stores that calls lead to from the empty one, with users added in between.
* `Store.Reachable.wellKeyed`, `Store.Reachable.uid_of_user?`: in such a store every problem and
  every user lies under its own identifier.

The calls that lead to a reachable store need not come from the service.  So what holds of every
reachable store holds whatever was done before, by whom and in which order.
-/

namespace CaptureTheFlag

/-! ## What a change can come to -/

theorem Submission.sameAttempt_iff (x y : Submission) :
    x.sameAttempt y = true ↔ x.tid = y.tid ∧ x.pid = y.pid ∧ x.key = y.key := by
  unfold sameAttempt
  rw [Bool.and_eq_true, Bool.and_eq_true, decide_eq_true_eq, decide_eq_true_eq, decide_eq_true_eq,
    and_assoc]

namespace Store

/-- A problem is refused and the store stays, or it is new in both respects and is stored. -/
theorem insertProblem_cases (p : Problem) (s : Store) :
    insertProblem p s = (.error (.problemStored p.name), s) ∨
      s.problems.contains p.pid = false ∧ (∀ q ∈ s.problems.values, q.name ≠ p.name) ∧
        insertProblem p s = (.ok (), { s with problems := s.problems.insert p.pid p }) := by
  unfold insertProblem
  split
  · exact Or.inl rfl
  · next h =>
    rw [Bool.or_eq_true, not_or, List.any_eq_true] at h
    refine Or.inr ⟨by simpa using h.1, fun q hq hname => h.2 ⟨q, hq, by simpa using hname⟩, rfl⟩

/-- A problem is refused and the store stays, or it is stored already and is replaced. -/
theorem replaceProblem_cases (p : Problem) (s : Store) :
    replaceProblem p s = (.error (.problemStored p.name), s) ∨
      replaceProblem p s = (.error (.problemNotStored p.pid), s) ∨
      s.problems.contains p.pid = true ∧
        (∀ q ∈ s.problems.values, q.name = p.name → q.pid = p.pid) ∧
        replaceProblem p s = (.ok (), { s with problems := s.problems.insert p.pid p }) := by
  unfold replaceProblem
  split
  · exact Or.inl rfl
  · next h =>
    split
    · next hstored =>
      refine Or.inr (Or.inr ⟨hstored, fun q hq hname => ?_, rfl⟩)
      by_contra hpid
      exact h (List.any_eq_true.2 ⟨q, hq, by simp [hname, hpid]⟩)
    · exact Or.inr (Or.inl rfl)

/-- A submission is refused and the store stays, or it is a new attempt and comes last. -/
theorem insertSubmission_cases (x : Submission) (s : Store) :
    (∃ y ∈ s.submissions, y.sameAttempt x = true) ∧
        insertSubmission x s = (.error .submissionStored, s) ∨
      (∀ y ∈ s.submissions, y.sameAttempt x = false) ∧
        insertSubmission x s = (.ok (), { s with submissions := s.submissions ++ [x] }) := by
  unfold insertSubmission
  split
  · next h => exact Or.inl ⟨List.any_eq_true.1 h, rfl⟩
  · next h =>
    refine Or.inr ⟨fun y hy => ?_, rfl⟩
    rw [← Bool.not_eq_true]
    exact fun hxy => h (List.any_eq_true.2 ⟨y, hy, hxy⟩)

end Store

/-! ## What a look-up finds -/

namespace Store

theorem mem_problemsWhere (s : Store) (f : Problem.Filter) (p : Problem) :
    p ∈ s.problemsWhere f ↔ p ∈ s.problems.values ∧ f.selects p = true := by
  unfold problemsWhere
  rw [List.mem_mergeSort, List.mem_filter]

theorem mem_submissionsWhere (s : Store) (f : Submission.Filter) (x : Submission) :
    x ∈ s.submissionsWhere f ↔ x ∈ s.submissions ∧ f.selects x = true := by
  unfold submissionsWhere
  rw [List.mem_mergeSort, List.mem_filter]

end Store

namespace Call

/-! ## Kinds of calls -/

/-- The call looks up problems or users. -/
def IsLookup : Call → Prop
  | .findProblem _ | .findProblemNamed _ | .listProblems _ | .findUser _ => True
  | _ => False

/-- The call looks something up. -/
def IsRead : Call → Prop
  | .findProblem _ | .findProblemNamed _ | .listProblems _ | .findUser _ | .findSubmissions _ =>
    True
  | _ => False

/-- The call may change the problems. -/
def WritesProblems : Call → Prop
  | .insertProblem _ | .replaceProblem _ | .deleteProblem _ => True
  | _ => False

/-- The call may change the submissions. -/
def WritesSubmissions : Call → Prop
  | .insertSubmission _ | .setCorrect _ _ | .deleteSubmissions _ => True
  | _ => False

theorem IsLookup.isRead {c : Call} (h : c.IsLookup) : c.IsRead := by
  cases c <;> first | exact trivial | exact h.elim

/-! ## What a call leaves alone -/

theorem problems_perform {c : Call} (h : ¬c.WritesProblems) (s : Store) :
    (c.perform s).2.problems = s.problems := by
  cases c with
  | insertProblem p => exact absurd trivial h
  | replaceProblem p => exact absurd trivial h
  | deleteProblem pid => exact absurd trivial h
  | insertSubmission x =>
    show (Store.insertSubmission x s).2.problems = s.problems
    rcases Store.insertSubmission_cases x s with ⟨-, hx⟩ | ⟨-, hx⟩ <;> rw [hx]
  | _ => rfl

theorem submissions_perform {c : Call} (h : ¬c.WritesSubmissions) (s : Store) :
    (c.perform s).2.submissions = s.submissions := by
  cases c with
  | insertSubmission x => exact absurd trivial h
  | setCorrect f correct => exact absurd trivial h
  | deleteSubmissions f => exact absurd trivial h
  | insertProblem p =>
    show (Store.insertProblem p s).2.submissions = s.submissions
    rcases Store.insertProblem_cases p s with hp | ⟨-, -, hp⟩ <;> rw [hp]
  | replaceProblem p =>
    show (Store.replaceProblem p s).2.submissions = s.submissions
    rcases Store.replaceProblem_cases p s with hp | hp | ⟨-, -, hp⟩ <;> rw [hp]
  | _ => rfl

/-- No call changes the users. -/
theorem users_perform (c : Call) (s : Store) : (c.perform s).2.users = s.users := by
  cases c with
  | insertProblem p =>
    show (Store.insertProblem p s).2.users = s.users
    rcases Store.insertProblem_cases p s with hp | ⟨-, -, hp⟩ <;> rw [hp]
  | replaceProblem p =>
    show (Store.replaceProblem p s).2.users = s.users
    rcases Store.replaceProblem_cases p s with hp | hp | ⟨-, -, hp⟩ <;> rw [hp]
  | insertSubmission x =>
    show (Store.insertSubmission x s).2.users = s.users
    rcases Store.insertSubmission_cases x s with ⟨-, hx⟩ | ⟨-, hx⟩ <;> rw [hx]
  | _ => rfl

/-- A call that looks something up leaves the store as it is. -/
theorem IsRead.snd_perform {c : Call} (h : c.IsRead) (s : Store) : (c.perform s).2 = s := by
  cases c <;> first | rfl | exact h.elim

end Call

/-- A program that only looks things up leaves the store as it is. -/
theorem Program.Calls.snd_runUnder {α : Type} {p : Program α} (hp : p.Calls Call.IsRead)
    (is : Nat → Interference) (s : Store) : (p.runUnder is s).2 = s :=
  runUnder_preserves (I := (· = s)) (fun c t hc ht => by rw [hc.snd_perform, ht]) is hp rfl

namespace Store

/-! ## Reachable stores -/

/-- The stores that calls lead to from the empty one.  Users are added from outside. -/
inductive Reachable : Store → Prop where
  | empty : Reachable .empty
  | addUser {s : Store} (u : User) (hs : Reachable s) : Reachable (s.addUser u)
  | perform {s : Store} (c : Call) (hs : Reachable s) : Reachable (c.perform s).2

/-- A program leads from a reachable store to a reachable one. -/
theorem Reachable.run {α : Type} {s : Store} (hs : s.Reachable) (i : Program.Interference)
    {p : Program α} {P : Call → Prop} (hp : p.Calls P) : (p.run i s).2.Reachable :=
  Program.run_preserves (fun c _ _ h => h.perform c) i hp hs

/-- Every problem lies under its own identifier. -/
def WellKeyed (s : Store) : Prop :=
  ∀ pid p, s.problem? pid = some p → p.pid = pid

theorem WellKeyed.of_problems_eq {s s' : Store} (hs : s.WellKeyed) (h : s'.problems = s.problems) :
    s'.WellKeyed := by
  intro pid p hp
  unfold problem? at hp
  rw [h] at hp
  exact hs pid p hp

/-- A problem that is put under its own identifier lies well. -/
theorem WellKeyed.insert {s : Store} (hs : s.WellKeyed) (p : Problem) :
    { s with problems := s.problems.insert p.pid p }.WellKeyed := by
  intro pid q hq
  unfold problem? at hq
  rw [KeyMap.get?_insert] at hq
  by_cases h : pid = p.pid
  · rw [if_pos h] at hq
    rw [← Option.some.inj hq, h]
  · rw [if_neg h] at hq
    exact hs pid q hq

theorem WellKeyed.deleteProblem {s : Store} (hs : s.WellKeyed) (pid : String) :
    (s.deleteProblem pid).2.WellKeyed := by
  intro pid' q hq
  unfold problem? Store.deleteProblem at hq
  rw [KeyMap.get?_erase] at hq
  by_cases h : pid' = pid
  · rw [if_pos h] at hq
    cases hq
  · rw [if_neg h] at hq
    exact hs pid' q hq

theorem WellKeyed.perform {s : Store} (hs : s.WellKeyed) (c : Call) :
    (c.perform s).2.WellKeyed := by
  by_cases hc : c.WritesProblems
  · cases c with
    | insertProblem p =>
      show (Store.insertProblem p s).2.WellKeyed
      rcases insertProblem_cases p s with hp | ⟨-, -, hp⟩ <;> rw [hp]
      · exact hs
      · exact hs.insert p
    | replaceProblem p =>
      show (Store.replaceProblem p s).2.WellKeyed
      rcases replaceProblem_cases p s with hp | hp | ⟨-, -, hp⟩ <;> rw [hp]
      · exact hs
      · exact hs
      · exact hs.insert p
    | deleteProblem pid => exact hs.deleteProblem pid
    | _ => exact hc.elim
  · exact hs.of_problems_eq (Call.problems_perform hc s)

/-- **In a reachable store every problem lies under its own identifier.** -/
theorem Reachable.wellKeyed {s : Store} (hs : s.Reachable) : s.WellKeyed := by
  induction hs with
  | empty =>
    intro pid p hp
    cases hp
  | addUser u _ ih => exact ih.of_problems_eq rfl
  | perform c _ ih => exact ih.perform c

/-- In a reachable store a stored problem is what its identifier finds. -/
theorem Reachable.problem?_of_mem {s : Store} (hs : s.Reachable) {p : Problem}
    (hp : p ∈ s.problems.values) : s.problem? p.pid = some p := by
  obtain ⟨pid, hpid⟩ := (s.problems.mem_values_iff p).1 hp
  rw [hs.wellKeyed pid p hpid]
  exact hpid

/-- In a reachable store every user lies under the user's own identifier. -/
theorem Reachable.uid_of_user? {s : Store} (hs : s.Reachable) {uid : String} {u : User}
    (hu : s.user? uid = some u) : u.uid = uid := by
  unfold user? at hu
  induction hs with
  | empty => cases hu
  | addUser v _ ih =>
    unfold Store.addUser at hu
    rw [KeyMap.get?_insert] at hu
    by_cases h : uid = v.uid
    · rw [if_pos h] at hu
      rw [← Option.some.inj hu, h]
    · rw [if_neg h] at hu
      exact ih hu
  | @perform s c _ ih =>
    rw [Call.users_perform c s] at hu
    exact ih hu

end Store

end CaptureTheFlag
