import CaptureTheFlag.Proofs.Service.World

/-!
# Teams do not see each other

What is done for a team depends on the problems, the users and the team's own submissions, and it
leaves the submissions of all other teams as they were.

* `Store.ofTeam`, `Store.ofOthers`: a team's submissions, and those of all other teams.
* `Store.Alike`: two stores that a team cannot tell apart.
* `Call.IsWithin`: the call selects, or inserts, submissions of one team only.
* `Call.perform_alike`, `Call.ofOthers_perform`: what such a call is answered, and what it leaves
  alone.
* `Operation.Makes.isWithin`: an operation for a team makes no other calls.
* `isolation_of_team`: together, for two runs on stores that the team cannot tell apart.

## Why one condition on calls is enough

A team's submissions are in general not next to each other in the store.  What carries the argument
is that a test which only a team's submissions pass finds the same when all others are left out
first (`Submission.filter_ofTeam`).  Selecting, counting, and comparing with what is there are all
done by such a test: a filter that names the team, or the comparison with an attempt of the team.
Sorting comes after selecting, so it sees nothing of the others either.

The statement is about two runs and not about one.  So the induction is on the program: as long as
the answers are the same, both runs make the same calls.
-/

namespace CaptureTheFlag

/-! ## The submissions of a team -/

/-- The submissions of a team, in the order in which they came in. -/
def Store.ofTeam (s : Store) (tid : String) : List Submission :=
  s.submissions.filter fun x => x.tid = tid

/-- The submissions of all other teams, in the order in which they came in. -/
def Store.ofOthers (s : Store) (tid : String) : List Submission :=
  s.submissions.filter fun x => x.tid ≠ tid

/-- No submission passes the test but those of the team. -/
def Submission.TestsTeam (tid : String) (q : Submission → Bool) : Prop :=
  ∀ x, q x = true → x.tid = tid

namespace Submission

variable {tid : String} {q : Submission → Bool}

/-- A filter that names the team selects the team's submissions only. -/
theorem Filter.testsTeam {f : Filter} (hf : f.tid = some tid) : TestsTeam tid f.selects := by
  intro x hx
  obtain ⟨-, -, htid, -⟩ := (f.selects_iff x).1 hx
  rw [hf, Filter.admits_some, decide_eq_true_eq] at htid
  exact htid.symm

/-- The comparison with an attempt of the team finds the team's submissions only. -/
theorem testsTeam_sameAttempt {x : Submission} (hx : x.tid = tid) :
    TestsTeam tid fun y => y.sameAttempt x := by
  intro y hy
  obtain ⟨htid, -⟩ := (sameAttempt_iff y x).1 hy
  rw [htid, hx]

/-- A test that only the team's submissions pass fails for the others. -/
theorem TestsTeam.eq_false (hq : TestsTeam tid q) {x : Submission} (hx : x.tid ≠ tid) :
    q x = false := by
  rw [← Bool.not_eq_true]
  exact fun h => hx (hq x h)

/-- The others may be left out before such a test. -/
theorem filter_ofTeam (hq : TestsTeam tid q) (l : List Submission) :
    (l.filter fun x => x.tid = tid).filter q = l.filter q := by
  rw [List.filter_filter]
  refine List.filter_congr fun x _ => ?_
  by_cases hx : x.tid = tid
  · rw [decide_eq_true hx, Bool.and_true]
  · rw [hq.eq_false hx, Bool.false_and]

theorem countP_ofTeam (hq : TestsTeam tid q) (l : List Submission) :
    (l.filter fun x => x.tid = tid).countP q = l.countP q := by
  rw [List.countP_eq_length_filter, List.countP_eq_length_filter, filter_ofTeam hq]

theorem any_ofTeam (hq : TestsTeam tid q) (l : List Submission) :
    (l.filter fun x => x.tid = tid).any q = l.any q := by
  rw [Bool.eq_iff_iff, List.any_eq_true, List.any_eq_true]
  constructor
  · rintro ⟨x, hx, hqx⟩
    exact ⟨x, (List.mem_filter.1 hx).1, hqx⟩
  · rintro ⟨x, hx, hqx⟩
    exact ⟨x, List.mem_filter.2 ⟨hx, decide_eq_true (hq x hqx)⟩, hqx⟩

end Submission

/-! ## Stores that a team cannot tell apart -/

/-- The stores have the same problems, the same users, and the same submissions of the team in the
same order. -/
structure Store.Alike (tid : String) (s₁ s₂ : Store) : Prop where
  problems : s₁.problems = s₂.problems
  users : s₁.users = s₂.users
  ofTeam : s₁.ofTeam tid = s₂.ofTeam tid

namespace Store

variable {tid : String} {s₁ s₂ : Store}

open Submission (TestsTeam)

theorem Alike.submissionsWhere (h : Alike tid s₁ s₂) {f : Submission.Filter}
    (hf : f.tid = some tid) : s₁.submissionsWhere f = s₂.submissionsWhere f := by
  have hq := Submission.Filter.testsTeam hf
  have hteam := h.ofTeam
  unfold Store.ofTeam at hteam
  unfold Store.submissionsWhere
  rw [← Submission.filter_ofTeam hq s₁.submissions, hteam, Submission.filter_ofTeam hq]

theorem Alike.countP (h : Alike tid s₁ s₂) {q : Submission → Bool} (hq : TestsTeam tid q) :
    s₁.submissions.countP q = s₂.submissions.countP q := by
  have hteam := h.ofTeam
  unfold Store.ofTeam at hteam
  rw [← Submission.countP_ofTeam hq s₁.submissions, hteam, Submission.countP_ofTeam hq]

theorem Alike.any (h : Alike tid s₁ s₂) {q : Submission → Bool} (hq : TestsTeam tid q) :
    s₁.submissions.any q = s₂.submissions.any q := by
  have hteam := h.ofTeam
  unfold Store.ofTeam at hteam
  rw [← Submission.any_ofTeam hq s₁.submissions, hteam, Submission.any_ofTeam hq]

/-! ## Changes within a team -/

/-- Verdicts are set without a submission leaving its team. -/
theorem filter_setCorrect (s : Store) (f : Submission.Filter) (correct : Bool)
    (q : String → Bool) :
    ((s.setCorrect f correct).2.submissions.filter fun x => q x.tid) =
      (s.submissions.filter fun x => q x.tid).map
        fun x => if f.selects x then { x with correct } else x := by
  unfold setCorrect
  rw [List.filter_map]
  refine congrArg _ (List.filter_congr fun x _ => ?_)
  show q (if f.selects x then { x with correct } else x).tid = q x.tid
  split <;> rfl

theorem ofTeam_setCorrect (s : Store) (f : Submission.Filter) (correct : Bool) :
    (s.setCorrect f correct).2.ofTeam tid =
      (s.ofTeam tid).map fun x => if f.selects x then { x with correct } else x :=
  s.filter_setCorrect f correct fun t => t = tid

theorem ofOthers_setCorrect (s : Store) {f : Submission.Filter} (hf : f.tid = some tid)
    (correct : Bool) : (s.setCorrect f correct).2.ofOthers tid = s.ofOthers tid := by
  have hq := Submission.Filter.testsTeam hf
  calc (s.setCorrect f correct).2.ofOthers tid
      = (s.ofOthers tid).map fun x => if f.selects x then { x with correct } else x :=
        s.filter_setCorrect f correct fun t => t ≠ tid
    _ = (s.ofOthers tid).map id := by
        refine List.map_congr_left fun x hx => if_neg ?_
        rw [hq.eq_false (of_decide_eq_true (List.mem_filter.1 hx).2)]
        exact Bool.false_ne_true
    _ = s.ofOthers tid := List.map_id _

theorem ofTeam_deleteSubmissions (s : Store) (f : Submission.Filter) :
    (s.deleteSubmissions f).2.ofTeam tid = (s.ofTeam tid).filter fun x => !f.selects x := by
  unfold ofTeam deleteSubmissions
  rw [List.filter_filter, List.filter_filter]
  exact List.filter_congr fun x _ => Bool.and_comm _ _

theorem ofOthers_deleteSubmissions (s : Store) {f : Submission.Filter} (hf : f.tid = some tid) :
    (s.deleteSubmissions f).2.ofOthers tid = s.ofOthers tid := by
  have hq := Submission.Filter.testsTeam hf
  unfold ofOthers deleteSubmissions
  rw [List.filter_filter]
  refine List.filter_congr fun x _ => ?_
  by_cases hx : x.tid = tid
  · rw [decide_eq_false (not_not_intro hx), Bool.false_and]
  · rw [hq.eq_false hx, Bool.not_false, Bool.and_true]

/-- Whether an attempt of the team is stored does not depend on the others, and if it is, it comes
last among the team's submissions. -/
theorem Alike.insertSubmission (h : Alike tid s₁ s₂) {x : Submission} (hx : x.tid = tid) :
    (s₁.insertSubmission x).1 = (s₂.insertSubmission x).1 ∧
      Alike tid (s₁.insertSubmission x).2 (s₂.insertSubmission x).2 := by
  have hany := h.any (Submission.testsTeam_sameAttempt hx)
  unfold Store.insertSubmission
  rw [hany]
  split
  · exact ⟨rfl, h⟩
  · refine ⟨rfl, h.problems, h.users, ?_⟩
    have hteam := h.ofTeam
    unfold Store.ofTeam at hteam ⊢
    rw [List.filter_append, List.filter_append, hteam]

theorem ofOthers_insertSubmission (s : Store) {x : Submission} (hx : x.tid = tid) :
    (s.insertSubmission x).2.ofOthers tid = s.ofOthers tid := by
  rcases insertSubmission_cases x s with ⟨-, hrefused⟩ | ⟨-, hstored⟩
  · rw [hrefused]
  · rw [hstored]
    have hnone : ([x].filter fun y => y.tid ≠ tid) = [] := by
      refine List.filter_eq_nil_iff.2 fun y hy => ?_
      rw [List.mem_singleton.1 hy, decide_eq_false (not_not_intro hx)]
      exact Bool.false_ne_true
    unfold ofOthers
    rw [List.filter_append, hnone, List.append_nil]

end Store

/-! ## Calls within a team -/

/-- The call looks up problems or users, or it is about submissions of the team and no others. -/
def Call.IsWithin (tid : String) : Call → Prop
  | .findProblem _ | .findProblemNamed _ | .listProblems _ | .findUser _ => True
  | .findSubmissions f | .setCorrect f _ | .deleteSubmissions f => f.tid = some tid
  | .insertSubmission x => x.tid = tid
  | _ => False

section Calls

open Store (Alike)

variable {tid : String} {c : Call}

/-- A call within a team is answered alike by stores that the team cannot tell apart, and the team
cannot tell them apart afterwards. -/
theorem Call.perform_alike (hc : c.IsWithin tid) {s₁ s₂ : Store} (h : Alike tid s₁ s₂) :
    (c.perform s₁).1 = (c.perform s₂).1 ∧ Alike tid (c.perform s₁).2 (c.perform s₂).2 := by
  cases c with
  | insertProblem p => exact hc.elim
  | replaceProblem p => exact hc.elim
  | deleteProblem pid => exact hc.elim
  | findProblem pid =>
    refine ⟨congrArg Except.ok ?_, h⟩
    unfold Store.problem?
    rw [h.problems]
  | findProblemNamed name =>
    refine ⟨congrArg Except.ok ?_, h⟩
    unfold Store.problemNamed?
    rw [h.problems]
  | listProblems f =>
    refine ⟨congrArg Except.ok ?_, h⟩
    unfold Store.problemsWhere
    rw [h.problems]
  | findUser uid =>
    refine ⟨congrArg Except.ok ?_, h⟩
    unfold Store.user?
    rw [h.users]
  | findSubmissions f => exact ⟨congrArg Except.ok (h.submissionsWhere hc), h⟩
  | insertSubmission x => exact h.insertSubmission hc
  | setCorrect f correct =>
    have hcount := h.countP (Submission.Filter.testsTeam hc)
    refine ⟨congrArg Except.ok hcount, h.problems, h.users, ?_⟩
    show (s₁.setCorrect f correct).2.ofTeam tid = (s₂.setCorrect f correct).2.ofTeam tid
    rw [Store.ofTeam_setCorrect, Store.ofTeam_setCorrect, h.ofTeam]
  | deleteSubmissions f =>
    have hcount := h.countP (Submission.Filter.testsTeam hc)
    refine ⟨congrArg Except.ok hcount, h.problems, h.users, ?_⟩
    show (s₁.deleteSubmissions f).2.ofTeam tid = (s₂.deleteSubmissions f).2.ofTeam tid
    rw [Store.ofTeam_deleteSubmissions, Store.ofTeam_deleteSubmissions, h.ofTeam]

/-- A call within a team leaves the submissions of all other teams as they were. -/
theorem Call.ofOthers_perform (hc : c.IsWithin tid) (s : Store) :
    (c.perform s).2.ofOthers tid = s.ofOthers tid := by
  cases c with
  | insertProblem p => exact hc.elim
  | replaceProblem p => exact hc.elim
  | deleteProblem pid => exact hc.elim
  | insertSubmission x => exact s.ofOthers_insertSubmission hc
  | setCorrect f correct => exact s.ofOthers_setCorrect hc correct
  | deleteSubmissions f => exact s.ofOthers_deleteSubmissions hc
  | _ => rfl

/-- Two runs of a program whose calls stay within a team make the same calls and have the same
result. -/
theorem Program.runUnder_alike {α : Type} {p : Program α} (hp : p.Calls (Call.IsWithin tid))
    (is : Nat → Interference) {s₁ s₂ : Store} (h : Alike tid s₁ s₂) :
    (p.runUnder is s₁).1 = (p.runUnder is s₂).1 ∧
      Alike tid (p.runUnder is s₁).2 (p.runUnder is s₂).2 := by
  induction hp generalizing is s₁ s₂ with
  | done r => exact ⟨rfl, h⟩
  | @ask c next hc _ ih =>
    unfold runUnder
    split
    · next r _ => exact ih r _ h
    · obtain ⟨hanswer, hstores⟩ := Call.perform_alike hc h
      rw [hanswer]
      exact ih _ _ hstores

end Calls

/-! ## Operations for a team -/

/-- **An operation for a team makes no calls but those within the team.** -/
theorem Operation.Makes.isWithin {setup : Setup} {o : Operation} {c : Call} {tid : String}
    (hc : o.Makes setup c) (ho : o.team? = some tid) : c.IsWithin tid := by
  cases c with
  | insertProblem p =>
    obtain ⟨⟨doc, rfl⟩ | ⟨text, rfl⟩, -⟩ := hc <;> cases ho
  | replaceProblem p =>
    obtain ⟨⟨pid, changes, rfl⟩ | ⟨pid, disabled, rfl⟩, -⟩ := hc <;> cases ho
  | deleteProblem pid =>
    change o = .remove pid at hc
    rw [hc] at ho
    cases ho
  | findSubmissions f => exact hc tid ho
  | insertSubmission x =>
    obtain ⟨now, a, p, v, rfl, -, rfl⟩ := hc
    have hteam : a.tid = tid := Option.some.inj ho
    show a.normalized.tid = tid
    rw [Attempt.normalized_tid, hteam]
  | setCorrect f correct =>
    rcases hc with ⟨query, rfl, rfl, -⟩ | ⟨pid, key, rfl, -⟩
    · -- a query is for a team where its filter names the team
      exact ho
    · cases ho
  | deleteSubmissions f =>
    rcases hc with ⟨uid, tid', rfl, -⟩ | ⟨tid', rfl, rfl⟩ | ⟨rfl, -⟩
    · cases ho
    · exact ho
    · cases ho
  | _ => exact trivial

/-- **What is done for a team does not depend on the submissions of other teams, and leaves them as
they were.**  On stores that the team cannot tell apart an operation for the team has the same
result, at the same time and with the same setup; the team cannot tell apart what it leaves either;
and in each of the two stores all other teams have the submissions that they had. -/
theorem isolation_of_team (setup : Setup) (o : Operation) (tid : String) (ho : o.team? = some tid)
    (is : Nat → Program.Interference) {s₁ s₂ : Store} (h : Store.Alike tid s₁ s₂) :
    ((o.program setup).runUnder is s₁).1 = ((o.program setup).runUnder is s₂).1 ∧
      Store.Alike tid ((o.program setup).runUnder is s₁).2 ((o.program setup).runUnder is s₂).2 ∧
      ((o.program setup).runUnder is s₁).2.ofOthers tid = s₁.ofOthers tid ∧
      ((o.program setup).runUnder is s₂).2.ofOthers tid = s₂.ofOthers tid := by
  have hcalls : (o.program setup).Calls (Call.IsWithin tid) :=
    (o.calls_program setup).mono fun c hc => hc.isWithin ho
  have hothers : ∀ s : Store, ((o.program setup).runUnder is s).2.ofOthers tid = s.ofOthers tid :=
    fun s => Program.runUnder_preserves (I := fun s' => s'.ofOthers tid = s.ofOthers tid)
      (fun c s' hc hs' => (Call.ofOthers_perform hc s').trans hs') is hcalls rfl
  obtain ⟨hresult, hstores⟩ := Program.runUnder_alike hcalls is h
  exact ⟨hresult, hstores, hothers s₁, hothers s₂⟩

/-- The red team sends in a key that nobody has sent in, and that the blue team has.  It is told the
same, it has the same submissions afterwards, and the blue team's is still there. -/
theorem isolation_of_team_beside_another :
    let o := Operation.submit 7 Sample.attempt
    let blue : Submission :=
      ⟨"eve", "blue", Problem.pidOf "Warmup", "flag", 3, none, "misc", true⟩
    let s₁ := Sample.store
    let s₂ : Store := { Sample.store with submissions := [blue] }
    let after := fun s => (o.program Sample.setup).runUnder (fun _ => .none) s
    (o.team? = some "red" ∧ s₁.Alike "red" s₂) ∧ s₁.submissions ≠ s₂.submissions ∧
      (after s₁).1 = (after s₂).1 ∧ (after s₁).2.ofTeam "red" = (after s₂).2.ofTeam "red" ∧
      (after s₂).2.ofOthers "red" = [blue] := by
  intro o blue s₁ s₂ after
  have halike : s₁.Alike "red" s₂ := ⟨rfl, rfl, by decide +kernel⟩
  obtain ⟨hresult, hstores, -, hothers⟩ :=
    isolation_of_team Sample.setup o "red" rfl (fun _ => .none) halike
  have hblue : s₂.ofOthers "red" = [blue] := by decide +kernel
  exact ⟨⟨rfl, halike⟩, by decide +kernel, hresult, hstores.ofTeam, hothers.trans hblue⟩

end CaptureTheFlag
