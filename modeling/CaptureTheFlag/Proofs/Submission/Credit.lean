import CaptureTheFlag.Proofs.Submission.Gates

/-!
# A problem is credited to a team once

A team is given the points of a problem for a correct submission.  The store does not see to it that
there is no more than one: it only refuses a key that the team has sent in before, and a problem may
have several keys that are right, at one time or at different times.

* `Store.CreditsOnce`: no team has two correct submissions for one problem.
* `Store.CreditsOnce.perform`: no call breaks this that neither inserts a submission nor makes any
  correct.
* `Store.CreditsOnce.submit`: an attempt does not break it.
* `Store.ServedBy`: the stores that operations of certain kinds lead to one after another.
* `credited_once_of_servedBy`: as long as nothing is judged again, a problem is credited to a team at
  most once.

## What the gate rests on

An attempt passes the gate in front of solved problems only if the team has no correct submission for
the problem among the very submissions that the attempt is appended to.  The gate asks for the team
and the problem's identifier and for nothing else.  So it does not matter under which category the
earlier submission was stored, which grader had judged it, or whether the problem was removed and
inserted again in the meantime.

Two things are left out.  Judging again makes submissions correct without passing the gate, so two
keys of one team may both become right.  And two attempts that are under way at once may both pass
the gate before either is stored.
-/

namespace CaptureTheFlag

open Program

/-- The two submissions are of one team for one problem, and both are correct. -/
def Submission.BothCredit (x y : Submission) : Prop :=
  x.tid = y.tid ∧ x.pid = y.pid ∧ x.correct = true ∧ y.correct = true

namespace Store

/-- No team has two correct submissions for one problem. -/
def CreditsOnce (s : Store) : Prop := s.submissions.Pairwise fun x y => ¬x.BothCredit y

namespace CreditsOnce

variable {s : Store}

/-- There is at most one submission that credits a problem to a team. -/
theorem countP_le_one (hs : s.CreditsOnce) (tid pid : String) :
    s.submissions.countP (fun x => x.tid = tid && x.pid = pid && x.correct) ≤ 1 := by
  rw [List.countP_eq_length_filter]
  have hpairwise := hs.filter fun x => x.tid = tid && x.pid = pid && x.correct
  have hcredit : ∀ x ∈ s.submissions.filter fun x => x.tid = tid && x.pid = pid && x.correct,
      x.tid = tid ∧ x.pid = pid ∧ x.correct = true := by
    intro x hx
    simpa only [Bool.and_eq_true, decide_eq_true_eq, and_assoc] using (List.mem_filter.1 hx).2
  generalize (s.submissions.filter fun x => x.tid = tid && x.pid = pid && x.correct) = l
    at hpairwise hcredit ⊢
  match l with
  | [] => exact Nat.zero_le 1
  | [x] => exact Nat.le_refl 1
  | x :: y :: r =>
    obtain ⟨htid, hpid, hx⟩ := hcredit x List.mem_cons_self
    obtain ⟨htid', hpid', hy⟩ := hcredit y (List.mem_cons_of_mem _ List.mem_cons_self)
    have hnot := (List.pairwise_cons.1 hpairwise).1 y List.mem_cons_self
    exact absurd ⟨htid.trans htid'.symm, hpid.trans hpid'.symm, hx, hy⟩ hnot

/-! ## Calls that credit nothing -/

/-- A submission that becomes incorrect credits nothing any more. -/
theorem setIncorrect (hs : s.CreditsOnce) (f : Submission.Filter) :
    (Store.setCorrect f false s).2.CreditsOnce := by
  refine List.pairwise_map.2 (hs.imp fun {x y} hxy => ?_)
  rintro ⟨htid, hpid, hx, hy⟩
  by_cases hfx : f.selects x = true
  · rw [if_pos hfx] at hx
    cases hx
  by_cases hfy : f.selects y = true
  · rw [if_pos hfy] at hy
    cases hy
  rw [if_neg hfx] at htid hpid hx
  rw [if_neg hfy] at htid hpid hy
  exact hxy ⟨htid, hpid, hx, hy⟩

/-- A call that neither inserts a submission nor makes any correct credits nothing. -/
theorem perform (hs : s.CreditsOnce) {c : Call} (hinsert : ∀ x, c ≠ .insertSubmission x)
    (hset : ∀ f, c ≠ .setCorrect f true) : (c.perform s).2.CreditsOnce := by
  by_cases hw : c.WritesSubmissions
  · cases c with
    | insertSubmission x => exact absurd rfl (hinsert x)
    | setCorrect f correct =>
      cases correct with
      | true => exact absurd rfl (hset f)
      | false => exact hs.setIncorrect f
    | deleteSubmissions f => exact hs.filter _
    | _ => exact hw.elim
  · unfold CreditsOnce
    rw [Call.submissions_perform hw]
    exact hs

/-! ## Attempts -/

/-- What a team has not solved is not credited to it yet. -/
theorem append (hs : s.CreditsOnce) {x : Submission} (hx : ¬s.HasSolved x.tid x.pid) :
    (s.submissions ++ [x]).Pairwise fun x y => ¬x.BothCredit y := by
  refine List.pairwise_append.2 ⟨hs, List.pairwise_singleton _ _, fun y hy z hz => ?_⟩
  rw [List.mem_singleton.1 hz]
  rintro ⟨htid, hpid, hcorrect, -⟩
  exact hx ⟨y, hy, htid, hpid, hcorrect⟩

/-- **An attempt is stored only if the problem is not credited to the team yet.** -/
theorem submit (hs : s.CreditsOnce) (hreach : s.Reachable) (setup : Setup) (now : Int)
    (a : Attempt) : ((Pipeline.submit setup now a).run .none s).2.CreditsOnce := by
  have houtcome := Pipeline.outcome_submitNormalized hreach setup now a.normalized
  unfold Pipeline.submit
  generalize (Pipeline.submitNormalized setup now a.normalized).run .none s = out at houtcome ⊢
  cases houtcome with
  | judged _ _ _ hunsolved => exact hs.append hunsolved
  | _ => exact hs

end CreditsOnce

/-! ## Operations one after another -/

/-- The stores that operations of certain kinds lead to, one after another, from the empty store.
The operations may fail, and users are added from outside. -/
inductive ServedBy (kinds : Operation → Prop) : Store → Prop where
  | empty : ServedBy kinds .empty
  | addUser {s : Store} (u : User) (hs : ServedBy kinds s) : ServedBy kinds (s.addUser u)
  | operation {s : Store} (setup : Setup) {o : Operation} (ho : kinds o) (hs : ServedBy kinds s) :
      ServedBy kinds ((o.program setup).run .none s).2

theorem ServedBy.served {kinds : Operation → Prop} {s : Store} (hs : s.ServedBy kinds) :
    s.Served := by
  induction hs with
  | empty => exact .empty
  | addUser u _ ih => exact ih.addUser u
  | operation setup _ _ ih => exact ih.operation setup _

end Store

/-- The operation judges submissions again. -/
def Operation.Regrades : Operation → Prop
  | .reevaluate _ => True
  | _ => False

/-- An operation that does not judge again makes no submission correct, and only an attempt inserts
one. -/
theorem Operation.Makes.credits_nothing {setup : Setup} {o : Operation} {c : Call}
    (hc : o.Makes setup c) (ho : ¬o.Regrades) (hsubmit : ∀ now a, o ≠ .submit now a) :
    (∀ x, c ≠ .insertSubmission x) ∧ ∀ f, c ≠ .setCorrect f true := by
  constructor
  · rintro x rfl
    obtain ⟨now, a, -, -, rfl, -⟩ := hc
    exact hsubmit now a rfl
  · rintro f rfl
    rcases hc with ⟨query, -, -, hfalse⟩ | ⟨pid, key, rfl, -⟩
    · cases hfalse
    · exact ho trivial

/-- An operation that does not judge again credits no problem twice. -/
theorem Store.CreditsOnce.operation {s : Store} (hs : s.CreditsOnce) (hreach : s.Reachable)
    (setup : Setup) {o : Operation} (ho : ¬o.Regrades) :
    ((o.program setup).run .none s).2.CreditsOnce := by
  by_cases hsubmit : ∃ now a, o = .submit now a
  · obtain ⟨now, a, rfl⟩ := hsubmit
    exact hs.submit hreach setup now a
  · refine run_preserves (fun c t hc ht => ?_) .none (o.calls_program setup) hs
    obtain ⟨hinsert, hset⟩ := hc.credits_nothing ho fun now a h => hsubmit ⟨now, a, h⟩
    exact ht.perform hinsert hset

/-- **A problem is credited to a team at most once**, in every store that operations lead to one after
another, if none of them judges submissions again: whatever was inserted, updated, disabled, removed
and imported, sent in, invalidated and cleared on the way, and in whatever order. -/
theorem credited_once_of_servedBy {s : Store} (hs : s.ServedBy fun o => ¬o.Regrades)
    (tid pid : String) :
    s.submissions.countP (fun x => x.tid = tid && x.pid = pid && x.correct) ≤ 1 := by
  have honce : s.CreditsOnce := by
    induction hs with
    | empty => exact .nil
    | addUser u _ ih => exact ih
    | operation setup ho hs ih => exact ih.operation hs.served.reachable setup ho
  exact honce.countP_le_one tid pid

namespace Sample

/-- The setup in which the flag has been changed. -/
def changedSetup : Setup :=
  ⟨(Registry.empty 1000).register "hidden" (Grader.flag {} "glaf" false), true⟩

/-- The problem is solved, removed, and inserted again in another category. -/
def reinsertedStore : Store :=
  let solved := ((Operation.submit 7 attempt).program setup).run .none store
  let removed := ((Operation.remove (Problem.pidOf "Warmup")).program setup).run .none solved.2
  (((Operation.insert (document.insert "category" (.string "web"))).program setup).run .none
    removed.2).2

theorem servedBy_reinsertedStore : reinsertedStore.ServedBy fun o => ¬o.Regrades :=
  .operation setup (o := .insert _) id <| .operation setup (o := .remove _) id <|
    .operation setup (o := .submit 7 attempt) id <|
    .operation setup (o := .insert document) id <| .addUser user .empty

/-- The new flag is sent in, then all submissions are invalidated, and the new flag is sent in once
more. -/
def resolvedStore : Store :=
  let again := Operation.submit 8 { attempt with key := "glaf" }
  let refused := (again.program changedSetup).run .none reinsertedStore
  let invalidated := ((Operation.invalidate {}).program changedSetup).run .none refused.2
  ((again.program changedSetup).run .none invalidated.2).2

theorem servedBy_resolvedStore : resolvedStore.ServedBy fun o => ¬o.Regrades :=
  .operation changedSetup (o := .submit 8 _) id <|
    .operation changedSetup (o := .invalidate {}) id <|
    .operation changedSetup (o := .submit 8 _) id servedBy_reinsertedStore

end Sample

/-- A team has solved a problem that is removed and inserted again, and then the flag is changed.
The new flag is turned down while the old solution stands.  Once that is invalidated the new flag is
stored, and the problem is credited to the team once. -/
theorem credited_once_of_resolved :
    let s := Sample.resolvedStore
    (s.ServedBy fun o => ¬o.Regrades) ∧
      Sample.reinsertedStore.submissions.map (fun x => (x.key, x.category, x.correct)) =
        [("flag", "misc", true)] ∧
      s.submissions.map (fun x => (x.key, x.category, x.correct)) =
        [("flag", "misc", false), ("glaf", "web", true)] ∧
      s.submissions.countP
        (fun x => x.tid = "red" && x.pid = Problem.pidOf "Warmup" && x.correct) ≤ 1 := by
  intro s
  have hs := Sample.servedBy_resolvedStore
  exact ⟨hs, by decide +kernel, by decide +kernel, credited_once_of_servedBy hs "red" _⟩

end CaptureTheFlag
