import CaptureTheFlag.Proofs.Submission.Rivals

/-!
# Who may change what

An operation of one service leaves alone what belongs to the others, and an operation that changes
submissions changes them in its own way only.

* `Operation.service`: the service that an operation belongs to.
* `Submission.Edits`: which submissions may come, which may go, and which may be given which verdict.
* `Submission.Edits.Leads`: one list of submissions comes from another by such edits.
* `Operation.edits`: the edits of an operation.
* `Operation.Frame`: what a run of an operation leaves as it was; `Operation.frame_runUnder`: every
  run keeps to it.

## Submissions in their places

A submission has no identifier of its own here, so to say that it has survived one must say which of
the later submissions it is.  `Submission.Edits.Leads` walks along both lists at once.  A submission
stays, goes or has its verdict turned where it stands, and one more may come at the very end.  All
parts but the verdict and the order of what stays are therefore kept by the form of the relation, and
there is nothing else that could become of a submission.

Judging again sets verdicts key by key, and each time by a filter.  For the edits to compose, a
submission whose verdict is turned twice must count as one that stays; it does, since a verdict is
turned only to what it is not (`Submission.Edits.Leads.setCorrect`).
-/

namespace CaptureTheFlag

open Program

/-! ## Services -/

/-- The services that operations belong to. -/
inductive Service where
  /-- The life of problems. -/
  | problems
  /-- What teams have solved and may see. -/
  | progress
  /-- Attempts and the upkeep of submissions. -/
  | submissions
  deriving DecidableEq, Repr

/-- The service that an operation belongs to. -/
def Operation.service : Operation → Service
  | .insert _ | .update _ _ | .setDisabled _ _ | .remove _ | .importText _ | .integrity | .get _ _
  | .getNamed _ _ | .getForTeam _ _ | .list _ _ | .search _ => .problems
  | .solvedPids _ _ | .solvedProblems _ _ | .unlockedPids _ _ | .unlockedProblems _ _ => .progress
  | .submit _ _ | .preview _ _ _ | .reevaluate _ | .invalidate _ | .clear _ _ | .clearAll
  | .submissions _ | .correctSubmissions _ => .submissions

/-- Only operations on problems may make a call that changes them. -/
theorem Operation.Makes.service_of_writesProblems {setup : Setup} {o : Operation} {c : Call}
    (h : o.Makes setup c) (hc : c.WritesProblems) : o.service = .problems := by
  cases c with
  | insertProblem p => obtain ⟨⟨doc, rfl⟩ | ⟨text, rfl⟩, -⟩ := h <;> rfl
  | replaceProblem p =>
    obtain ⟨⟨pid, changes, rfl⟩ | ⟨pid, disabled, rfl⟩, -⟩ := h <;> rfl
  | deleteProblem pid =>
    obtain rfl : o = .remove pid := h
    rfl
  | _ => exact hc.elim

/-- Only operations on submissions may make a call that changes them. -/
theorem Operation.Makes.service_of_writesSubmissions {setup : Setup} {o : Operation} {c : Call}
    (h : o.Makes setup c) (hc : c.WritesSubmissions) : o.service = .submissions := by
  cases c with
  | insertSubmission x =>
    obtain ⟨now, a, p, v, rfl, -⟩ := h
    rfl
  | setCorrect f correct => rcases h with ⟨query, rfl, -⟩ | ⟨pid, key, rfl, -⟩ <;> rfl
  | deleteSubmissions f => rcases h with ⟨uid, tid, rfl, -⟩ | ⟨tid, rfl, -⟩ | ⟨rfl, -⟩ <;> rfl
  | _ => exact hc.elim

namespace Submission

/-! ## Edits of submissions -/

/-- What may become of submissions. -/
structure Edits where
  /-- The submission may come in. -/
  comes : Submission → Prop
  /-- The submission may go. -/
  goes : Submission → Prop
  /-- The submission may be given this verdict. -/
  turns : Submission → Bool → Prop

namespace Edits

/-- The second list comes from the first by such edits: a submission goes, or it stays, with all its
parts or with its verdict turned; and at the end one more may have come. -/
inductive Leads (e : Edits) : List Submission → List Submission → Prop where
  | nil : Leads e [] []
  | comes {x : Submission} (hx : e.comes x) : Leads e [] [x]
  | goes {x : Submission} {l l' : List Submission} (hx : e.goes x) (h : Leads e l l') :
      Leads e (x :: l) l'
  | stays {x : Submission} {l l' : List Submission} (h : Leads e l l') :
      Leads e (x :: l) (x :: l')
  | turns {x : Submission} {l l' : List Submission} {correct : Bool} (hx : x.correct = !correct)
      (hturns : e.turns x correct) (h : Leads e l l') :
      Leads e (x :: l) ({ x with correct } :: l')

namespace Leads

variable {e : Edits} {l l' : List Submission}

theorem refl (e : Edits) (l : List Submission) : e.Leads l l := by
  induction l with
  | nil => exact .nil
  | cons x r ih => exact .stays ih

/-- One more submission comes at the end. -/
theorem concat (l : List Submission) {x : Submission} (hx : e.comes x) : e.Leads l (l ++ [x]) := by
  induction l with
  | nil => exact .comes hx
  | cons y r ih => exact .stays ih

/-- Where nothing may come, verdicts that may be turned are turned.  One that was turned before is
turned back, so that its submission has stayed. -/
theorem setCorrect (h : e.Leads l l') (hcomes : ∀ x, ¬e.comes x) {f : Filter} {correct : Bool}
    (hf : ∀ x b, f.selects { x with correct := b } = true → b = (!correct) ∧ e.turns x correct) :
    e.Leads l (l'.map fun x => if f.selects x then { x with correct } else x) := by
  induction h with
  | nil => exact .nil
  | comes hx => exact absurd hx (hcomes _)
  | goes hx _ ih => exact .goes hx ih
  | @stays x l l' _ ih =>
    rw [List.map_cons]
    split
    · next hselects =>
      obtain ⟨hcorrect, hturns⟩ := hf x x.correct hselects
      exact .turns hcorrect hturns ih
    · exact .stays ih
  | @turns x l l' b hx hturns _ ih =>
    rw [List.map_cons]
    split
    · next hselects =>
      obtain ⟨rfl, -⟩ := hf x b hselects
      rw [Bool.not_not] at hx
      have hback : { x with correct } = x := congrArg (fun b => { x with correct := b }) hx.symm
      show e.Leads (x :: l) ({ x with correct } :: _)
      rw [hback]
      exact .stays ih
    · exact .turns hx hturns ih

/-- Where nothing may come, what may go goes. -/
theorem filter (h : e.Leads l l') (hcomes : ∀ x, ¬e.comes x) {f : Filter}
    (hf : ∀ x b, f.selects { x with correct := b } = true → e.goes x) :
    e.Leads l (l'.filter fun x => !f.selects x) := by
  induction h with
  | nil => exact .nil
  | comes hx => exact absurd hx (hcomes _)
  | goes hx _ ih => exact .goes hx ih
  | @stays x l l' _ ih =>
    cases hselects : f.selects x with
    | true =>
      rw [List.filter_cons_of_neg (by rw [hselects]; exact Bool.false_ne_true)]
      exact .goes (hf x x.correct hselects) ih
    | false =>
      rw [List.filter_cons_of_pos (by rw [hselects]; rfl)]
      exact .stays ih
  | @turns x l l' b hx hturns _ ih =>
    cases hselects : f.selects { x with correct := b } with
    | true =>
      rw [List.filter_cons_of_neg (by rw [hselects]; exact Bool.false_ne_true)]
      exact .goes (hf x b hselects) ih
    | false =>
      rw [List.filter_cons_of_pos (by rw [hselects]; rfl)]
      exact .turns hx hturns ih

end Leads

/-! ## Calls that keep to edits -/

/-- All that the call does to submissions is among the edits.  No filter may look at more than what
they are about. -/
def Allows (e : Edits) : Call → Prop
  | .insertSubmission _ => False
  | .setCorrect f correct =>
    ∀ x b, f.selects { x with correct := b } = true → b = (!correct) ∧ e.turns x correct
  | .deleteSubmissions f => ∀ x b, f.selects { x with correct := b } = true → e.goes x
  | _ => True

/-- **A call that keeps to the edits** leads on. -/
theorem Leads.perform {e : Edits} {c : Call} (hc : e.Allows c) (hcomes : ∀ x, ¬e.comes x)
    {l : List Submission} {s : Store} (h : e.Leads l s.submissions) :
    e.Leads l (c.perform s).2.submissions := by
  by_cases hwrites : c.WritesSubmissions
  · cases c with
    | insertSubmission x => exact hc.elim
    | setCorrect f correct => exact h.setCorrect hcomes hc
    | deleteSubmissions f => exact h.filter hcomes hc
    | _ => exact hwrites.elim
  · rw [Call.submissions_perform hwrites]
    exact h

end Edits

/-! ## What a query matches -/

/-- The query matches the submission.  Where it names a user, its team does not count. -/
structure Query.Matches (q : Query) (x : Submission) : Prop where
  pid : ∀ pid, q.pid = some pid → x.pid = pid
  uid : ∀ uid, q.uid = some uid → x.uid = uid
  tid : q.uid = none → ∀ tid, q.tid = some tid → x.tid = tid
  category : ∀ category, q.category = some category → x.category = category

/-- **The filter of a query selects what the query matches.** -/
theorem Query.selects_toFilter_iff {q : Query} {x : Submission} :
    q.toFilter.selects x = true ↔ q.Matches x := by
  rw [Filter.selects_iff]
  constructor
  · rintro ⟨hpid, huid, htid, -, hcategory, -⟩
    refine ⟨Filter.admits_iff.1 hpid, Filter.admits_iff.1 huid, fun hnone => ?_,
      Filter.admits_iff.1 hcategory⟩
    rw [toFilter, hnone] at htid
    exact Filter.admits_iff.1 htid
  · intro h
    refine ⟨Filter.admits_iff.2 h.pid, Filter.admits_iff.2 h.uid, ?_, rfl,
      Filter.admits_iff.2 h.category, rfl⟩
    cases huid : q.uid with
    | none =>
      rw [toFilter, huid]
      exact Filter.admits_iff.2 (h.tid huid)
    | some uid =>
      rw [toFilter, huid]
      rfl

/-- With a verdict, it selects those of them that have the verdict. -/
theorem Query.selects_withVerdict_iff {q : Query} {x : Submission} {correct : Bool} :
    (q.toFilter.withVerdict correct).selects x = true ↔ q.Matches x ∧ x.correct = correct := by
  have hverdict : (q.toFilter.withVerdict correct).selects x =
      (q.toFilter.selects x && decide (correct = x.correct)) := by
    unfold Filter.selects Filter.withVerdict toFilter
    simp
  rw [hverdict, Bool.and_eq_true, selects_toFilter_iff, decide_eq_true_eq, eq_comm]

end Submission

/-- The last step of an attempt: the store stays as it is, or the attempt is stored and succeeds. -/
theorem Pipeline.runUnder_storing (is : Nat → Interference) (now : Int) (a : Attempt) (p : Problem)
    (v : Verdict) (s : Store) :
    ((storing now a p v).runUnder is s).2 = s ∨
      ((storing now a p v).runUnder is s).2 = s.withSubmission (record now a p v) ∧
        ((storing now a p v).runUnder is s).1 = .ok ⟨v.correct, p.score, v.message⟩ := by
  let c : Call := .insertSubmission (record now a p v)
  let next (r : Except Failure c.Reply) : Program Result :=
    ((Program.done r).mapFailure triedIfStored).bind fun _ =>
      .done (.ok ⟨v.correct, p.score, v.message⟩)
  have hstoring : storing now a p v = .ask c next := rfl
  have hstays (r : Except Failure c.Reply) (is : Nat → Interference) (t : Store) :
      ((next r).runUnder is t).2 = t := by cases r <;> rfl
  rw [hstoring]
  cases hanswer : is 0 c with
  | some r =>
    left
    simp only [runUnder, hanswer]
    exact hstays r _ s
  | none =>
    simp only [runUnder, hanswer, hstays]
    rcases storing_cases hstoring.symm s with ⟨hrefused, -⟩ | ⟨-, hstored, hok⟩
    · exact Or.inl hrefused
    · refine Or.inr ⟨hstored, ?_⟩
      rw [hok]
      rfl

/-! ## The edits of an operation -/

/-- A submission is one of the user, or of the team where no user is named. -/
def Submission.IsOf (x : Submission) (uid tid : Option String) : Prop :=
  uid = some x.uid ∨ uid = none ∧ tid = some x.tid

/-- The graders give this verdict on the submission when its problem is judged again, in a run from
the store. -/
def Submission.IsRejudged (setup : Setup) (is : Nat → Interference) (s : Store) (x : Submission)
    (correct : Bool) : Prop :=
  ∃ p v, ((Lifecycle.find x.pid).runUnder is s).1 = .ok p ∧
    setup.registry.Judges p.grader none x.key v ∧ v.correct = correct

/-- The edits that a run of an operation may make.  One submission comes when an attempt succeeds.
Submissions go when all are cleared, or those of their user or team.  Verdicts turn when the problem
is judged again, and to what its grader finds; and they turn to incorrect when a query that matches
is invalidated. -/
def Operation.edits (setup : Setup) (is : Nat → Interference) (s : Store) (o : Operation) :
    Submission.Edits where
  comes x := ∃ now a p v, o = .submit now a ∧
    ((Pipeline.submit setup now a).runUnder is s).1 = .ok ⟨v.correct, p.score, v.message⟩ ∧
    x = Pipeline.record now a.normalized p v
  goes x := o = .clearAll ∨ ∃ uid tid, o = .clear uid tid ∧ x.IsOf uid tid
  turns x correct := o = .reevaluate x.pid ∧ x.IsRejudged setup is s correct ∨
    ∃ q, o = .invalidate q ∧ q.Matches x ∧ correct = false

namespace Operation

variable (setup : Setup) (is : Nat → Interference) (s : Store)

/-- Nothing comes but by an attempt. -/
theorem not_comes {o : Operation} (ho : ∀ now a, o ≠ .submit now a) (x : Submission) :
    ¬(o.edits setup is s).comes x := by
  rintro ⟨now, a, -, -, rfl, -⟩
  exact ho now a rfl

/-- A program that keeps to edits, from the store on. -/
theorem leads_of_calls {e : Submission.Edits} (hcomes : ∀ x, ¬e.comes x) {α : Type}
    {p : Program α} (hp : p.Calls e.Allows) (is : Nat → Interference) :
    e.Leads s.submissions (p.runUnder is s).2.submissions :=
  runUnder_preserves (I := fun t => e.Leads s.submissions t.submissions)
    (fun _ _ hc ht => ht.perform hc hcomes) is hp (.refl e _)

/-! ## Each operation on submissions -/

/-- An attempt that comes to its last step is stored behind all others and succeeds, or the
submissions stay. -/
theorem leads_submit (now : Int) (a : Attempt) :
    (edits setup is s (.submit now a)).Leads s.submissions
      ((program setup (.submit now a)).runUnder is s).2.submissions := by
  obtain ⟨q, is', hq, hrun⟩ := (Pipeline.callsTo_submitNormalized setup now
    a.normalized).exists_runUnder (fun _ h => h.isRead) is s
  have hprogram : (program setup (.submit now a)).runUnder is s = q.runUnder is' s := hrun
  rw [hprogram]
  obtain ⟨e, rfl⟩ | ⟨p, v, rfl⟩ := hq
  · exact .refl _ _
  let x := Pipeline.record now a.normalized p v
  rcases Pipeline.runUnder_storing is' now a.normalized p v s with hstays | ⟨hstored, hok⟩
  · rw [hstays]
    exact .refl _ _
  · rw [hstored]
    exact .concat _ ⟨now, a, p, v, rfl, (congrArg Prod.fst hrun).trans hok, rfl⟩

/-- Judging a problem again turns verdicts to what its grader finds. -/
theorem leads_reevaluate (pid : String) :
    (edits setup is s (.reevaluate pid)).Leads s.submissions
      ((program setup (.reevaluate pid)).runUnder is s).2.submissions := by
  have hcomes := not_comes setup is s (o := .reevaluate pid) fun now a h => by cases h
  have hstays : ((Lifecycle.find pid).runUnder is s).2 = s :=
    (Lifecycle.calls_find (fun _ h => Call.IsLookup.isRead h) pid).snd_runUnder is s
  show (edits setup is s _).Leads _ ((Regrade.reevaluate setup pid).runUnder is s).2.submissions
  unfold Regrade.reevaluate
  rw [bind_eq]
  obtain ⟨is', hrun⟩ := exists_runUnder_bind is (Lifecycle.find pid) _ s
  rw [hrun]
  rcases hfind : (Lifecycle.find pid).runUnder is s with ⟨e | p, t⟩
  all_goals
    rw [hfind] at hstays
    obtain rfl : t = s := hstays
  · exact .refl _ _
  refine leads_of_calls t hcomes ?_ is'
  split
  · exact Calls.fail _
  refine Calls.call_bind trivial fun found => ?_
  refine Calls.bind (Regrade.calls_regradeKeys setup pid p.grader found (fun key v hv => ?_) _ _)
    fun _ => Calls.done _
  intro x b hselects
  obtain ⟨hpid, -, -, hkey, -, hcorrect⟩ := (Submission.Filter.selects_iff _ _).1 hselects
  obtain rfl : x.pid = pid := Submission.Filter.admits_iff.1 hpid pid rfl
  obtain rfl : x.key = key := Submission.Filter.admits_iff.1 hkey key rfl
  refine ⟨Submission.Filter.admits_iff.1 hcorrect _ rfl, Or.inl ⟨rfl, p, v, ?_, ?_, rfl⟩⟩
  · rw [hfind]
  · exact (setup.registry.grade_eq_ok_iff _ _ _ v).1 hv

/-- The calls of an operation that keeps to its edits, attempts and judging again aside. -/
theorem allows_of_makes {o : Operation} (hsubmit : ∀ now a, o ≠ .submit now a)
    (hreevaluate : ∀ pid, o ≠ .reevaluate pid) {c : Call} (hc : o.Makes setup c) :
    (o.edits setup is s).Allows c := by
  cases c with
  | insertSubmission x =>
    obtain ⟨now, a, p, v, rfl, -⟩ := hc
    exact hsubmit now a rfl
  | setCorrect f correct =>
    rcases hc with ⟨q, rfl, rfl, rfl⟩ | ⟨pid, key, rfl, -⟩
    · intro x b hselects
      obtain ⟨hmatches, hb⟩ := Submission.Query.selects_withVerdict_iff.1 hselects
      exact ⟨hb, Or.inr ⟨q, rfl, ⟨hmatches.pid, hmatches.uid, hmatches.tid, hmatches.category⟩,
        rfl⟩⟩
    · exact absurd rfl (hreevaluate pid)
  | deleteSubmissions f =>
    rcases hc with ⟨uid, tid, rfl, rfl⟩ | ⟨tid, rfl, rfl⟩ | ⟨rfl, rfl⟩
    · intro x b hselects
      obtain ⟨-, huid, -⟩ := (Submission.Filter.selects_iff _ _).1 hselects
      obtain rfl : x.uid = uid := Submission.Filter.admits_iff.1 huid uid rfl
      exact Or.inr ⟨_, tid, rfl, Or.inl rfl⟩
    · intro x b hselects
      obtain ⟨-, -, htid, -⟩ := (Submission.Filter.selects_iff _ _).1 hselects
      obtain rfl : x.tid = tid := Submission.Filter.admits_iff.1 htid tid rfl
      exact Or.inr ⟨none, _, rfl, Or.inr ⟨rfl, rfl⟩⟩
    · exact fun _ _ _ => Or.inl rfl
  | _ => exact trivial

/-- **Every operation leads to what its edits allow.** -/
theorem leads_program (o : Operation) : (o.edits setup is s).Leads s.submissions
    ((o.program setup).runUnder is s).2.submissions := by
  by_cases hsubmit : ∀ now a, o ≠ .submit now a
  case neg =>
    obtain ⟨now, a, rfl⟩ : ∃ now a, o = .submit now a := by
      by_contra h
      exact hsubmit fun now a ho => h ⟨now, a, ho⟩
    exact leads_submit setup is s now a
  by_cases hreevaluate : ∀ pid, o ≠ .reevaluate pid
  case neg =>
    obtain ⟨pid, rfl⟩ : ∃ pid, o = .reevaluate pid := by
      by_contra h
      exact hreevaluate fun pid ho => h ⟨pid, ho⟩
    exact leads_reevaluate setup is s pid
  exact leads_of_calls s (not_comes setup is s hsubmit)
    ((o.calls_program setup).mono fun _ => allows_of_makes setup is s hsubmit hreevaluate) is

/-! ## Together -/

/-- What a run of an operation from one store to another leaves as it was. -/
structure Frame (o : Operation) (s' : Store) : Prop where
  /-- No operation changes the users. -/
  users : s'.users = s.users
  /-- Only the operations on problems change problems. -/
  problems : o.service ≠ .problems → s'.problems = s.problems
  /-- Only the operations on submissions change submissions. -/
  submissions : o.service ≠ .submissions → s'.submissions = s.submissions
  /-- And those change them by their edits only. -/
  leads : (o.edits setup is s).Leads s.submissions s'.submissions

/-- **Who may change what**: from every store, and whichever calls are answered in the store's place,
every operation leaves the users alone, what belongs to another service, and of the submissions all
that its edits do not speak of. -/
theorem frame_runUnder (o : Operation) :
    o.Frame setup is s ((o.program setup).runUnder is s).2 where
  users := runUnder_preserves (I := fun t => t.users = s.users)
    (fun c t _ ht => (c.users_perform t).trans ht) is (o.calls_program setup) rfl
  problems ho := runUnder_preserves (I := fun t => t.problems = s.problems)
    (fun _ t hc ht => (Call.problems_perform (fun hwrites =>
      ho (hc.service_of_writesProblems hwrites)) t).trans ht) is (o.calls_program setup) rfl
  submissions ho := runUnder_preserves (I := fun t => t.submissions = s.submissions)
    (fun _ t hc ht => (Call.submissions_perform (fun hwrites =>
      ho (hc.service_of_writesSubmissions hwrites)) t).trans ht) is (o.calls_program setup) rfl
  leads := leads_program setup is s o

end Operation

end CaptureTheFlag
