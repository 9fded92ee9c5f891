import CaptureTheFlag.Proofs.Problem.Unlock
import CaptureTheFlag.Proofs.Service.World
import CaptureTheFlag.Proofs.Team.Progress
import Mathlib.Data.List.Sort

/-!
# What a team has reached stays reached

As long as nothing is done but sending in keys, no team loses a solved problem, and no team loses
sight of a problem, if the weights of the stored problems are not negative.

* `TextSet.toList_sublist`: a greater set lists the members of a smaller one in the same order.
* `Problem.isUnlockedBy_mono`: a problem without negative weights stays open when more is solved.
* `Store.Extends`: the same problems, and submissions that came behind all others.
* `Store.Attempts`: one attempt after another is submitted, by anyone and with any outcome.
* `progress_of_attempts`: what a team has solved and what it may see, before and after attempts.

## Where the sign of the weights comes in

A problem that is solved may stand anywhere among the identifiers of those solved before, so its
weight is added in the middle of a sum that may have left the 64-bit integers already.  Without
negative weights such a sum is never led back, and comes to the integer nearest to the exact sum
(`Problem.toInt_addAll`).  The exact sum grows with every weight, wherever it stands, and the nearest
integer does not fall when the sum grows.  A negative weight would break the first step as well as
the second: a team would lose sight of a problem by solving another.

Solved problems themselves do not depend on weights.  An attempt writes at most once, and then it
appends.
-/

namespace CaptureTheFlag

/-! ## Greater sets -/

/-- The members of a set are among those of a greater set, in the same order. -/
theorem TextSet.toList_sublist {s t : TextSet}
    (h : ∀ x, s.contains x = true → t.contains x = true) : s.toList.Sublist t.toList := by
  have hsubset : s.toList ⊆ t.toList := fun x hx =>
    (t.mem_toList_iff x).2 (h x ((s.mem_toList_iff x).1 hx))
  exact List.sublist_of_subperm_of_pairwise (List.subperm_of_subset s.toList_nodup hsubset)
    s.toList_ascending t.toList_ascending

namespace Problem

/-! ## Weights that are not negative -/

theorem clamp_mono {m n : Int} (h : m ≤ n) : clamp m ≤ clamp n := by
  unfold clamp
  omega

/-- More weights that are not negative weigh at least as much. -/
theorem total_le_of_sublist {ws ws' : List Int64} (h : ws.Sublist ws')
    (hw : ∀ w ∈ ws', 0 ≤ w.toInt) : total ws ≤ total ws' := by
  induction h with
  | slnil => exact Int.le_refl _
  | cons w _ ih =>
    have hhead := hw w List.mem_cons_self
    have htail := ih fun v hv => hw v (List.mem_cons_of_mem _ hv)
    rw [total_cons]
    omega
  | cons_cons w _ ih =>
    have htail := ih fun v hv => hw v (List.mem_cons_of_mem _ hv)
    rw [total_cons, total_cons]
    omega

/-- They do so when they are added one by one, too. -/
theorem addAll_le_of_sublist {ws ws' : List Int64} (h : ws.Sublist ws')
    (hw : ∀ w ∈ ws', 0 ≤ w.toInt) : addAll ws ≤ addAll ws' := by
  have hlow : Int64.minValue.toInt ≤ 0 := by decide
  have hturn := neverTurnsBack_of_nonneg (fun w hmem => hw w (h.subset hmem)) hlow
  have hturn' := neverTurnsBack_of_nonneg hw hlow
  rw [Int64.le_iff_toInt_le, toInt_addAll hturn, toInt_addAll hturn']
  exact clamp_mono (total_le_of_sublist h hw)

/-- **A problem whose weights are not negative stays open when more is solved.** -/
theorem isUnlockedBy_mono {p : Problem} (hw : ∀ w ∈ p.weightmap.values, 0 ≤ w)
    {solved solved' : TextSet} (h : ∀ pid, solved.contains pid = true → solved'.contains pid = true)
    (hopen : p.isUnlockedBy solved = true) : p.isUnlockedBy solved' = true := by
  have hweights : ∀ w ∈ p.weightsOf solved'.toList, 0 ≤ w.toInt := by
    intro w hmem
    obtain ⟨pid, -, hpid⟩ := List.mem_filterMap.1 hmem
    exact Int64.le_iff_toInt_le.1 (hw w ((p.weightmap.mem_values_iff w).2 ⟨pid, hpid⟩))
  have hsum : p.weightSum solved ≤ p.weightSum solved' :=
    addAll_le_of_sublist ((TextSet.toList_sublist h).filterMap _) hweights
  unfold isUnlockedBy at hopen ⊢
  rw [Bool.or_eq_true, decide_eq_true_eq] at hopen ⊢
  exact hopen.imp_right fun hreached => Int64.le_trans hreached hsum

end Problem

namespace Store

/-! ## Stores that grow -/

/-- The second store has the same problems, and its submissions begin with those of the first. -/
structure Extends (s s' : Store) : Prop where
  problems : s'.problems = s.problems
  submissions : s.submissions <+: s'.submissions

theorem Extends.refl (s : Store) : s.Extends s := ⟨rfl, List.prefix_rfl⟩

theorem Extends.trans {s t u : Store} (h : s.Extends t) (h' : t.Extends u) : s.Extends u :=
  ⟨h'.problems.trans h.problems, h.submissions.trans h'.submissions⟩

/-- A submission that is inserted comes last, or the store stays. -/
theorem extends_insertSubmission (s : Store) (x : Submission) :
    s.Extends (s.insertSubmission x).2 := by
  rcases insertSubmission_cases x s with ⟨-, hrefused⟩ | ⟨-, hstored⟩
  · rw [hrefused]
    exact .refl s
  · rw [hstored]
    exact ⟨rfl, List.prefix_append _ _⟩

/-- A call that an attempt makes lets the store grow. -/
theorem extends_perform {setup : Setup} {now : Int} {a : Attempt} {c : Call}
    (hc : (Operation.submit now a).Makes setup c) (s : Store) : s.Extends (c.perform s).2 := by
  cases c with
  | insertSubmission x => exact extends_insertSubmission s x
  | insertProblem p => obtain ⟨⟨doc, hdoc⟩ | ⟨text, htext⟩, -⟩ := hc <;> contradiction
  | replaceProblem p => obtain ⟨⟨pid, _, hpid⟩ | ⟨pid, _, hpid⟩, -⟩ := hc <;> contradiction
  | deleteProblem pid => cases hc
  | setCorrect f correct => obtain ⟨_, ho, -⟩ | ⟨_, _, ho, -⟩ := hc <;> cases ho
  | deleteSubmissions f =>
    obtain ⟨_, _, ho, -⟩ | ⟨_, ho, -⟩ | ⟨ho, -⟩ := hc <;> cases ho
  | _ => exact .refl s

/-! ## Attempts one after another -/

/-- One attempt is submitted, by anyone, at any time, with any graders; and any of its calls may be
answered in the store's place. -/
inductive Submits : Store → Store → Prop where
  | submit (setup : Setup) (now : Int) (a : Attempt) (is : Nat → Program.Interference) (s : Store) :
      Submits s ((Pipeline.submit setup now a).runUnder is s).2

/-- One attempt after another is submitted. -/
def Attempts : Store → Store → Prop := Relation.ReflTransGen Submits

theorem Submits.extends {s s' : Store} (h : s.Submits s') : s.Extends s' := by
  cases h with
  | submit setup now a is _ =>
    exact Program.runUnder_preserves (I := s.Extends)
      (fun c t hc ht => ht.trans (extends_perform hc t)) is
      (Operation.calls_program setup (.submit now a)) (.refl s)

/-- Attempts let the store grow.  The induction is on the attempts. -/
theorem Attempts.extends {s s' : Store} (h : s.Attempts s') : s.Extends s' := by
  induction h with
  | refl => exact .refl s
  | tail _ hsubmits ih => exact ih.trans hsubmits.extends

/-! ## Progress in stores that grow -/

/-- In a greater store a team has solved at least as much. -/
theorem Extends.contains_solvedBy {s s' : Store} (h : s.Extends s') {tid pid : String}
    (hsolved : (s.solvedBy tid).contains pid = true) : (s'.solvedBy tid).contains pid = true := by
  rw [Store.contains_solvedBy] at hsolved ⊢
  obtain ⟨x, hx, hsolved⟩ := hsolved
  exact ⟨x, h.submissions.subset hx, hsolved⟩

/-- In a greater store at least as much is open to a team, in the same order. -/
theorem Extends.openTo_sublist {s s' : Store} (h : s.Extends s')
    (hw : ∀ p ∈ s.problems.values, ∀ w ∈ p.weightmap.values, 0 ≤ w) (tid : String)
    (category : Option String) : (s.openTo tid category).Sublist (s'.openTo tid category) := by
  have hlisted : s'.problemsWhere ⟨category, some false⟩ =
      s.problemsWhere ⟨category, some false⟩ := by
    unfold problemsWhere
    rw [h.problems]
  have hopen : s.openTo tid category =
      (s'.openTo tid category).filter (·.isUnlockedBy (s.solvedBy tid)) := by
    unfold openTo
    rw [List.filter_filter, hlisted]
    refine List.filter_congr fun p hp => ?_
    have hweights := hw p ((s.mem_problemsWhere _ p).1 hp).1
    cases hp' : p.isUnlockedBy (s.solvedBy tid) with
    | false => rfl
    | true => rw [Problem.isUnlockedBy_mono hweights (fun _ => h.contains_solvedBy) hp']; rfl
  rw [hopen]
  exact List.filter_sublist

end Store

/-- **What a team has reached stays reached.**  From any store in which no stored problem has a
negative weight, let attempts be submitted one after another, by any teams and with any outcomes.
Every problem that a team had solved before is solved after, and the problems that were open to it
before are open after, in the same order; within each category as well as in all. -/
theorem progress_of_attempts {s s' : Store}
    (hw : ∀ p ∈ s.problems.values, ∀ w ∈ p.weightmap.values, 0 ≤ w) (h : s.Attempts s')
    (tid : String) (category : Option String) :
    ∃ solved solved' unlocked unlocked',
      ((Progress.solvedPids tid category).run .none s = (.ok solved, s) ∧
        (Progress.solvedPids tid category).run .none s' = (.ok solved', s') ∧
        solved.toList ⊆ solved'.toList) ∧
      (Progress.unlockedPids tid category).run .none s = (.ok unlocked, s) ∧
        (Progress.unlockedPids tid category).run .none s' = (.ok unlocked', s') ∧
        unlocked.Sublist unlocked' := by
  have hextends := h.extends
  obtain ⟨solved, hrun, hsolved⟩ := Progress.run_solvedPids_in s tid category
  obtain ⟨solved', hrun', hsolved'⟩ := Progress.run_solvedPids_in s' tid category
  refine ⟨solved, solved', _, _, ⟨hrun, hrun', fun pid hpid => ?_⟩,
    Progress.run_unlockedPids s tid category, Progress.run_unlockedPids s' tid category,
    (hextends.openTo_sublist hw tid category).map _⟩
  rw [TextSet.mem_toList_iff, hsolved] at hpid
  rw [TextSet.mem_toList_iff, hsolved']
  obtain ⟨x, hx, hselected⟩ := hpid
  exact ⟨x, hextends.submissions.subset hx, hselected⟩

namespace Sample

/-- The competition with a problem that is one of its own helpers. -/
def selfHelpedStore : Store :=
  let doc := document.insert "weightmap" (.object [("Warmup", .integer 5)])
  ((Lifecycle.insert setup doc).run .none (Store.empty.addUser user)).2

/-- The blue team has sent in a wrong key, and then the red team the flag. -/
def selfHelpedStoreAfter : Store :=
  let wrong := (Pipeline.submit setup 7 { attempt with tid := "blue", key := "glaf" }).runUnder
    (fun _ => .none) selfHelpedStore
  ((Pipeline.submit setup 8 attempt).runUnder (fun _ => .none) wrong.2).2

theorem attempts_selfHelpedStore : selfHelpedStore.Attempts selfHelpedStoreAfter :=
  .tail (.single (.submit setup 7 _ _ _)) (.submit setup 8 attempt _ _)

end Sample

/-- A problem that weighs on itself is open to a team, and stays open when the team solves it.  A
wrong key of another team comes in between. -/
theorem progress_of_wrong_key_and_flag :
    let s := Sample.selfHelpedStore
    let s' := Sample.selfHelpedStoreAfter
    let pid := Problem.pidOf "Warmup"
    ((∀ p ∈ s.problems.values, ∀ w ∈ p.weightmap.values, 0 ≤ w) ∧ s.Attempts s') ∧
      s.problems.values.flatMap (·.weightmap.values) = [5] ∧
      s'.submissions.map (fun x => (x.tid, x.correct)) = [("blue", false), ("red", true)] ∧
      ∃ solved solved' unlocked unlocked',
        ((Progress.solvedPids "red" none).run .none s = (.ok solved, s) ∧
          (Progress.solvedPids "red" none).run .none s' = (.ok solved', s') ∧
          solved.toList ⊆ solved'.toList) ∧
        ((Progress.unlockedPids "red" none).run .none s = (.ok unlocked, s) ∧
          (Progress.unlockedPids "red" none).run .none s' = (.ok unlocked', s') ∧
          unlocked.Sublist unlocked') ∧
        (s.solvedBy "red").toList = [] ∧ (s'.solvedBy "red").toList = [pid] ∧
        (s.openTo "red" none).map (·.pid) = [pid] ∧ (s'.openTo "red" none).map (·.pid) = [pid] := by
  intro s s' pid
  have hweights : s.problems.values.flatMap (·.weightmap.values) = [5] := by decide +kernel
  have hw : ∀ p ∈ s.problems.values, ∀ w ∈ p.weightmap.values, 0 ≤ w := by
    intro p hp w hmem
    have hlisted : w ∈ s.problems.values.flatMap (·.weightmap.values) :=
      List.mem_flatMap.2 ⟨p, hp, hmem⟩
    rw [hweights, List.mem_singleton] at hlisted
    rw [hlisted]
    decide
  have hsubmissions : s'.submissions.map (fun x => (x.tid, x.correct)) =
      [("blue", false), ("red", true)] := by decide +kernel
  have hreached : (s.solvedBy "red").toList = [] ∧ (s'.solvedBy "red").toList = [pid] ∧
      (s.openTo "red" none).map (·.pid) = [pid] ∧
      (s'.openTo "red" none).map (·.pid) = [pid] := by decide +kernel
  obtain ⟨solved, solved', unlocked, unlocked', hsolved, hunlocked⟩ :=
    progress_of_attempts hw Sample.attempts_selfHelpedStore "red" none
  exact ⟨⟨hw, Sample.attempts_selfHelpedStore⟩, hweights, hsubmissions, solved, solved',
    unlocked, unlocked', hsolved, hunlocked, hreached⟩

end CaptureTheFlag
