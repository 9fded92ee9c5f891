import CaptureTheFlag.Proofs.Grader.Registry
import CaptureTheFlag.Proofs.Submission.Regrading

/-!
# Judging again when no grader has changed

As long as the graders stay what they are, and every problem keeps its grader, a stored verdict is
what the grader says about the key of its user.  Judging the problem again asks the grader about the
key of nobody.

* `Store.Steady`: the stores that insertions, attempts, and updates that keep the grader lead to
  under one setup.
* `Store.Judged`: every stored verdict is what the grader of the problem says.
* `reevaluate_of_steady`: what judging a problem again comes to.
* `reevaluate_of_ownFlag`: it may take away a solution that is right.

## What protects flags of users

Most graders do not ask who has sent in a key, and for them the two questions have one answer.  A
grader with a flag for every user judges incorrect what nobody has sent in.  A problem is kept from
being judged again by its mark that it is autogenerated, and not by the kind of its grader.  So a
problem without the mark may have such a grader, and then all who have solved it lose their
solution.
-/

namespace CaptureTheFlag

open Program

namespace Store

/-! ## Steady stores -/

/-- The stores that come from the empty one under one setup, by users that are added, problems that
are inserted, updates that leave the problem its grader, and attempts. -/
inductive Steady (setup : Setup) : Store → Prop where
  | empty : Steady setup .empty
  | addUser {s : Store} (u : User) (hs : Steady setup s) : Steady setup (s.addUser u)
  | insert {s : Store} (doc : Document) (hs : Steady setup s) :
      Steady setup ((Lifecycle.insert setup doc).run .none s).2
  | update {s : Store} (pid : String) (changes : Document) (hs : Steady setup s)
      (hgrader : ∀ p p', s.problem? pid = some p →
        ((Lifecycle.update setup pid changes).run .none s).2.problem? pid = some p' →
        p'.grader = p.grader) :
      Steady setup ((Lifecycle.update setup pid changes).run .none s).2
  | submit {s : Store} (now : Int) (a : Attempt) (hs : Steady setup s) :
      Steady setup ((Pipeline.submit setup now a).run .none s).2

variable {setup : Setup} {s : Store}

theorem Steady.reachable (hs : s.Steady setup) : s.Reachable := by
  induction hs with
  | empty => exact .empty
  | addUser u _ ih => exact ih.addUser u
  | insert doc _ ih => exact ih.run .none (Operation.calls_program setup (.insert doc))
  | update pid changes _ _ ih =>
    exact ih.run .none (Operation.calls_program setup (.update pid changes))
  | submit now a _ ih => exact ih.run .none (Operation.calls_program setup (.submit now a))

/-! ## Stored verdicts -/

/-- Every submission is for a stored problem, and its verdict is what the problem's grader says
about the key of its user. -/
def Judged (setup : Setup) (s : Store) : Prop :=
  ∀ x ∈ s.submissions, ∃ p v, s.problem? x.pid = some p ∧
    setup.registry.Judges p.grader (some x.uid) x.key v ∧ x.correct = v.correct

/-- Verdicts stay right where submissions stay as they are, and problems and their graders stay. -/
theorem Judged.of_graders {s' : Store} (hs : s.Judged setup) (hsub : s'.submissions = s.submissions)
    (hgrader : ∀ pid p, s.problem? pid = some p →
      ∃ p', s'.problem? pid = some p' ∧ p'.grader = p.grader) : s'.Judged setup := by
  intro x hx
  rw [hsub] at hx
  obtain ⟨p, v, hp, hjudges, hcorrect⟩ := hs x hx
  obtain ⟨p', hp', hsame⟩ := hgrader x.pid p hp
  exact ⟨p', v, hp', by rwa [hsame], hcorrect⟩

theorem Judged.insert (hs : s.Judged setup) (doc : Document) :
    ((Lifecycle.insert setup doc).run .none s).2.Judged setup := by
  have hinsertion := Lifecycle.insertion setup doc s
  generalize (Lifecycle.insert setup doc).run .none s = out at hinsertion ⊢
  cases hinsertion with
  | @stored draft hdraft hgrader hpid hname =>
    refine hs.of_graders rfl fun pid p hp => ⟨p, ?_, rfl⟩
    show (s.problems.insert _ _).get? pid = some p
    have hne : pid ≠ Problem.pidOf draft.name := by
      rintro rfl
      rw [hpid] at hp
      cases hp
    rw [KeyMap.get?_insert, if_neg hne]
    exact hp
  | _ => exact hs

theorem Judged.update (hs : s.Judged setup) (hkeyed : s.WellKeyed) (pid : String)
    (changes : Document)
    (hgrader : ∀ p p', s.problem? pid = some p →
      ((Lifecycle.update setup pid changes).run .none s).2.problem? pid = some p' →
      p'.grader = p.grader) :
    ((Lifecycle.update setup pid changes).run .none s).2.Judged setup := by
  have hreplacement := Lifecycle.replacement hkeyed setup pid changes
  generalize (Lifecycle.update setup pid changes).run .none s = out at hreplacement hgrader ⊢
  cases hreplacement with
  | @replaced p draft hp hdraft hchecked hname =>
    have hstored : (s.problems.insert pid (Problem.ofDraft pid draft)).get? pid =
        some (Problem.ofDraft pid draft) := by
      rw [KeyMap.get?_insert, if_pos rfl]
    refine hs.of_graders rfl fun pid' q hq => ?_
    by_cases hpid : pid' = pid
    · subst hpid
      exact ⟨_, hstored, hgrader q _ hq hstored⟩
    · refine ⟨q, ?_, rfl⟩
      show (s.problems.insert _ _).get? pid' = some q
      rw [KeyMap.get?_insert, if_neg hpid]
      exact hq
  | _ => exact hs

/-- What is stored with an attempt is the verdict of the problem's grader. -/
theorem Judged.submit (hs : s.Judged setup) (hreach : s.Reachable) (now : Int) (a : Attempt) :
    ((Pipeline.submit setup now a).run .none s).2.Judged setup := by
  have houtcome := Pipeline.outcome_submitNormalized hreach setup now a.normalized
  unfold Pipeline.submit
  generalize (Pipeline.submitNormalized setup now a.normalized).run .none s = out at houtcome ⊢
  cases houtcome with
  | @judged hproper p hopen hpid hunsolved huser huntried v hjudges =>
    intro x hx
    rcases List.mem_append.1 hx with hx | hx
    · exact hs x hx
    · rw [List.mem_singleton.1 hx]
      refine ⟨p, v, ?_, hjudges, rfl⟩
      rw [← hpid]
      exact hreach.problem?_of_mem hopen.stored
  | _ => exact hs

/-- **In a steady store every verdict is what the grader says.** -/
theorem Steady.judged (hs : s.Steady setup) : s.Judged setup := by
  induction hs with
  | empty =>
    intro x hx
    cases hx
  | addUser u _ ih => exact ih
  | insert doc _ ih => exact ih.insert doc
  | update pid changes hs hgrader ih =>
    exact ih.update hs.reachable.wellKeyed pid changes hgrader
  | submit now a hs ih => exact ih.submit hs.reachable now a

/-- The submissions for a problem have the verdicts of its grader. -/
theorem Judged.grade_eq_ok (hs : s.Judged setup) {p : Problem} (hp : s.problem? p.pid = some p)
    {x : Submission} (hx : x ∈ s.submissions) (hpid : x.pid = p.pid) :
    ∃ v, setup.registry.grade p.grader (some x.uid) x.key = .ok v ∧ x.correct = v.correct := by
  obtain ⟨q, v, hq, hjudges, hcorrect⟩ := hs x hx
  rw [hpid, hp] at hq
  obtain rfl := Option.some.inj hq
  exact ⟨v, (setup.registry.grade_eq_ok_iff _ _ _ v).2 hjudges, hcorrect⟩

end Store

/-! ## Judging again -/

namespace Regrade

variable {setup : Setup} {s : Store} {p : Problem}

/-- Where no key is judged correct without a user, all who have solved the problem lose their
solution. -/
theorem run_reevaluate_of_wrong (hp : s.problem? p.pid = some p) (hauto : p.autogen = false)
    (h : ∀ key, ∃ v, setup.registry.grade p.grader none key = .ok v ∧ v.correct = false) :
    ∃ teams, (reevaluate setup p.pid).run .none s =
        (.ok teams, { s with
          submissions := s.submissions.map fun x =>
            if x.pid = p.pid then { x with correct := false } else x }) ∧
      teams.Pairwise (· < ·) ∧ ∀ tid, tid ∈ teams ↔ s.HasSolved tid p.pid := by
  have hverdict : ∀ x : Submission,
      newVerdict setup (fun _ => none) p x = if x.pid = p.pid then false else x.correct := by
    intro x
    by_cases hpid : x.pid = p.pid
    · obtain ⟨v, hgrade, hfalse⟩ := h x.key
      rw [newVerdict_of_ok hpid rfl hgrade, if_pos hpid, hfalse]
    · rw [newVerdict_of_pid_ne hpid, if_neg hpid]
  have hsettle : settle setup (fun _ => none) p =
      fun x => if x.pid = p.pid then { x with correct := false } else x := by
    funext x
    unfold settle
    rw [hverdict x]
    split <;> rfl
  refine ⟨(affected setup (fun _ => none) p s).toList, ?_, TextSet.toList_ascending _,
    fun tid => ?_⟩
  · rw [← Interference.stuckOn_none, run_reevaluate setup _ hp hauto, hsettle]
  · rw [mem_affected]
    unfold Store.HasSolved
    constructor
    · rintro ⟨x, hx, htid, hchange⟩
      rw [hverdict x] at hchange
      split at hchange
      · next hpid => exact ⟨x, hx, htid, hpid, eq_true_of_ne_false hchange.symm⟩
      · exact absurd rfl hchange
    · rintro ⟨x, hx, htid, hpid, hcorrect⟩
      refine ⟨x, hx, htid, ?_⟩
      rw [hverdict x, if_pos hpid, hcorrect]
      exact Bool.false_ne_true

end Regrade

open Regrade in
/-- **Judging again when no grader has changed**: in a steady store, under a registry of
definitions, a stored problem that is not autogenerated is judged again.  If its grader is one that
judges by the key alone, or is not defined, no team is returned and nothing changes.  If its users
have flags of their own, every submission for it becomes incorrect, and the teams that had solved it
are returned in ascending order. -/
theorem reevaluate_of_steady {timeout : Nat} {ds : List Grader.Definition} {setup : Setup}
    (hr : Registry.ofDefinitions timeout ds = .ok setup.registry) {s : Store}
    (hs : s.Steady setup) {p : Problem} (hp : p ∈ s.problems.values) (hauto : p.autogen = false) :
    ((∀ d ∈ ds, d.id = p.grader → ¬d.IsPerUser) →
        (reevaluate setup p.pid).run .none s = (.ok [], s)) ∧
      ((∃ d ∈ ds, d.id = p.grader ∧ d.IsPerUser) →
        ∃ teams, (reevaluate setup p.pid).run .none s =
            (.ok teams, { s with
              submissions := s.submissions.map fun x =>
                if x.pid = p.pid then { x with correct := false } else x }) ∧
          teams.Pairwise (· < ·) ∧ ∀ tid, tid ∈ teams ↔ s.HasSolved tid p.pid) := by
  have hstored := hs.reachable.problem?_of_mem hp
  constructor
  · intro hkey
    rw [← Interference.stuckOn_none]
    refine run_reevaluate_of_right setup _ hstored hauto fun x hx => ?_
    by_cases hpid : x.pid = p.pid
    case neg => exact newVerdict_of_pid_ne hpid
    obtain ⟨v, hgrade, hcorrect⟩ := hs.judged.grade_eq_ok hstored hx hpid
    -- the grader does not ask whose key it is
    rw [Registry.grade_eq_grade hr hkey (some x.uid) none] at hgrade
    rw [newVerdict_of_ok hpid rfl hgrade, hcorrect]
  · rintro ⟨d, hd, hid, hper⟩
    exact run_reevaluate_of_wrong hstored hauto fun key =>
      Registry.grade_none_of_isPerUser hr hd hid hper key

namespace Sample

/-- A grader with one flag for all, and a grader with a flag for every user. -/
def definitions : List Grader.Definition :=
  [⟨"hidden", .flag "flag" false, none, none⟩, ⟨"own", .perUser "secret" none, none, none⟩]

def definedSetup : Setup :=
  ⟨(Registry.ofDefinitions 1000 definitions).toOption.getD (.empty 0), true⟩

theorem ofDefinitions_definitions :
    Registry.ofDefinitions 1000 definitions = .ok definedSetup.registry := by
  have hok : (Registry.ofDefinitions 1000 definitions).toOption.isSome = true := by decide +kernel
  unfold definedSetup
  cases h : Registry.ofDefinitions 1000 definitions with
  | ok r => rfl
  | error e =>
    rw [h] at hok
    cases hok

/-- The only problem has this grader, and the user has sent in this key. -/
def gradedStore (grader key : String) : Store :=
  let inserted := (Lifecycle.insert definedSetup (document.insert "grader" (.string grader))).run
    .none (Store.empty.addUser user)
  ((Pipeline.submit definedSetup 1 { attempt with key }).run .none inserted.2).2

theorem steady_gradedStore (grader key : String) : (gradedStore grader key).Steady definedSetup :=
  .submit 1 _ (.insert _ (.addUser user .empty))

/-- The problem, with the grader. -/
def problemGradedBy (grader : String) : Problem := { problem with grader }

/-- The flag of the only user. -/
def ownFlag : String := Grader.flagFor "secret" "flag" "ada"

theorem gradedStore_hidden :
    problemGradedBy "hidden" ∈ (gradedStore "hidden" "flag").problems.values ∧
      (gradedStore "hidden" "flag").submissions.map (·.correct) = [true] := by
  decide +kernel

/-- The user's flag, as it is stored. -/
def ownSubmission : Submission :=
  ⟨"ada", "red", problem.pid, ownFlag, 1, none, "misc", true⟩

theorem gradedStore_own :
    problemGradedBy "own" ∈ (gradedStore "own" ownFlag).problems.values ∧
      (gradedStore "own" ownFlag).submissions = [ownSubmission] := by
  decide +kernel

end Sample

/-- One problem is judged by one flag for all, and keeps its verdicts.  Another has a flag for every
user, and the one user who has solved it loses the solution. -/
theorem reevaluate_of_flag_and_ownFlag :
    let hidden := Sample.problemGradedBy "hidden"
    let own := Sample.problemGradedBy "own"
    let s := Sample.gradedStore "hidden" "flag"
    let t := Sample.gradedStore "own" Sample.ownFlag
    ((hidden ∈ s.problems.values ∧ ∀ d ∈ Sample.definitions, d.id = hidden.grader → ¬d.IsPerUser) ∧
      (Regrade.reevaluate Sample.definedSetup hidden.pid).run .none s = (.ok [], s) ∧
      s.submissions.map (·.correct) = [true]) ∧
    (own ∈ t.problems.values ∧ ∃ d ∈ Sample.definitions, d.id = own.grader ∧ d.IsPerUser) ∧
    ∃ teams, (Regrade.reevaluate Sample.definedSetup own.pid).run .none t =
        (.ok teams, { t with
          submissions := t.submissions.map fun x =>
            if x.pid = own.pid then { x with correct := false } else x }) ∧
      "red" ∈ teams := by
  intro hidden own s t
  have hr := Sample.ofDefinitions_definitions
  obtain ⟨hhidden, hcorrect⟩ := Sample.gradedStore_hidden
  obtain ⟨hown, hsubmissions⟩ := Sample.gradedStore_own
  have hkey : ∀ d ∈ Sample.definitions, d.id = hidden.grader → ¬d.IsPerUser := by
    simp [Sample.definitions, Grader.Definition.IsPerUser, hidden, Sample.problemGradedBy]
  have hper : ∃ d ∈ Sample.definitions, d.id = own.grader ∧ d.IsPerUser :=
    ⟨_, List.mem_cons_of_mem _ List.mem_cons_self, rfl, _, _, rfl⟩
  have hsame := (reevaluate_of_steady hr (Sample.steady_gradedStore _ _) hhidden rfl).1
  obtain ⟨teams, hrun, -, hteams⟩ :=
    (reevaluate_of_steady hr (Sample.steady_gradedStore _ _) hown rfl).2 hper
  refine ⟨⟨⟨hhidden, hkey⟩, hsame hkey, hcorrect⟩, ⟨hown, hper⟩, teams, hrun, ?_⟩
  exact (hteams "red").2
    ⟨Sample.ownSubmission, hsubmissions ▸ List.mem_cons_self, rfl, rfl, rfl⟩

/-- A solution that is right is taken away: the user has sent in the user's own flag, nothing has
changed since, and the problem is not autogenerated. -/
theorem reevaluate_of_ownFlag :
    let own := Sample.problemGradedBy "own"
    let s := Sample.gradedStore "own" Sample.ownFlag
    let out := (Regrade.reevaluate Sample.definedSetup own.pid).run .none s
    (Registry.ofDefinitions 1000 Sample.definitions = .ok Sample.definedSetup.registry ∧
      s.Steady Sample.definedSetup ∧ own ∈ s.problems.values ∧ own.autogen = false) ∧
    out.1.toOption = some ["red"] ∧ s.submissions.map (·.correct) = [true] ∧
    out.2.submissions.map (·.correct) = [false] ∧ out ≠ (.ok [], s) := by
  intro own s out
  have hout : out.1.toOption = some ["red"] ∧
      out.2.submissions.map (·.correct) = [false] := by decide +kernel
  obtain ⟨hown, hsubmissions⟩ := Sample.gradedStore_own
  have hcorrect : s.submissions.map (·.correct) = [true] :=
    congrArg (List.map Submission.correct) hsubmissions
  refine ⟨⟨Sample.ofDefinitions_definitions, Sample.steady_gradedStore _ _, hown, rfl⟩,
    hout.1, hcorrect, hout.2, fun heq => ?_⟩
  have hteams := hout.1
  rw [heq] at hteams
  cases hteams

end CaptureTheFlag
