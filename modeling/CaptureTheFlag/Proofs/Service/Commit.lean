import CaptureTheFlag.Proofs.Program.Commit
import CaptureTheFlag.Proofs.Service.Operation

/-!
# Operations that fail have changed nothing

Every operation but an import changes the store at most at its end: what may fail comes first, and
from the call that writes on nothing fails any more.

* `Lifecycle.commits_insert`, `Lifecycle.commits_update`, `Lifecycle.commits_remove`: the operations
  on problems write with their last call.
* `Pipeline.commits_submit`: so does an attempt, behind all its gates.
* `Regrade.ends_regradeKeys`: judging again writes once for each key, and takes no notice if it
  cannot.
* `Operation.IsRead.calls`: all other operations but imports only look things up.
* `Operation.commits_program`: together.

An import is left out for a reason.  It inserts one item after another, and what it has inserted
stays when a later item is refused.
-/

namespace CaptureTheFlag

open Program

/-! ## Problems -/

theorem Lifecycle.commits_insert (setup : Setup) (doc : Document) :
    (Lifecycle.insert setup doc).CommitsTo Succeeds := by
  refine CommitsTo.done_bind fun draft _ => ?_
  refine CommitsTo.done_bind fun _ _ => ?_
  refine CommitsTo.reads_bind (Calls.call _ trivial) fun holder => ?_
  split
  · exact CommitsTo.fail _
  · refine CommitsTo.reads_bind (Calls.call _ trivial) fun namesake => ?_
    split
    · exact CommitsTo.fail _
    · exact CommitsTo.last_call _ _ _

theorem Lifecycle.commits_update (setup : Setup) (pid : String) (changes : Document) :
    (Lifecycle.update setup pid changes).CommitsTo Succeeds := by
  refine CommitsTo.reads_bind (Lifecycle.calls_find (fun _ h => h.isRead) pid) fun stored => ?_
  refine CommitsTo.done_bind fun draft _ => ?_
  have hend : ∀ u : Unit, Program.CommitsTo Succeeds (do
      (Program.call (.replaceProblem (Problem.ofDraft stored.pid draft))).mapFailure
        (Lifecycle.takenIfStored (Problem.ofDraft stored.pid draft).name)
      pure (Problem.ofDraft stored.pid draft)) :=
    fun _ => CommitsTo.last_call _ _ _
  have hname := Lifecycle.calls_checkName (fun _ h => Call.IsLookup.isRead h)
    (Problem.ofDraft stored.pid draft)
  dsimp only
  split
  · refine CommitsTo.done_bind fun _ _ => ?_
    split
    · exact CommitsTo.reads_bind hname hend
    · exact hend ()
  · split
    · exact CommitsTo.reads_bind hname hend
    · exact hend ()

/-- A removal fails after its last call only if that call has found nothing to remove. -/
theorem Lifecycle.commits_remove (pid : String) :
    (Lifecycle.remove pid).CommitsTo Succeeds := by
  refine CommitsTo.reads_bind (Lifecycle.calls_find (fun _ h => h.isRead) pid) fun p => ?_
  have hmissing : ∀ found : Bool, Program.CommitsTo Succeeds
      (if found then pure p else Program.fail (.problemNotFound pid)) := by
    intro found
    split
    · exact CommitsTo.done _
    · exact CommitsTo.fail _
  refine CommitsTo.ask (fun r _ => ?_) fun r hr => ?_
  · cases r with
    | error e => exact CommitsTo.done _
    | ok found => exact hmissing found
  · cases r with
    | error e => exact absurd (Call.tellsUnchanged_error _ e) hr
    | ok found =>
      have hfound : found = true := eq_true_of_ne_false hr
      rw [hfound]
      exact Ends.done ⟨p, rfl⟩

/-! ## Attempts -/

/-- All gates are in front of the one call that writes. -/
theorem Pipeline.commits_submit (setup : Setup) (now : Int) (a : Attempt) :
    (Pipeline.submit setup now a).CommitsTo Succeeds := by
  have hl : ∀ c : Call, c.IsLookup → c.IsRead := fun _ h => h.isRead
  have hfind : ∀ f : Submission.Filter, f.tid = some a.normalized.tid →
      (Call.findSubmissions f).IsRead := fun _ _ => trivial
  unfold submit submitNormalized
  refine CommitsTo.done_bind fun _ _ => ?_
  refine CommitsTo.reads_bind (calls_checkUnlocked hl _ _ hfind) fun _ => ?_
  refine CommitsTo.reads_bind (calls_checkUnsolved _ _ hfind) fun _ => ?_
  refine CommitsTo.reads_bind (calls_resolveUser hl _) fun user => ?_
  refine CommitsTo.reads_bind (calls_checkUntried _ hfind) fun _ => ?_
  refine CommitsTo.reads_bind (Lifecycle.calls_find hl _) fun p => ?_
  refine CommitsTo.done_bind fun v _ => ?_
  exact CommitsTo.last_call _ _ _

/-! ## Judging again -/

theorem Regrade.ends_regradeKey (setup : Setup) (pid grader : String) (found : List Submission)
    (key : String) : (regradeKey setup pid grader found key).Ends Succeeds := by
  unfold regradeKey
  split
  · exact Ends.done ⟨_, rfl⟩
  · split
    · exact Ends.done ⟨_, rfl⟩
    · -- a failure of the call is a result like others, and is not passed on
      refine (Ends.of_forall (fun _ => trivial) (Program.call _)).attempt.bind
        (Q := fun r => ∃ r', r = .ok r' ∧ True) (fun answer _ => ?_) fun e he => ?_
      · split <;> exact Ends.done ⟨_, rfl⟩
      · obtain ⟨r', hr', -⟩ := he
        cases hr'

/-- Judging some keys again does not fail, whatever has been written. -/
theorem Regrade.ends_regradeKeys (setup : Setup) (pid grader : String) (found : List Submission)
    (keys : List String) (teams : TextSet) :
    (regradeKeys setup pid grader found keys teams).Ends Succeeds := by
  induction keys generalizing teams with
  | nil => exact Ends.done ⟨_, rfl⟩
  | cons key r ih =>
    exact (ends_regradeKey setup pid grader found key).bind (fun _ _ => ih _)
      fun e he => absurd he (not_succeeds_error e)

theorem Regrade.commits_reevaluate (setup : Setup) (pid : String) :
    (Regrade.reevaluate setup pid).CommitsTo Succeeds := by
  refine CommitsTo.reads_bind (Lifecycle.calls_find (fun _ h => h.isRead) pid) fun p => ?_
  split
  · exact CommitsTo.fail _
  · refine CommitsTo.reads_bind (Calls.call _ trivial) fun found => ?_
    exact CommitsTo.bind_succeeds (.of_ends (ends_regradeKeys setup pid p.grader found _ _))
      fun _ => Ends.done ⟨_, rfl⟩

/-! ## All operations -/

namespace Operation

/-- The operation only looks things up. -/
def IsRead : Operation → Prop
  | .integrity | .get _ _ | .getNamed _ _ | .getForTeam _ _ | .list _ _ | .search _
  | .solvedPids _ _ | .solvedProblems _ _ | .unlockedPids _ _ | .unlockedProblems _ _
  | .preview _ _ _ | .submissions _ | .correctSubmissions _ => True
  | _ => False

/-- The operation is an import of problems. -/
def IsImport : Operation → Prop
  | .importText _ => True
  | _ => False

/-- The calls that only look things up are all that such an operation may make. -/
theorem IsRead.makes {o : Operation} (h : o.IsRead) (setup : Setup) (c : Call)
    (hc : o.Makes setup c) : c.IsRead := by
  cases c with
  | insertProblem p =>
    obtain ⟨⟨doc, rfl⟩ | ⟨text, rfl⟩, -⟩ := hc <;> exact h
  | replaceProblem p =>
    obtain ⟨⟨pid, changes, rfl⟩ | ⟨pid, disabled, rfl⟩, -⟩ := hc <;> exact h
  | deleteProblem pid =>
    change o = .remove pid at hc
    rw [hc] at h
    exact h
  | insertSubmission x =>
    obtain ⟨now, a, p, v, rfl, -⟩ := hc
    exact h
  | setCorrect f correct =>
    rcases hc with ⟨query, rfl, -⟩ | ⟨pid, key, rfl, -⟩ <;> exact h
  | deleteSubmissions f =>
    rcases hc with ⟨uid, tid, rfl, -⟩ | ⟨tid, rfl, -⟩ | ⟨rfl, -⟩ <;> exact h
  | _ => exact trivial

theorem IsRead.calls {o : Operation} (h : o.IsRead) (setup : Setup) :
    (o.program setup).Calls Call.IsRead :=
  (o.calls_program setup).mono (h.makes setup)

/-- **Once an operation has changed the store it succeeds**, unless it is an import. -/
theorem commits_program (setup : Setup) (o : Operation) (ho : ¬o.IsImport) :
    (o.program setup).CommitsTo Succeeds := by
  by_cases hread : o.IsRead
  · exact CommitsTo.of_reads (hread.calls setup)
  · cases o with
    | insert doc => exact Lifecycle.commits_insert setup doc
    | update pid changes => exact Lifecycle.commits_update setup pid changes
    | setDisabled pid disabled => exact Lifecycle.commits_update setup pid _
    | remove pid => exact Lifecycle.commits_remove pid
    | importText text => exact absurd trivial ho
    | submit now a => exact Pipeline.commits_submit setup now a
    | reevaluate pid => exact Regrade.commits_reevaluate setup pid
    | invalidate query => exact CommitsTo.call (.setCorrect _ _)
    | clear uid tid =>
      cases uid with
      | some uid => exact CommitsTo.call (.deleteSubmissions _)
      | none =>
        cases tid with
        | some tid => exact CommitsTo.call (.deleteSubmissions _)
        | none => exact CommitsTo.fail _
    | clearAll => exact CommitsTo.call (.deleteSubmissions _)
    | _ => exact absurd trivial hread

end Operation

end CaptureTheFlag
