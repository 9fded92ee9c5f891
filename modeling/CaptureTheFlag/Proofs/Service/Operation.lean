import CaptureTheFlag.Proofs.Store.Reachable
import CaptureTheFlag.Submission.Pipeline
import CaptureTheFlag.Submission.Regrade
import CaptureTheFlag.Submission.Upkeep

/-!
# The operations of the service

Everything that a caller can ask of the service, with its arguments, and the calls of the store that
it may lead to.

* `Operation`: what can be asked for; `Operation.program` is what is then done.
* `Operation.team?`: the team that an operation is for, if it is for one.
* `Operation.Makes`: the calls that an operation may make.
* `Operation.calls_program`: it makes no others, whatever the store answers.

## Why the calls are listed by call and not by operation

`Operation.Makes` asks of a call which operations may make it, and with which arguments.  Read like
this it is an inversion: a submission is inserted only for an attempt that is submitted, whose parts
have a proper length; a verdict is set only by invalidating and by judging again, and by these only
where the filter says so.  What an operation leaves alone is then read off without looking at its
program again.

A team's operation looks at no submissions but the team's.  This is the one condition on a call that
only reads.
-/

namespace CaptureTheFlag

/-- What a caller can ask of the service. -/
inductive Operation where
  | insert (doc : Document)
  | update (pid : String) (changes : Document)
  | setDisabled (pid : String) (disabled : Bool)
  | remove (pid : String)
  | importText (text : String)
  | integrity
  | get (pid : String) (showDisabled : Bool)
  | getNamed (name : String) (showDisabled : Bool)
  | getForTeam (pid tid : String)
  | list (category : Option String) (disabled : Bool)
  | search (conditions : List Condition)
  | solvedPids (tid : String) (category : Option String)
  | solvedProblems (tid : String) (category : Option String)
  | unlockedPids (tid : String) (category : Option String)
  | unlockedProblems (tid : String) (category : Option String)
  | submit (now : Int) (attempt : Attempt)
  | preview (pid key : String) (uid : Option String)
  | reevaluate (pid : String)
  | invalidate (query : Submission.Query)
  | clear (uid tid : Option String)
  | clearAll
  | submissions (query : Submission.Query)
  | correctSubmissions (query : Submission.Query)

namespace Operation

/-- What an operation returns when it does not fail. -/
def Result : Operation → Type
  | .insert _ => String
  | .update _ _ | .setDisabled _ _ | .remove _ | .get _ _ | .getNamed _ _ | .getForTeam _ _ =>
    Problem
  | .importText _ => Lifecycle.Imported
  | .integrity | .unlockedPids _ _ | .reevaluate _ => List String
  | .list _ _ | .search _ | .solvedProblems _ _ => List Problem
  | .solvedPids _ _ => TextSet
  | .unlockedProblems _ _ => List UnlockedProblem
  | .submit _ _ => Pipeline.Result
  | .preview _ _ _ => Verdict
  | .invalidate _ | .clear _ _ | .clearAll => Nat
  | .submissions _ | .correctSubmissions _ => List Submission

/-- What is done for an operation. -/
def program (setup : Setup) : (o : Operation) → Program o.Result
  | .insert doc => Lifecycle.insert setup doc
  | .update pid changes => Lifecycle.update setup pid changes
  | .setDisabled pid disabled => Lifecycle.setDisabled setup pid disabled
  | .remove pid => Lifecycle.remove pid
  | .importText text => Lifecycle.importText setup text
  | .integrity => Lifecycle.integrity setup
  | .get pid showDisabled => Lifecycle.get pid showDisabled
  | .getNamed name showDisabled => Lifecycle.getNamed name showDisabled
  | .getForTeam pid tid => Lifecycle.getForTeam pid tid
  | .list category disabled => Lifecycle.list category disabled
  | .search conditions => Lifecycle.search conditions
  | .solvedPids tid category => Progress.solvedPids tid category
  | .solvedProblems tid category => Progress.solvedProblems tid category
  | .unlockedPids tid category => Progress.unlockedPids tid category
  | .unlockedProblems tid category => Progress.unlockedProblems tid category
  | .submit now attempt => Pipeline.submit setup now attempt
  | .preview pid key uid => Pipeline.preview setup pid key uid
  | .reevaluate pid => Regrade.reevaluate setup pid
  | .invalidate query => Upkeep.invalidate query
  | .clear uid tid => Upkeep.clear uid tid
  | .clearAll => Upkeep.clearAll
  | .submissions query => Upkeep.submissions query
  | .correctSubmissions query => Upkeep.correctSubmissions query

/-- The team that an operation is for.  A query that names a user is not for a team. -/
def team? : Operation → Option String
  | .getForTeam _ tid | .solvedPids tid _ | .solvedProblems tid _ | .unlockedPids tid _
  | .unlockedProblems tid _ => some tid
  | .submit _ attempt => some attempt.tid
  | .invalidate query | .submissions query | .correctSubmissions query =>
    if query.uid.isSome then none else query.tid
  | .clear uid tid => if uid.isSome then none else tid
  | _ => none

/-- The calls that an operation may make. -/
def Makes (setup : Setup) (o : Operation) : Call → Prop
  | .insertProblem p =>
    ((∃ doc, o = .insert doc) ∨ ∃ text, o = .importText text) ∧
      ∃ doc draft, Draft.ofDocument doc = .ok draft ∧
        Lifecycle.checkGrader setup draft.grader = .ok () ∧ p = Problem.create draft
  | .replaceProblem p =>
    ((∃ pid changes, o = .update pid changes) ∨ ∃ pid disabled, o = .setDisabled pid disabled) ∧
      ∃ stored changes draft, Draft.ofDocument (Lifecycle.merge stored changes) = .ok draft ∧
        p = Problem.ofDraft stored.pid draft
  | .deleteProblem pid => o = .remove pid
  | .insertSubmission x =>
    ∃ now a p v, o = .submit now a ∧ a.normalized.check = .ok () ∧
      x = Pipeline.record now a.normalized p v
  | .setCorrect f correct =>
    (∃ query : Submission.Query,
      o = .invalidate query ∧ f = query.toFilter.withVerdict true ∧ correct = false) ∨
    ∃ pid key, o = .reevaluate pid ∧
      f = ((Submission.Filter.forProblem pid).withKey key).withVerdict (!correct)
  | .deleteSubmissions f =>
    (∃ uid tid, o = .clear (some uid) tid ∧ f = Submission.Filter.forUser uid) ∨
    (∃ tid, o = .clear none (some tid) ∧ f = Submission.Filter.forTeam tid) ∨
    o = .clearAll ∧ f = Submission.Filter.all
  | .findSubmissions f => ∀ tid, o.team? = some tid → f.tid = some tid
  | .findProblem _ | .findProblemNamed _ | .listProblems _ | .findUser _ => True

theorem makes_of_isLookup (setup : Setup) (o : Operation) {c : Call} (h : c.IsLookup) :
    o.Makes setup c := by
  cases c <;> first | exact trivial | exact h.elim

end Operation

/-! ## The calls of each program

Each program has one lemma: its calls have a property if certain calls have it.  The lemma names the
calls that the program makes beyond looking up problems and users, and says what is known when it
makes them. -/

section Programs

open Program Submission

variable {P : Call → Prop} (hl : ∀ c : Call, c.IsLookup → P c)
include hl

theorem Lifecycle.calls_find (pid : String) : (Lifecycle.find pid).Calls P := by
  refine Calls.call_bind (hl _ trivial) fun found => ?_
  cases found with
  | none => exact Calls.fail _
  | some p => exact Calls.done _

theorem Lifecycle.calls_insert (setup : Setup) (doc : Document)
    (hinsert : ∀ draft, Draft.ofDocument doc = .ok draft →
      Lifecycle.checkGrader setup draft.grader = .ok () →
        P (.insertProblem (Problem.create draft))) :
    (Lifecycle.insert setup doc).Calls P := by
  refine Calls.done_bind fun draft hdraft => ?_
  refine Calls.done_bind fun _ hgrader => ?_
  refine Calls.call_bind (hl _ trivial) fun holder => ?_
  split
  · exact Calls.fail _
  · refine Calls.call_bind (hl _ trivial) fun namesake => ?_
    split
    · exact Calls.fail _
    · exact Calls.bind (Calls.mapFailure _ (Calls.call _ (hinsert draft hdraft hgrader)))
        fun _ => Calls.done _

/-- Along a list of items the induction is on the list: every item is inserted like a single one. -/
theorem Lifecycle.calls_insertAll (setup : Setup)
    (hinsert : ∀ doc draft, Draft.ofDocument doc = .ok draft →
      Lifecycle.checkGrader setup draft.grader = .ok () → P (.insertProblem (Problem.create draft)))
    (items : List Json) : (Lifecycle.insertAll setup items).Calls P := by
  induction items with
  | nil => exact Calls.done _
  | cons item r ih =>
    unfold Lifecycle.insertAll
    split
    · exact Calls.fail _
    · exact Calls.bind (Lifecycle.calls_insert hl setup _ (hinsert _)) fun _ =>
        Calls.bind ih fun _ => Calls.done _

theorem Lifecycle.calls_importText (setup : Setup) (text : String)
    (hinsert : ∀ doc draft, Draft.ofDocument doc = .ok draft →
      Lifecycle.checkGrader setup draft.grader = .ok () →
        P (.insertProblem (Problem.create draft))) :
    (Lifecycle.importText setup text).Calls P := by
  unfold Lifecycle.importText
  split
  · exact Calls.fail _
  · exact Calls.bind (Lifecycle.calls_insertAll hl setup hinsert _) fun _ => Calls.done _
  · split
    · exact Calls.fail _
    · exact Calls.bind (Lifecycle.calls_insert hl setup _ (hinsert _)) fun _ => Calls.done _

theorem Lifecycle.calls_checkName (p : Problem) : (Lifecycle.checkName p).Calls P := by
  refine Calls.call_bind (hl _ trivial) fun holder => ?_
  cases holder with
  | none => exact Calls.done _
  | some q =>
    dsimp only
    split
    · exact Calls.fail _
    · exact Calls.done _

theorem Lifecycle.calls_update (setup : Setup) (pid : String) (changes : Document)
    (hreplace : ∀ stored draft, Draft.ofDocument (Lifecycle.merge stored changes) = .ok draft →
      P (.replaceProblem (Problem.ofDraft stored.pid draft))) :
    (Lifecycle.update setup pid changes).Calls P := by
  refine Calls.bind (Lifecycle.calls_find hl pid) fun stored => ?_
  refine Calls.done_bind fun draft hdraft => ?_
  have hend : ∀ u : Unit, Program.Calls P (do
      (Program.call (.replaceProblem (Problem.ofDraft stored.pid draft))).mapFailure
        (Lifecycle.takenIfStored (Problem.ofDraft stored.pid draft).name)
      pure (Problem.ofDraft stored.pid draft)) := fun _ =>
    Calls.bind (Calls.mapFailure _ (Calls.call _ (hreplace stored draft hdraft)))
      fun _ => Calls.done _
  dsimp only
  split
  · refine Calls.done_bind fun _ _ => ?_
    split
    · exact Calls.bind (Lifecycle.calls_checkName hl _) hend
    · exact hend ()
  · split
    · exact Calls.bind (Lifecycle.calls_checkName hl _) hend
    · exact hend ()

theorem Lifecycle.calls_remove (pid : String) (hdelete : P (.deleteProblem pid)) :
    (Lifecycle.remove pid).Calls P := by
  refine Calls.bind (Lifecycle.calls_find hl pid) fun p => ?_
  refine Calls.call_bind hdelete fun found => ?_
  split
  · exact Calls.done _
  · exact Calls.fail _

theorem Lifecycle.calls_get (pid : String) (showDisabled : Bool) :
    (Lifecycle.get pid showDisabled).Calls P := by
  refine Calls.call_bind (hl _ trivial) fun found => ?_
  cases found with
  | none => exact Calls.fail _
  | some p =>
    dsimp only
    split
    · exact Calls.done _
    · exact Calls.fail _

theorem Lifecycle.calls_getNamed (name : String) (showDisabled : Bool) :
    (Lifecycle.getNamed name showDisabled).Calls P := by
  refine Calls.call_bind (hl _ trivial) fun found => ?_
  cases found with
  | none => exact Calls.fail _
  | some p =>
    dsimp only
    split
    · exact Calls.done _
    · exact Calls.fail _

omit hl in
theorem Progress.calls_solvedPids (tid : String) (category : Option String)
    (hfind : ∀ f : Filter, f.tid = some tid → P (.findSubmissions f)) :
    (Progress.solvedPids tid category).Calls P :=
  Calls.call_bind (hfind _ rfl) fun _ => Calls.done _

theorem Progress.calls_resolve (pids : List String) : (Progress.resolve pids).Calls P := by
  induction pids with
  | nil => exact Calls.done _
  | cons pid r ih =>
    refine Calls.call_bind (hl _ trivial) fun found => ?_
    cases found with
    | none => exact Calls.fail _
    | some p => exact Calls.bind ih fun _ => Calls.done _

theorem Progress.calls_solvedProblems (tid : String) (category : Option String)
    (hfind : ∀ f : Filter, f.tid = some tid → P (.findSubmissions f)) :
    (Progress.solvedProblems tid category).Calls P :=
  Calls.bind (Progress.calls_solvedPids tid category hfind) fun _ => Progress.calls_resolve hl _

theorem Progress.calls_unlocked (tid : String) (category : Option String)
    (hfind : ∀ f : Filter, f.tid = some tid → P (.findSubmissions f)) :
    (Progress.unlocked tid category).Calls P :=
  Calls.bind (Progress.calls_solvedPids tid none hfind) fun _ =>
    Calls.call_bind (hl _ trivial) fun _ => Calls.done _

theorem Progress.calls_unlockedPids (tid : String) (category : Option String)
    (hfind : ∀ f : Filter, f.tid = some tid → P (.findSubmissions f)) :
    (Progress.unlockedPids tid category).Calls P :=
  Calls.bind (Progress.calls_unlocked hl tid category hfind) fun _ => Calls.done _

theorem Lifecycle.calls_getForTeam (pid tid : String)
    (hfind : ∀ f : Filter, f.tid = some tid → P (.findSubmissions f)) :
    (Lifecycle.getForTeam pid tid).Calls P := by
  refine Calls.bind (Progress.calls_unlockedPids hl tid none hfind) fun unlocked => ?_
  split
  · exact Lifecycle.calls_get hl pid false
  · exact Calls.fail _

theorem Pipeline.calls_checkUnlocked (tid pid : String)
    (hfind : ∀ f : Filter, f.tid = some tid → P (.findSubmissions f)) :
    (Pipeline.checkUnlocked tid pid).Calls P := by
  refine Calls.bind (Progress.calls_unlockedPids hl tid none hfind) fun unlocked => ?_
  split
  · exact Calls.done _
  · exact Calls.fail _

omit hl in
theorem Pipeline.calls_checkUnsolved (tid pid : String)
    (hfind : ∀ f : Filter, f.tid = some tid → P (.findSubmissions f)) :
    (Pipeline.checkUnsolved tid pid).Calls P := by
  refine Calls.bind (Progress.calls_solvedPids tid none hfind) fun solved => ?_
  split
  · exact Calls.fail _
  · exact Calls.done _

theorem Pipeline.calls_resolveUser (uid : String) : (Pipeline.resolveUser uid).Calls P := by
  refine Calls.call_bind (hl _ trivial) fun found => ?_
  cases found with
  | none => exact Calls.fail _
  | some u => exact Calls.done _

omit hl in
theorem Pipeline.calls_checkUntried (a : Attempt)
    (hfind : ∀ f : Filter, f.tid = some a.tid → P (.findSubmissions f)) :
    (Pipeline.checkUntried a).Calls P := by
  refine Calls.call_bind (hfind _ rfl) fun earlier => ?_
  split
  · exact Calls.done _
  · exact Calls.fail _

/-- The gates in front of the verdict read, and look at no submissions but the team's. -/
theorem Pipeline.calls_submitNormalized (setup : Setup) (now : Int) (a : Attempt)
    (hfind : ∀ f : Filter, f.tid = some a.tid → P (.findSubmissions f))
    (hinsert : a.check = .ok () → ∀ p v, P (.insertSubmission (Pipeline.record now a p v))) :
    (Pipeline.submitNormalized setup now a).Calls P := by
  refine Calls.done_bind fun _ hcheck => ?_
  refine Calls.bind (Pipeline.calls_checkUnlocked hl a.tid a.pid hfind) fun _ => ?_
  refine Calls.bind (Pipeline.calls_checkUnsolved a.tid a.pid hfind) fun _ => ?_
  refine Calls.bind (Pipeline.calls_resolveUser hl a.uid) fun user => ?_
  refine Calls.bind (Pipeline.calls_checkUntried a hfind) fun _ => ?_
  refine Calls.bind (Lifecycle.calls_find hl a.pid) fun p => ?_
  refine Calls.done_bind fun v _ => ?_
  exact Calls.bind (Calls.mapFailure _ (Calls.call _ (hinsert hcheck p v))) fun _ => Calls.done _

theorem Pipeline.calls_submit (setup : Setup) (now : Int) (a : Attempt)
    (hfind : ∀ f : Filter, f.tid = some a.tid → P (.findSubmissions f))
    (hinsert : a.normalized.check = .ok () →
      ∀ p v, P (.insertSubmission (Pipeline.record now a.normalized p v))) :
    (Pipeline.submit setup now a).Calls P := by
  rw [← Attempt.normalized_tid] at hfind
  exact Pipeline.calls_submitNormalized hl setup now a.normalized hfind hinsert

theorem Pipeline.calls_preview (setup : Setup) (pid key : String) (uid : Option String) :
    (Pipeline.preview setup pid key uid).Calls P :=
  Calls.bind (Lifecycle.calls_find hl pid) fun _ => Calls.done _

omit hl in
theorem Regrade.calls_regradeKey (setup : Setup) (pid grader : String) (found : List Submission)
    (key : String)
    (hset : ∀ v, setup.registry.grade grader none key = .ok v →
      P (.setCorrect (((Filter.forProblem pid).withKey key).withVerdict (!v.correct)) v.correct)) :
    (Regrade.regradeKey setup pid grader found key).Calls P := by
  unfold Regrade.regradeKey
  split
  · exact Calls.done _
  · next v hv =>
    split
    · exact Calls.done _
    · refine Calls.bind (Calls.attempt (Calls.call _ (hset v hv))) fun answer => ?_
      split <;> exact Calls.done _

omit hl in
theorem Regrade.calls_regradeKeys (setup : Setup) (pid grader : String) (found : List Submission)
    (hset : ∀ key v, setup.registry.grade grader none key = .ok v →
      P (.setCorrect (((Filter.forProblem pid).withKey key).withVerdict (!v.correct)) v.correct))
    (keys : List String) (teams : TextSet) :
    (Regrade.regradeKeys setup pid grader found keys teams).Calls P := by
  induction keys generalizing teams with
  | nil => exact Calls.done _
  | cons key r ih =>
    exact Calls.bind (Regrade.calls_regradeKey setup pid grader found key (hset key))
      fun _ => ih _

theorem Regrade.calls_reevaluate (setup : Setup) (pid : String)
    (hfind : P (.findSubmissions (Filter.forProblem pid)))
    (hset : ∀ key correct,
      P (.setCorrect (((Filter.forProblem pid).withKey key).withVerdict (!correct)) correct)) :
    (Regrade.reevaluate setup pid).Calls P := by
  refine Calls.bind (Lifecycle.calls_find hl pid) fun p => ?_
  split
  · exact Calls.fail _
  · refine Calls.call_bind hfind fun found => ?_
    exact Calls.bind (Regrade.calls_regradeKeys setup pid p.grader found
      (fun key v _ => hset key v.correct) _ _) fun _ => Calls.done _

omit hl in
theorem Upkeep.calls_correctSubmissions (query : Query)
    (hfind : P (.findSubmissions (query.toFilter.withVerdict true))) :
    (Upkeep.correctSubmissions query).Calls P :=
  Calls.ite (fun _ => Calls.call (.findSubmissions _) hfind) fun _ => Calls.fail _

end Programs

/-! ## The calls of an operation -/

namespace Operation

open Program

/-- **An operation makes no calls but those listed for it**, whatever the store answers. -/
theorem calls_program (setup : Setup) (o : Operation) :
    (o.program setup).Calls (o.Makes setup) := by
  have hl : ∀ c : Call, c.IsLookup → o.Makes setup c := fun c => makes_of_isLookup setup o
  -- the submissions that an operation for a team looks at are the team's
  have hteam : ∀ tid, o.team? = some tid →
      ∀ f : Submission.Filter, f.tid = some tid → o.Makes setup (.findSubmissions f) := by
    intro tid ho f hf tid' ho'
    rw [ho] at ho'
    rw [hf, ho']
  cases o with
  | insert doc =>
    exact Lifecycle.calls_insert hl setup doc fun draft hdraft hgrader =>
      ⟨Or.inl ⟨doc, rfl⟩, doc, draft, hdraft, hgrader, rfl⟩
  | update pid changes =>
    exact Lifecycle.calls_update hl setup pid changes fun stored draft hdraft =>
      ⟨Or.inl ⟨pid, changes, rfl⟩, stored, changes, draft, hdraft, rfl⟩
  | setDisabled pid disabled =>
    exact Lifecycle.calls_update hl setup pid _ fun stored draft hdraft =>
      ⟨Or.inr ⟨pid, disabled, rfl⟩, stored, _, draft, hdraft, rfl⟩
  | remove pid => exact Lifecycle.calls_remove hl pid rfl
  | importText text =>
    exact Lifecycle.calls_importText hl setup text fun doc draft hdraft hgrader =>
      ⟨Or.inr ⟨text, rfl⟩, doc, draft, hdraft, hgrader, rfl⟩
  | integrity => exact Calls.call_bind (hl _ trivial) fun _ => Calls.done _
  | get pid showDisabled => exact Lifecycle.calls_get hl pid showDisabled
  | getNamed name showDisabled => exact Lifecycle.calls_getNamed hl name showDisabled
  | getForTeam pid tid => exact Lifecycle.calls_getForTeam hl pid tid (hteam tid rfl)
  | list category disabled => exact Calls.call (.listProblems _) trivial
  | search conditions => exact Calls.call_bind (hl _ trivial) fun _ => Calls.done _
  | solvedPids tid category => exact Progress.calls_solvedPids tid category (hteam tid rfl)
  | solvedProblems tid category =>
    exact Progress.calls_solvedProblems hl tid category (hteam tid rfl)
  | unlockedPids tid category => exact Progress.calls_unlockedPids hl tid category (hteam tid rfl)
  | unlockedProblems tid category =>
    exact Calls.bind (Progress.calls_unlocked hl tid category (hteam tid rfl)) fun _ => Calls.done _
  | submit now a =>
    exact Pipeline.calls_submit hl setup now a (hteam a.tid rfl) fun hcheck p v =>
      ⟨now, a, p, v, rfl, hcheck, rfl⟩
  | preview pid key uid => exact Pipeline.calls_preview hl setup pid key uid
  | reevaluate pid =>
    exact Regrade.calls_reevaluate hl setup pid (fun tid ho => by cases ho) fun key correct =>
      Or.inr ⟨pid, key, rfl, rfl⟩
  | invalidate query =>
    exact Calls.call (.setCorrect _ _) (Or.inl ⟨query, rfl, rfl, rfl⟩)
  | clear uid tid =>
    cases uid with
    | some uid => exact Calls.call (.deleteSubmissions _) (Or.inl ⟨uid, tid, rfl, rfl⟩)
    | none =>
      cases tid with
      | some tid =>
        exact Calls.call (.deleteSubmissions _) (Or.inr (Or.inl ⟨tid, rfl, rfl⟩))
      | none => exact Calls.fail _
  | clearAll => exact Calls.call (.deleteSubmissions _) (Or.inr (Or.inr ⟨rfl, rfl⟩))
  | submissions query => exact Calls.call (.findSubmissions _) fun tid ho => ho
  | correctSubmissions query =>
    exact Upkeep.calls_correctSubmissions query fun tid ho => ho

end Operation

end CaptureTheFlag
