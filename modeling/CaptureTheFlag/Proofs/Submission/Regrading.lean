import CaptureTheFlag.Proofs.Submission.Gates
import CaptureTheFlag.Submission.Regrade
import Mathlib.Data.List.Forall2

/-!
# Judging again sets every verdict right

A problem is judged again key by key: the submissions are looked up once, and then each key has its
verdict set by a call of its own.  Some of these calls may fail, and some keys may get no verdict.
What all the calls together come to is said here submission by submission.

* `Program.Interference.stuckOn`: setting verdicts fails on some keys.
* `Regrade.Turns`: what becomes of one submission, with one case for a new verdict and one for each
  reason to leave it alone.
* `Regrade.settle`: the same as a function.
* `Regrade.run_regradeKey`, `Regrade.run_regradeKeys`: what one key and what all keys come to.
* `Regrade.run_reevaluate`: what judging a problem again comes to.
* `regraded_of_stored`: together, and that judging once more changes nothing.

## Why the keys do not disturb each other

The teams are told from the submissions that were looked up at the start, and the verdicts are set
in the store as it is by then.  The two must speak of the same submissions at every key.  What
carries the induction over the keys is that setting the verdicts of one key leaves the submissions
of all other keys in place, so that for a key whose turn is still to come the look-up is as good as
new (`Regrade.mem_map_settleOn`).  No key has two turns, since they come in strictly ascending
order.
-/

namespace CaptureTheFlag

open Program

/-! ## Verdicts that cannot be set -/

/-- Verdicts on some keys cannot be set, each for a reason of its own.  Every other call reaches the
store. -/
def Program.Interference.stuckOn (stuck : String → Option Failure) : Interference
  | .setCorrect f _ => (f.key.bind stuck).map .error
  | _ => Option.none

theorem Program.Interference.stuckOn_setCorrect (stuck : String → Option Failure)
    {f : Submission.Filter} {key : String} (hkey : f.key = some key) (correct : Bool) :
    Interference.stuckOn stuck (.setCorrect f correct) = (stuck key).map .error := by
  show (f.key.bind stuck).map _ = _
  rw [hkey]
  rfl

/-- Where nothing is stuck every call reaches the store. -/
theorem Program.Interference.stuckOn_none :
    Interference.stuckOn (fun _ => Option.none) = Interference.none := by
  funext c
  cases c with
  | setCorrect f correct =>
    show (f.key.bind fun _ => Option.none).map _ = Option.none
    cases f.key <;> rfl
  | _ => rfl

theorem Program.Interference.stuckOn_of_isRead (stuck : String → Option Failure) {c : Call}
    (hc : c.IsRead) : Interference.stuckOn stuck c = Option.none := by
  cases c <;> first | rfl | exact hc.elim

namespace Regrade

variable (setup : Setup) (stuck : String → Option Failure) (p : Problem)

/-! ## One submission -/

/-- What becomes of a submission when a problem is judged again.  It gets the verdict on its key if
it is one for the problem, if its key has a verdict, and if verdicts on the key can be set. -/
inductive Turns : Submission → Submission → Prop where
  | judged {x : Submission} {v : Verdict} (hpid : x.pid = p.pid) (hfree : stuck x.key = none)
      (h : setup.registry.Judges p.grader none x.key v) : Turns x { x with correct := v.correct }
  | otherProblem {x : Submission} (h : x.pid ≠ p.pid) : Turns x x
  | stuckKey {x : Submission} (h : stuck x.key ≠ none) : Turns x x
  | unjudged {x : Submission} (h : ∀ v, ¬setup.registry.Judges p.grader none x.key v) : Turns x x

/-- The verdict on a submission after the problem is judged again. -/
def newVerdict (x : Submission) : Bool :=
  if x.pid = p.pid ∧ stuck x.key = none then
    match setup.registry.grade p.grader none x.key with
    | .ok v => v.correct
    | .error _ => x.correct
  else x.correct

/-- A submission after the problem is judged again. -/
def settle (x : Submission) : Submission := { x with correct := newVerdict setup stuck p x }

variable {setup stuck p}

theorem newVerdict_of_ok {x : Submission} {v : Verdict} (hpid : x.pid = p.pid)
    (hfree : stuck x.key = none) (h : setup.registry.grade p.grader none x.key = .ok v) :
    newVerdict setup stuck p x = v.correct := by
  rw [newVerdict, if_pos ⟨hpid, hfree⟩, h]

theorem newVerdict_of_error {x : Submission} {refusal : Grader.Refusal}
    (h : setup.registry.grade p.grader none x.key = .error refusal) :
    newVerdict setup stuck p x = x.correct := by
  rw [newVerdict, h]
  split <;> rfl

theorem newVerdict_of_pid_ne {x : Submission} (h : x.pid ≠ p.pid) :
    newVerdict setup stuck p x = x.correct := by
  rw [newVerdict, if_neg fun hx => h hx.1]

theorem newVerdict_of_stuck {x : Submission} (h : stuck x.key ≠ none) :
    newVerdict setup stuck p x = x.correct := by
  rw [newVerdict, if_neg fun hx => h hx.2]

theorem settle_of_newVerdict {x : Submission} (h : newVerdict setup stuck p x = x.correct) :
    settle setup stuck p x = x := by
  rw [settle, h]

/-- The function does what the relation says. -/
theorem turns_settle (x : Submission) : Turns setup stuck p x (settle setup stuck p x) := by
  by_cases hpid : x.pid = p.pid
  case neg =>
    rw [settle_of_newVerdict (newVerdict_of_pid_ne hpid)]
    exact .otherProblem hpid
  by_cases hfree : stuck x.key = none
  case neg =>
    rw [settle_of_newVerdict (newVerdict_of_stuck hfree)]
    exact .stuckKey hfree
  cases hgrade : setup.registry.grade p.grader none x.key with
  | ok v =>
    rw [settle, newVerdict_of_ok hpid hfree hgrade]
    exact .judged hpid hfree ((setup.registry.grade_eq_ok_iff _ _ _ v).1 hgrade)
  | error refusal =>
    rw [settle_of_newVerdict (newVerdict_of_error hgrade)]
    refine .unjudged fun v hv => ?_
    rw [(setup.registry.grade_eq_ok_iff _ _ _ v).2 hv] at hgrade
    cases hgrade

/-- A verdict that is right stays. -/
theorem newVerdict_settle (x : Submission) :
    newVerdict setup stuck p (settle setup stuck p x) = newVerdict setup stuck p x := by
  by_cases hpid : x.pid = p.pid
  case neg => rw [settle_of_newVerdict (newVerdict_of_pid_ne hpid)]
  by_cases hfree : stuck x.key = none
  case neg => rw [settle_of_newVerdict (newVerdict_of_stuck hfree)]
  cases hgrade : setup.registry.grade p.grader none x.key with
  | ok v =>
    have hsettled : newVerdict setup stuck p (settle setup stuck p x) = v.correct :=
      newVerdict_of_ok (x := settle setup stuck p x) hpid hfree hgrade
    rw [hsettled, newVerdict_of_ok hpid hfree hgrade]
  | error refusal => rw [settle_of_newVerdict (newVerdict_of_error hgrade)]

/-! ## The submissions of some keys -/

variable (setup stuck p)

/-- A submission after some keys have had their turn. -/
def settleOn (keys : List String) (x : Submission) : Submission :=
  if x.key ∈ keys then settle setup stuck p x else x

variable {setup stuck p}

theorem settleOn_of_mem {keys : List String} {x : Submission} (h : x.key ∈ keys) :
    settleOn setup stuck p keys x = settle setup stuck p x := if_pos h

theorem settleOn_of_not_mem {keys : List String} {x : Submission} (h : x.key ∉ keys) :
    settleOn setup stuck p keys x = x := if_neg h

theorem key_settleOn (keys : List String) (x : Submission) :
    (settleOn setup stuck p keys x).key = x.key := by
  unfold settleOn
  split <;> rfl

/-- One key has its turn, and then others. -/
theorem settleOn_cons {key : String} {r : List String} (h : key ∉ r) (x : Submission) :
    settleOn setup stuck p r (settleOn setup stuck p [key] x) =
      settleOn setup stuck p (key :: r) x := by
  by_cases hx : x.key = key
  · have hr : (settleOn setup stuck p [key] x).key ∉ r := by
      rw [key_settleOn, hx]
      exact h
    rw [settleOn_of_not_mem hr, settleOn_of_mem (List.mem_singleton.2 hx),
      settleOn_of_mem (List.mem_cons.2 (Or.inl hx))]
  · have hother : x.key ∉ [key] := List.mem_singleton.not.2 hx
    rw [settleOn_of_not_mem hother]
    by_cases hr : x.key ∈ r
    · rw [settleOn_of_mem hr, settleOn_of_mem (List.mem_cons_of_mem _ hr)]
    · rw [settleOn_of_not_mem hr, settleOn_of_not_mem (List.mem_cons.not.2 (not_or.2 ⟨hx, hr⟩))]

/-- A submission whose key has had no turn is where it was. -/
theorem mem_map_settleOn {keys : List String} {x : Submission} (h : x.key ∉ keys)
    (l : List Submission) : x ∈ l.map (settleOn setup stuck p keys) ↔ x ∈ l := by
  rw [List.mem_map]
  constructor
  · rintro ⟨y, hy, rfl⟩
    rw [key_settleOn] at h
    rw [settleOn_of_not_mem h]
    exact hy
  · intro hx
    exact ⟨x, hx, settleOn_of_not_mem h⟩

/-! ## One key -/

variable (setup stuck p) in
/-- The submissions with a key whose verdict changes. -/
def changing (found : List Submission) (key : String) : List Submission :=
  found.filter fun x => x.key = key && newVerdict setup stuck p x ≠ x.correct

variable {s : Store} {found : List Submission} {key : String}

theorem mem_changing {x : Submission} : x ∈ changing setup stuck p found key ↔
    x ∈ found ∧ x.key = key ∧ newVerdict setup stuck p x ≠ x.correct := by
  unfold changing
  rw [List.mem_filter, Bool.and_eq_true, decide_eq_true_eq, decide_eq_true_eq]

theorem changing_of_right
    (h : ∀ x ∈ found, x.key = key → newVerdict setup stuck p x = x.correct) :
    changing setup stuck p found key = [] := by
  refine List.eq_nil_iff_forall_not_mem.2 fun x hx => ?_
  obtain ⟨hx, hkey, hchange⟩ := mem_changing.1 hx
  exact hchange (h x hx hkey)

/-- A turn at which no verdict changes leaves everything as it is. -/
theorem map_settleOn_of_right {l : List Submission}
    (h : ∀ x ∈ l, x.key = key → newVerdict setup stuck p x = x.correct) :
    l.map (settleOn setup stuck p [key]) = l := by
  refine (List.map_congr_left fun x hx => ?_).trans (List.map_id l)
  by_cases hkey : x.key = key
  · rw [settleOn_of_mem (List.mem_singleton.2 hkey), settle_of_newVerdict (h x hx hkey)]
    rfl
  · rw [settleOn_of_not_mem (List.mem_singleton.not.2 hkey)]
    rfl

/-- The filter of a turn selects the submissions of the problem that have the key and the other
verdict. -/
theorem selects_turn (pid : String) (correct : Bool) (x : Submission) :
    (((Submission.Filter.forProblem pid).withKey key).withVerdict (!correct)).selects x = true ↔
      x.pid = pid ∧ x.key = key ∧ x.correct ≠ correct := by
  rw [Submission.Filter.selects_iff]
  simp only [Submission.Filter.withVerdict, Submission.Filter.withKey, Submission.Filter.forProblem,
    Submission.Filter.admits_none, Submission.Filter.admits_some, true_and, decide_eq_true_eq]
  constructor
  · rintro ⟨hpid, hkey, hcorrect⟩
    exact ⟨hpid.symm, hkey.symm, Bool.eq_not.1 hcorrect.symm⟩
  · rintro ⟨hpid, hkey, hcorrect⟩
    exact ⟨hpid.symm, hkey.symm, (Bool.eq_not.2 hcorrect).symm⟩

/-- Where the verdict on the key can be set, the call of the turn settles the key's submissions. -/
theorem map_setCorrect {v : Verdict} (hfree : stuck key = none)
    (hgrade : setup.registry.grade p.grader none key = .ok v) (x : Submission) :
    (if (((Submission.Filter.forProblem p.pid).withKey key).withVerdict (!v.correct)).selects x
      then { x with correct := v.correct } else x) = settleOn setup stuck p [key] x := by
  by_cases hkey : x.key = key
  case neg =>
    rw [settleOn_of_not_mem (List.mem_singleton.not.2 hkey),
      if_neg fun h => hkey ((selects_turn _ _ x).1 h).2.1]
  rw [settleOn_of_mem (List.mem_singleton.2 hkey)]
  by_cases hpid : x.pid = p.pid
  case neg =>
    rw [settle_of_newVerdict (newVerdict_of_pid_ne hpid),
      if_neg fun h => hpid ((selects_turn _ _ x).1 h).1]
  subst hkey
  have hnew := newVerdict_of_ok hpid hfree hgrade
  by_cases hcorrect : x.correct = v.correct
  · rw [settle_of_newVerdict (hnew.trans hcorrect.symm),
      if_neg fun h => ((selects_turn _ _ x).1 h).2.2 hcorrect]
  · rw [if_pos ((selects_turn _ _ x).2 ⟨hpid, rfl, hcorrect⟩), settle, hnew]

/-- The submissions that are found stale are those whose verdict changes. -/
theorem stale_eq_changing {v : Verdict} (hfree : stuck key = none)
    (hgrade : setup.registry.grade p.grader none key = .ok v)
    (hfound : ∀ x ∈ found, x.key = key → x.pid = p.pid) :
    stale found key v.correct = changing setup stuck p found key := by
  unfold stale changing
  refine List.filter_congr fun x hx => ?_
  by_cases hkey : x.key = key
  · subst hkey
    rw [newVerdict_of_ok (hfound x hx rfl) hfree hgrade, decide_eq_decide.2 ne_comm]
  · rw [decide_eq_false hkey, Bool.false_and, Bool.false_and]

/-- **One key has its turn**: where the look-up is still good for the key, its submissions are
settled, and the teams of those whose verdict changes are returned. -/
theorem run_regradeKey (setup : Setup) (stuck : String → Option Failure) {p : Problem}
    (hfound : ∀ x, x.key = key → (x ∈ found ↔ x ∈ s.submissions ∧ x.pid = p.pid)) :
    (regradeKey setup p.pid p.grader found key).run (.stuckOn stuck) s =
      (.ok ((changing setup stuck p found key).map (·.tid)),
        { s with submissions := s.submissions.map (settleOn setup stuck p [key]) }) := by
  -- a turn that sets no verdict, for whatever reason
  have hidle (h : ∀ x ∈ s.submissions, x.key = key → newVerdict setup stuck p x = x.correct) :
      (Except.ok [], s) = ((Except.ok ((changing setup stuck p found key).map (·.tid)) :
          Except Failure (List String)),
        { s with submissions := s.submissions.map (settleOn setup stuck p [key]) }) := by
    rw [map_settleOn_of_right h, changing_of_right fun x hx hkey =>
      h x ((hfound x hkey).1 hx).1 hkey]
    rfl
  unfold regradeKey
  cases hgrade : setup.registry.grade p.grader none key with
  | error refusal =>
    refine hidle fun x _ hkey => ?_
    rw [← hkey] at hgrade
    exact newVerdict_of_error hgrade
  | ok v =>
    dsimp only
    let turn := ((Submission.Filter.forProblem p.pid).withKey key).withVerdict (!v.correct)
    have hturn : turn.key = some key := rfl
    have hanswer := Interference.stuckOn_setCorrect stuck hturn v.correct
    by_cases hfree : stuck key = none
    case neg =>
      have hright : ∀ x ∈ s.submissions, x.key = key → newVerdict setup stuck p x = x.correct :=
        fun x _ hkey => newVerdict_of_stuck (by rw [hkey]; exact hfree)
      obtain ⟨e, he⟩ := Option.ne_none_iff_exists'.1 hfree
      rw [he] at hanswer
      cases stale found key v.correct with
      | nil => exact hidle hright
      | cons y r => exact (run_attempt_call_of_some hanswer _ s).trans (hidle hright)
    rw [hfree] at hanswer
    have hchanging := stale_eq_changing hfree hgrade fun x hx hkey => ((hfound x hkey).1 hx).2
    cases hstale : stale found key v.correct with
    | nil =>
      refine hidle fun x hx hkey => ?_
      by_contra hchange
      have hpid : x.pid = p.pid := by
        by_contra hpid
        exact hchange (newVerdict_of_pid_ne hpid)
      have hmem := mem_changing.2 ⟨(hfound x hkey).2 ⟨hx, hpid⟩, hkey, hchange⟩
      rw [← hchanging, hstale] at hmem
      cases hmem
    | cons y r =>
      refine (run_attempt_call_of_none hanswer _ s).trans ?_
      rw [← hchanging, hstale]
      show _ = (_, { s with submissions := s.submissions.map (settleOn setup stuck p [key]) })
      rw [← List.map_congr_left fun x _ => map_setCorrect hfree hgrade x]
      rfl

/-! ## All keys -/

/-- **All keys have their turns**: their submissions are settled, and the teams are those so far and
those of the submissions whose verdict changes.  The induction is on the keys; the turn of one key
leaves the look-up good for the others. -/
theorem run_regradeKeys (setup : Setup) (stuck : String → Option Failure) {p : Problem}
    {keys : List String} (hnodup : keys.Nodup)
    (hfound : ∀ x, x.key ∈ keys → (x ∈ found ↔ x ∈ s.submissions ∧ x.pid = p.pid))
    (teams : TextSet) :
    ∃ teams', (regradeKeys setup p.pid p.grader found keys teams).run (.stuckOn stuck) s =
        (.ok teams', { s with submissions := s.submissions.map (settleOn setup stuck p keys) }) ∧
      ∀ tid, teams'.contains tid = true ↔ teams.contains tid = true ∨
        ∃ x ∈ found, x.key ∈ keys ∧ x.tid = tid ∧ newVerdict setup stuck p x ≠ x.correct := by
  induction keys generalizing s teams with
  | nil =>
    refine ⟨teams, ?_, fun tid => ?_⟩
    · have hmap : s.submissions.map (settleOn setup stuck p []) = s.submissions :=
        (List.map_congr_left fun x _ => settleOn_of_not_mem List.not_mem_nil).trans (List.map_id _)
      rw [hmap]
      rfl
    · simp
  | cons key r ih =>
    obtain ⟨hkey, hr⟩ := List.nodup_cons.1 hnodup
    have hfirst : ∀ x, x.key = key → (x ∈ found ↔ x ∈ s.submissions ∧ x.pid = p.pid) :=
      fun x hx => hfound x (List.mem_cons.2 (Or.inl hx))
    have hturn := run_regradeKey setup stuck hfirst
    obtain ⟨teams', hrun, hteams⟩ := ih hr
      (s := { s with submissions := s.submissions.map (settleOn setup stuck p [key]) })
      (fun x hx => by
        have hne : x.key ∉ [key] := fun h => hkey (List.mem_singleton.1 h ▸ hx)
        rw [mem_map_settleOn hne]
        exact hfound x (List.mem_cons_of_mem _ hx))
      (teams.addAll ((changing setup stuck p found key).map (·.tid)))
    refine ⟨teams', ?_, fun tid => ?_⟩
    · have hturns : settleOn setup stuck p r ∘ settleOn setup stuck p [key] =
          settleOn setup stuck p (key :: r) := funext (settleOn_cons hkey)
      unfold regradeKeys
      rw [bind_eq, run_bind_of_ok hturn, hrun, List.map_map, hturns]
    · rw [hteams, TextSet.contains_addAll, Bool.or_eq_true, decide_eq_true_eq, List.mem_map]
      simp only [mem_changing, List.mem_cons]
      constructor
      · rintro ((⟨x, ⟨hx, hk, hchange⟩, htid⟩ | h) | ⟨x, hx, hk, htid, hchange⟩)
        · exact Or.inr ⟨x, hx, Or.inl hk, htid, hchange⟩
        · exact Or.inl h
        · exact Or.inr ⟨x, hx, Or.inr hk, htid, hchange⟩
      · rintro (h | ⟨x, hx, hk | hk, htid, hchange⟩)
        · exact Or.inl (Or.inr h)
        · exact Or.inl (Or.inl ⟨x, ⟨hx, hk, hchange⟩, htid⟩)
        · exact Or.inr ⟨x, hx, hk, htid, hchange⟩

/-! ## A problem -/

variable (setup stuck p s) in
/-- The teams with a submission whose verdict changes when the problem is judged again. -/
def affected : TextSet :=
  TextSet.ofList <|
    (s.submissions.filter fun x => newVerdict setup stuck p x ≠ x.correct).map (·.tid)

theorem mem_affected (tid : String) : tid ∈ (affected setup stuck p s).toList ↔
    ∃ x ∈ s.submissions, x.tid = tid ∧ newVerdict setup stuck p x ≠ x.correct := by
  unfold affected
  rw [TextSet.mem_toList_ofList, List.mem_map]
  constructor
  · rintro ⟨x, hx, htid⟩
    obtain ⟨hx, hchange⟩ := List.mem_filter.1 hx
    exact ⟨x, hx, htid, of_decide_eq_true hchange⟩
  · rintro ⟨x, hx, htid, hchange⟩
    exact ⟨x, List.mem_filter.2 ⟨hx, decide_eq_true hchange⟩, htid⟩

/-- **A problem is judged again**: its submissions are settled, and the teams of those whose verdict
changes are returned. -/
theorem run_reevaluate (setup : Setup) (stuck : String → Option Failure) {p : Problem}
    (hp : s.problem? p.pid = some p) (hauto : p.autogen = false) :
    (reevaluate setup p.pid).run (.stuckOn stuck) s =
      (.ok (affected setup stuck p s).toList,
        { s with submissions := s.submissions.map (settle setup stuck p) }) := by
  have hread : ∀ c : Call, c.IsRead → Interference.stuckOn stuck c = none :=
    fun c hc => Interference.stuckOn_of_isRead stuck hc
  have hfind : (Lifecycle.find p.pid).run (.stuckOn stuck) s = (.ok p, s) := by
    rw [run_eq_of_calls (Lifecycle.calls_find (fun c hc => hread c hc.isRead) p.pid)]
    rcases Lifecycle.run_find s p.pid with ⟨hnone, -⟩ | ⟨p', hp', hrun⟩
    · rw [hp] at hnone
      cases hnone
    · rw [hrun, Option.some.inj (hp.symm.trans hp')]
  -- the look-up finds the submissions for the problem
  let found := s.submissionsWhere (Submission.Filter.forProblem p.pid)
  have hlookup : (Program.call (.findSubmissions (Submission.Filter.forProblem p.pid))).run
      (.stuckOn stuck) s = (.ok found, s) := by
    rw [run_eq_of_calls (Calls.call _ (hread (.findSubmissions _) trivial)), run_call]
    rfl
  have hfound : ∀ x, x ∈ found ↔ x ∈ s.submissions ∧ x.pid = p.pid := by
    intro x
    rw [s.mem_submissionsWhere, Submission.Filter.selects_iff]
    simp [Submission.Filter.forProblem, eq_comm]
  let keys := (TextSet.ofList (found.map Submission.key)).toList
  have hkeys : ∀ x ∈ found, x.key ∈ keys := fun x hx =>
    (TextSet.mem_toList_ofList _ _).2 (List.mem_map_of_mem hx)
  have hnodup : keys.Nodup := TextSet.toList_nodup _
  obtain ⟨teams, hrun, hteams⟩ :=
    run_regradeKeys setup stuck hnodup (fun x _ => hfound x) .empty
  have hsettled : s.submissions.map (settleOn setup stuck p keys) =
      s.submissions.map (settle setup stuck p) := by
    refine List.map_congr_left fun x hx => ?_
    by_cases hpid : x.pid = p.pid
    · exact settleOn_of_mem (hkeys x ((hfound x).2 ⟨hx, hpid⟩))
    · unfold settleOn
      rw [settle_of_newVerdict (newVerdict_of_pid_ne hpid), ite_self]
  have haffected : teams = affected setup stuck p s := by
    refine TextSet.ext_contains fun tid => ?_
    rw [hteams, ← TextSet.mem_toList_iff (affected setup stuck p s), mem_affected]
    constructor
    · rintro (h | ⟨x, hx, -, htid, hchange⟩)
      · cases h
      · exact ⟨x, ((hfound x).1 hx).1, htid, hchange⟩
    · rintro ⟨x, hx, htid, hchange⟩
      have hpid : x.pid = p.pid := by
        by_contra hpid
        exact hchange (newVerdict_of_pid_ne hpid)
      have hx' := (hfound x).2 ⟨hx, hpid⟩
      exact Or.inr ⟨x, hx', hkeys x hx', htid, hchange⟩
  unfold reevaluate
  rw [bind_eq, run_bind_of_ok hfind, hauto]
  show (Program.bind _ _).run _ s = _
  rw [run_bind_of_ok hlookup]
  show (Program.bind _ _).run _ s = _
  rw [run_bind_of_ok hrun, hsettled, haffected]
  rfl

/-- Where every verdict is right already, no team is returned and nothing changes. -/
theorem run_reevaluate_of_right (setup : Setup) (stuck : String → Option Failure) {p : Problem}
    (hp : s.problem? p.pid = some p) (hauto : p.autogen = false)
    (h : ∀ x ∈ s.submissions, newVerdict setup stuck p x = x.correct) :
    (reevaluate setup p.pid).run (.stuckOn stuck) s = (.ok [], s) := by
  have hteams : (affected setup stuck p s).toList = [] := by
    refine List.eq_nil_iff_forall_not_mem.2 fun tid htid => ?_
    obtain ⟨x, hx, -, hchange⟩ := (mem_affected tid).1 htid
    exact hchange (h x hx)
  have hsettled : s.submissions.map (settle setup stuck p) = s.submissions :=
    (List.map_congr_left fun x hx => settle_of_newVerdict (h x hx)).trans (List.map_id _)
  rw [run_reevaluate setup stuck hp hauto, hteams, hsettled]

/-- Judging a problem again has led from one store to another and has returned these teams: every
submission is in its place and has become what it should, and the teams are those of the submissions
whose verdict has changed, in ascending order. -/
structure Regraded (setup : Setup) (stuck : String → Option Failure) (p : Problem) (s s' : Store)
    (teams : List String) : Prop where
  problems : s'.problems = s.problems
  users : s'.users = s.users
  turns : List.Forall₂ (Turns setup stuck p) s.submissions s'.submissions
  ascending : teams.Pairwise (· < ·)
  mem_teams : ∀ tid, tid ∈ teams ↔
    ∃ xy ∈ s.submissions.zip s'.submissions, xy.1.tid = tid ∧ xy.1.correct ≠ xy.2.correct

theorem regraded_settle : Regraded setup stuck p s
    { s with submissions := s.submissions.map (settle setup stuck p) }
    (affected setup stuck p s).toList where
  problems := rfl
  users := rfl
  turns := List.forall₂_map_right_iff.2 (List.forall₂_same.2 fun x _ => turns_settle x)
  ascending := TextSet.toList_ascending _
  mem_teams tid := by
    rw [mem_affected, ← List.map_prod_left_eq_zip]
    constructor
    · rintro ⟨x, hx, htid, hchange⟩
      exact ⟨_, List.mem_map_of_mem hx, htid, Ne.symm hchange⟩
    · rintro ⟨xy, hxy, htid, hchange⟩
      obtain ⟨x, hx, rfl⟩ := List.mem_map.1 hxy
      exact ⟨x, hx, htid, Ne.symm hchange⟩

end Regrade

open Regrade in
/-- **Judging a problem again is exact**: in every reachable store, with any graders, and whichever
keys are stuck, a stored problem that is not autogenerated is judged again without a failure.  The
submissions that can be judged and set have the verdict of the grader behind it, all others are what
they were, and the teams returned are those with a submission whose verdict has changed.  Judging
the problem once more returns no team and changes nothing. -/
theorem regraded_of_stored {s : Store} (hs : s.Reachable) (setup : Setup)
    (stuck : String → Option Failure) {p : Problem} (hp : p ∈ s.problems.values)
    (hauto : p.autogen = false) :
    ∃ teams s', (reevaluate setup p.pid).run (.stuckOn stuck) s = (.ok teams, s') ∧
      Regraded setup stuck p s s' teams ∧
      (reevaluate setup p.pid).run (.stuckOn stuck) s' = (.ok [], s') := by
  have hstored := hs.problem?_of_mem hp
  refine ⟨_, _, run_reevaluate setup stuck hstored hauto, regraded_settle, ?_⟩
  refine run_reevaluate_of_right setup stuck hstored hauto fun x hx => ?_
  obtain ⟨y, -, rfl⟩ := List.mem_map.1 hx
  exact newVerdict_settle y

namespace Sample

/-- The problem of the competition, as it is stored. -/
def problem : Problem where
  pid := Problem.pidOf "Warmup"
  name := "Warmup"
  score := 50
  category := "misc"
  grader := "hidden"
  description := "Look around."
  threshold := 0
  disabled := false
  autogen := false
  tags := []
  hint := none
  relatedProblems := []
  weightmap := .empty

/-- One team has sent in the flag.  Another has sent in a wrong key first. -/
def triedStore : Store :=
  let submit (now : Int) (tid key : String) (s : Store) : Store :=
    ((Operation.submit now { attempt with tid, key }).program setup |>.run .none s).2
  store |> submit 1 "red" "flag" |> submit 2 "blue" "glaf" |> submit 3 "blue" "flag"

theorem served_triedStore : triedStore.Served :=
  Store.Served.operation _ _ (.operation _ _ (.operation _ _ served_store))

/-- The grader of the problem is another one. -/
def otherSetup : Setup :=
  ⟨(Registry.empty 1000).register "hidden" (Grader.flag {} "glaf" false), true⟩

end Sample

/-- The flag of a problem has become another one, and verdicts on the flag that it was cannot be
set.  Only the team that has sent in what is the flag now is affected. -/
theorem regraded_of_other_flag :
    let stuck (key : String) := if key = "flag" then some (Failure.ofDatabase .noRow) else none
    let out := (Regrade.reevaluate Sample.otherSetup Sample.problem.pid).run
      (.stuckOn stuck) Sample.triedStore
    (Sample.triedStore.Reachable ∧ Sample.problem ∈ Sample.triedStore.problems.values ∧
      Sample.problem.autogen = false ∧
      ∃ teams s', out = (.ok teams, s') ∧
        Regrade.Regraded Sample.otherSetup stuck Sample.problem Sample.triedStore s' teams ∧
        (Regrade.reevaluate Sample.otherSetup Sample.problem.pid).run (.stuckOn stuck) s' =
          (.ok [], s')) ∧
    out.1.toOption = some ["blue"] ∧
    out.2.submissions.map (fun x => (x.tid, x.key, x.correct)) =
      [("red", "flag", true), ("blue", "glaf", true), ("blue", "flag", true)] := by
  intro stuck out
  have hs := Sample.served_triedStore.reachable
  have hp : Sample.problem ∈ Sample.triedStore.problems.values := by decide +kernel
  -- what the run comes to is computed without sorting what is looked up
  have hout : out = _ := Regrade.run_reevaluate Sample.otherSetup stuck (hs.problem?_of_mem hp) rfl
  refine ⟨⟨hs, hp, rfl, ?_⟩, ?_⟩
  · exact regraded_of_stored hs Sample.otherSetup stuck hp rfl
  · rw [hout]
    decide +kernel

end CaptureTheFlag
