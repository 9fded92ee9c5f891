import CaptureTheFlag.Proofs.Program.Ways
import CaptureTheFlag.Proofs.Service.History
import CaptureTheFlag.Proofs.Submission.Contention

/-!
# Different keys sent in at once

Members of a team send in different keys for the same problem at the same time, and several of the
keys are right.  Whether more than one of them is credited depends on when the others look up what
the team has solved.

* `Pipeline.callsTo_submitNormalized`: what an attempt asks before it is sent to the store.
* `Pipeline.guarded_submitNormalized`: an attempt that finds the problem solved is lost.
* `Thread.credited`: an attempt was stored as a correct one, and its submitter was told so.
* `World.LooksLate`: an attempt has looked up what the team has solved after another one, which is
  credited, was stored.
* `World.Race`: what holds after any turns; `Thread.credited_iff`: who is credited in the end.
* `both_credited_iff`: when two attempts are both credited.

## Two looks, and no lock

An attempt looks up twice what the team has solved: once to know which problems the team may see, and
once more for the gate that asks whether the problem is solved.  Nothing keeps the problem unsolved
from then on.  The store compares an attempt with what it has by team, problem and key, so it refuses
the same key and nothing else.  This is why late looks decide.  Whoever looks late is caught by the
second gate at the latest, since a correct submission stays (`World.Race.lost`).  Whoever does not is
answered all along as if it were alone: other keys change nothing but the answer to a late look
(`World.Race.alone`).
-/

namespace CaptureTheFlag

open Program

/-! ## The calls of an attempt -/

/-- What the team has solved is looked up. -/
def Call.findSolved (tid : String) : Call :=
  .findSubmissions (((Submission.Filter.forTeam tid).inCategory none).withVerdict true)

/-- What the team has sent in with this key is looked up. -/
def Call.findTried (a : Attempt) : Call :=
  .findSubmissions { pid := some a.pid, tid := some a.tid, key := some a.key }

/-- The calls that an attempt makes before it is stored. -/
def Attempt.Asks (a : Attempt) (c : Call) : Prop :=
  c.IsLookup ∨ c = .findSolved a.tid ∨ c = .findTried a

theorem Attempt.Asks.isRead {a : Attempt} {c : Call} (h : a.Asks c) : c.IsRead := by
  rcases h with h | rfl | rfl
  · exact h.isRead
  · exact trivial
  · exact trivial

namespace Pipeline

/-- The attempt has failed, or all that is left is to store it with a verdict. -/
def IsSettled (now : Int) (a : Attempt) (q : Program Result) : Prop :=
  q.Failed ∨ ∃ p v, q = storing now a p v

section Gates

variable {a : Attempt}

theorem asks_solvedPids : (Progress.solvedPids a.tid none).Calls a.Asks :=
  Calls.call_bind (Or.inr (Or.inl rfl)) fun _ => .done _

theorem asks_checkUnlocked (pid : String) : (checkUnlocked a.tid pid).Calls a.Asks := by
  have hunlocked : (Progress.unlocked a.tid none).Calls a.Asks :=
    asks_solvedPids.bind fun _ => Calls.call_bind (Or.inl trivial) fun _ => .done _
  refine Calls.bind (Calls.bind hunlocked fun _ => .done _) fun unlocked => ?_
  split <;> exact .done _

theorem asks_checkUnsolved (pid : String) : (checkUnsolved a.tid pid).Calls a.Asks := by
  refine asks_solvedPids.bind fun solved => ?_
  split <;> exact .done _

theorem asks_checkUntried : (checkUntried a).Calls a.Asks := by
  refine Calls.call_bind (Or.inr (Or.inr rfl)) fun earlier => ?_
  split <;> exact .done _

/-- **An attempt asks its questions, and then it has failed or is to be stored.** -/
theorem callsTo_submitNormalized (setup : Setup) (now : Int) (a : Attempt) :
    (submitNormalized setup now a).CallsTo a.Asks (IsSettled now a) := by
  have hl : ∀ c : Call, c.IsLookup → a.Asks c := fun c hc => Or.inl hc
  have herror : ∀ e, IsSettled now a (.done (.error e)) := fun e => Or.inl ⟨e, rfl⟩
  unfold submitNormalized
  simp only [bind_eq, lift_eq, pure_eq]
  refine CallsTo.done_bind herror fun _ _ => ?_
  refine CallsTo.bind (asks_checkUnlocked a.pid) herror fun _ => ?_
  refine CallsTo.bind (asks_checkUnsolved a.pid) herror fun _ => ?_
  refine CallsTo.bind (calls_resolveUser hl a.uid) herror fun user => ?_
  refine CallsTo.bind asks_checkUntried herror fun _ => ?_
  refine CallsTo.bind (Lifecycle.calls_find hl a.pid) herror fun p => ?_
  exact CallsTo.done_bind herror fun v _ => .reached (Or.inr ⟨p, v, rfl⟩)

/-- The gate that asks whether the problem is solved, and what is behind it. -/
theorem checkUnsolved_bind (tid pid : String) {α : Type} (f : Unit → Program α) :
    (checkUnsolved tid pid).bind f = (Program.call (.findSolved tid)).bind fun found =>
      if (TextSet.ofList (List.map (·.pid) found)).contains pid then
        .done (.error .alreadySolved)
      else f () := by
  refine congrArg (Program.ask (.findSolved tid)) (funext fun r => ?_)
  cases r with
  | error e => rfl
  | ok found =>
    show Program.bind (if _ then _ else _) f = if _ then _ else _
    split <;> rfl

/-- A solved problem is found among the problems of the team's correct submissions. -/
theorem contains_findSolved {t : Store} {tid pid : String} (ht : t.HasSolved tid pid) :
    ∃ found : List Submission, (Call.perform (.findSolved tid) t).1 = .ok found ∧
      (TextSet.ofList (found.map (·.pid))).contains pid = true := by
  obtain ⟨x, hx, htid, hpid, hcorrect⟩ := ht
  refine ⟨_, rfl, ?_⟩
  rw [TextSet.contains_ofList, decide_eq_true_iff]
  refine List.mem_map.2 ⟨x, (t.mem_submissionsWhere _ x).2 ⟨hx, ?_⟩, hpid⟩
  exact (Store.selects_solved tid none x).2 ⟨htid, hcorrect, rfl⟩

section Solved

variable (tid pid : String) {α : Type} (f : Unit → Program α)

/-- The gate is shut when the team has solved the problem. -/
theorem checkUnsolved_failed :
    ((checkUnsolved tid pid).bind f).ReadsTo (fun t => t.HasSolved tid pid) Failed := by
  rw [checkUnsolved_bind]
  refine ReadsTo.failed_of_call trivial fun t ht => ?_
  obtain ⟨found, hanswer, hcontains⟩ := contains_findSolved ht
  exact ⟨found, hanswer, _, if_pos hcontains⟩

theorem guarded_checkUnsolved
    (hf : (f ()).Guarded (fun t => t.HasSolved tid pid) (.findSolved tid)) :
    ((checkUnsolved tid pid).bind f).Guarded (fun t => t.HasSolved tid pid) (.findSolved tid) := by
  rw [checkUnsolved_bind]
  refine Guarded.call_bind (fun t ht => ?_) fun _ => ?_
  · obtain ⟨found, hanswer, hcontains⟩ := contains_findSolved ht
    exact ⟨found, hanswer, _, if_pos hcontains⟩
  · split
    · exact .done _
    · exact hf

end Solved

/-- What is left of an attempt behind the gate that asks whether the problem is solved. -/
def behindUnsolved (setup : Setup) (now : Int) (a : Attempt) : Program Result := do
  let user ← resolveUser a.uid
  checkUntried a
  let p ← Lifecycle.find a.pid
  let v ← judge setup p (some user.uid) a.key
  storing now a p v

/-- What the team has solved is not looked up again. -/
theorem calls_behindUnsolved (setup : Setup) (now : Int) (a : Attempt) :
    (behindUnsolved setup now a).Calls (· ≠ .findSolved a.tid) := by
  have hl : ∀ c : Call, c.IsLookup → c ≠ .findSolved a.tid := by
    rintro c hc rfl
    exact hc
  refine Calls.bind (calls_resolveUser hl a.uid) fun user => ?_
  refine Calls.bind (Calls.call_bind ?_ fun earlier => ?_) fun _ => ?_
  · intro h
    cases congrArg Submission.Filter.key (Call.findSubmissions.inj h)
  · split <;> exact .done _
  · refine Calls.bind (Lifecycle.calls_find hl a.pid) fun p => ?_
    refine Calls.done_bind fun v _ => ?_
    refine Calls.bind (Calls.mapFailure _ (Calls.call _ ?_)) fun _ => .done _
    intro h
    cases h

/-- **Who looks up what the team has solved, and finds the problem there, is lost.**  Behind the first
gate comes the second, which asks again. -/
theorem guarded_submitNormalized (setup : Setup) (now : Int) (a : Attempt) :
    (submitNormalized setup now a).Guarded (fun t => t.HasSolved a.tid a.pid)
      (.findSolved a.tid) := by
  have hreads : (checkUnlocked a.tid a.pid).Calls Call.IsRead :=
    (asks_checkUnlocked a.pid).mono fun _ hc => hc.isRead
  have hlost := checkUnsolved_failed a.tid a.pid fun _ => behindUnsolved setup now a
  have hbehind := guarded_checkUnsolved a.tid a.pid (fun _ => behindUnsolved setup now a)
    (.of_calls (calls_behindUnsolved setup now a))
  exact Guarded.bind (.done a.check) (fun _ => ReadsTo.failed_bind hreads fun _ => hlost) fun _ =>
    Guarded.bind hreads (fun _ => hlost) fun _ => hbehind

end Gates

/-- A question does not end with a result. -/
theorem callsTo_ne_ok {now : Int} {a : Attempt} {r : Result} :
    ¬(Program.done (.ok r)).CallsTo a.Asks (IsSettled now a) := by
  intro h
  rcases h.of_done with ⟨e, he⟩ | ⟨p, v, hstoring⟩
  · cases he
  · cases hstoring

end Pipeline

/-! ## What rivals change -/

namespace Store

/-- The store with some more submissions. -/
def withSubmissions (s : Store) (xs : List Submission) : Store :=
  { s with submissions := s.submissions ++ xs }

theorem withSubmissions_nil (s : Store) : s.withSubmissions [] = s := by
  unfold withSubmissions
  rw [List.append_nil]

theorem withSubmission_withSubmissions (s : Store) (xs : List Submission) (x : Submission) :
    (s.withSubmissions xs).withSubmission x = s.withSubmissions (xs ++ [x]) := by
  unfold withSubmission withSubmissions
  rw [List.append_assoc]

/-- Submissions that are not selected are not found. -/
theorem submissionsWhere_withSubmissions {s : Store} {xs : List Submission} {f : Submission.Filter}
    (h : ∀ x ∈ xs, ¬f.selects x = true) :
    (s.withSubmissions xs).submissionsWhere f = s.submissionsWhere f := by
  unfold submissionsWhere withSubmissions
  rw [List.filter_append, List.filter_eq_nil_iff.2 h, List.append_nil]

variable {s : Store} {xs : List Submission} {a : Attempt}

/-- Other keys do not change the answer to a question of an attempt, unless it asks what the team has
solved and one of them is correct. -/
theorem fst_perform_of_asks {c : Call} (hc : a.Asks c) (hkeys : ∀ x ∈ xs, x.key ≠ a.key)
    (hsolved : c = .findSolved a.tid → ∀ x ∈ xs, x.correct = false) :
    (c.perform (s.withSubmissions xs)).1 = (c.perform s).1 := by
  rcases hc with hc | rfl | rfl
  · cases c <;> first | rfl | exact hc.elim
  · refine congrArg Except.ok (submissionsWhere_withSubmissions fun x hx hselected => ?_)
    have hcorrect := ((selects_solved a.tid none x).1 hselected).2.1
    rw [hsolved rfl x hx] at hcorrect
    cases hcorrect
  · refine congrArg Except.ok (submissionsWhere_withSubmissions fun x hx hselected => ?_)
    exact hkeys x hx ((Pipeline.selects_tried a.tid a.pid a.key x).1 hselected).2.2

/-- Nor do they change whether the attempt is stored. -/
theorem fst_perform_of_storing (now : Int) (p : Problem) (v : Verdict)
    (hkeys : ∀ x ∈ xs, x.key ≠ a.key) :
    (Call.perform (.insertSubmission (Pipeline.record now a p v)) (s.withSubmissions xs)).1 =
      (Call.perform (.insertSubmission (Pipeline.record now a p v)) s).1 := by
  have hany : (s.submissions ++ xs).any (·.sameAttempt (Pipeline.record now a p v)) =
      s.submissions.any (·.sameAttempt (Pipeline.record now a p v)) := by
    have hnone : xs.any (·.sameAttempt (Pipeline.record now a p v)) = false := by
      rw [List.any_eq_false]
      intro x hx hsame
      exact hkeys x hx ((Submission.sameAttempt_iff x _).1 hsame).2.2
    rw [List.any_append, hnone, Bool.or_false]
  show (insertSubmission _ (s.withSubmissions xs)).1 = (insertSubmission _ s).1
  unfold insertSubmission
  show (if (s.submissions ++ xs).any _ = true then _ else _ : Except Failure Unit × Store).1 = _
  rw [hany]
  split <;> rfl

end Store

/-! ## Rivals on their way -/

/-- The attempt was stored as a correct one, and its submitter was told so. -/
def Thread.credited (t : Thread) : Bool :=
  match t with
  | ⟨.submit _ _, .done (.ok r)⟩ => Pipeline.Result.correct r
  | _ => false

theorem Thread.credited_eq_true_iff {now : Int} {a : Attempt} {q : Program Pipeline.Result} :
    Thread.credited ⟨.submit now a, q⟩ = true ↔ ∃ r, q = .done (.ok r) ∧ r.correct = true := by
  constructor
  · intro h
    cases q with
    | ask c next => cases h
    | done r =>
      cases r with
      | error e => cases h
      | ok r => exact ⟨r, rfl, h⟩
  · rintro ⟨r, rfl, h⟩
    exact h

/-- Who is credited has a result. -/
theorem Thread.finished_of_credited {t : Thread} (h : t.credited = true) : t.Finished := by
  obtain ⟨o, q⟩ := t
  cases q with
  | done r => exact ⟨r, rfl⟩
  | ask c next => cases o <;> cases h

/-- The attempts are for one team and one problem, and no two have the same key. -/
structure AreRivals (tid pid : String) (calls : List (Int × Attempt)) : Prop where
  tid_eq : ∀ call ∈ calls, call.2.tid = tid
  pid_eq : ∀ call ∈ calls, call.2.pid = pid
  keys_ne : calls.Pairwise fun x y => Text.trim x.2.key ≠ Text.trim y.2.key

theorem AreRivals.key_ne {tid pid : String} {calls : List (Int × Attempt)}
    (h : AreRivals tid pid calls) {i j : Nat} {x y : Int × Attempt} (hx : calls[i]? = some x)
    (hy : calls[j]? = some y) (hij : i ≠ j) : Text.trim x.2.key ≠ Text.trim y.2.key := by
  obtain ⟨hi, rfl⟩ := List.getElem?_eq_some_iff.1 hx
  obtain ⟨hj, rfl⟩ := List.getElem?_eq_some_iff.1 hy
  have hkeys := List.pairwise_iff_getElem.1 h.keys_ne
  rcases Nat.lt_or_gt_of_ne hij with hlt | hlt
  · exact hkeys i j hi hj hlt
  · exact (hkeys j i hj hi hlt).symm

section Race

variable (setup : Setup) (s : Store) (tid pid : String) (calls : List (Int × Attempt))

/-- The operation is this attempt.  It has its result, or it asks its questions still; and it is lost
once it finds that the team has solved the problem. -/
def Thread.IsOnWay (call : Int × Attempt) (t : Thread) : Prop :=
  ∃ q : Program Pipeline.Result, t = ⟨.submit call.1 call.2, q⟩ ∧
    ((∃ r, q = .done r) ∨
      q.CallsTo call.2.normalized.Asks (Pipeline.IsSettled call.1 call.2.normalized)) ∧
    q.Guarded (fun s => s.HasSolved tid pid) (.findSolved tid)

/-- The operation at a place has looked up what the team has solved after another attempt, which is
credited, was stored. -/
def World.LooksLate (events : List World.Event) (w : World) (k : Nat) : Prop :=
  ∃ (j : Nat) (t : Thread) (x : Submission), j ≠ k ∧ w.threads[j]? = some t ∧ t.credited = true ∧
    [⟨j, .insertSubmission x⟩, ⟨k, .findSolved tid⟩].Sublist events

/-- What holds after any turns of rivals. -/
structure World.Race (events : List World.Event) (w : World) : Prop where
  onWay : ∀ (k : Nat) (t : Thread), w.threads[k]? = some t →
    ∃ call, calls[k]? = some call ∧ t.IsOnWay tid pid call
  /-- Who has sent the attempt to the store has the result. -/
  finished : ∀ k x, (⟨k, .insertSubmission x⟩ : World.Event) ∈ events →
    ∃ t : Thread, w.threads[k]? = some t ∧ t.Finished
  added : ∃ xs, w.store = s.withSubmissions xs ∧ ∀ x ∈ xs, ∃ (k : Nat) (call : Int × Attempt)
    (t : Thread), calls[k]? = some call ∧ x.key = Text.trim call.2.key ∧
      (⟨k, .insertSubmission x⟩ : World.Event) ∈ events ∧
      w.threads[k]? = some t ∧ (x.correct = true → t.credited = true)
  solved : ∀ (k : Nat) (t : Thread), w.threads[k]? = some t → t.credited = true →
    w.store.HasSolved tid pid
  /-- Who has looked late fails. -/
  lost : ∀ (k : Nat) (now : Int) (a : Attempt) (q : Program Pipeline.Result),
    w.threads[k]? = some ⟨.submit now a, q⟩ → w.LooksLate tid events k →
      q.ReadsTo (fun s => s.HasSolved tid pid) Failed
  /-- Who has not looked late comes to what would come of the attempt alone. -/
  alone : ∀ (k : Nat) (now : Int) (a : Attempt) (q : Program Pipeline.Result),
    w.threads[k]? = some ⟨.submit now a, q⟩ → ¬w.LooksLate tid events k →
      (q.run .none s).1 = ((Pipeline.submit setup now a).run .none s).1

variable {setup s tid pid calls} {events : List World.Event} {v w : World} {i : Nat} {c : Call}

namespace World.Race

/-- **A turn of rivals** is a question of one of them, or one of them is sent to the store. -/
theorem turn_cases (h : v.Race setup s tid pid calls events) (hturn : v.turn? i = some (c, w)) :
    ∃ (call : Int × Attempt) (next : Except Failure c.Reply → Program Pipeline.Result),
      calls[i]? = some call ∧ v.threads[i]? = some ⟨.submit call.1 call.2, .ask c next⟩ ∧
      w = ⟨(c.perform v.store).2,
        v.threads.set i ⟨.submit call.1 call.2, next (c.perform v.store).1⟩⟩ ∧
      (Program.ask c next).Guarded (fun s => s.HasSolved tid pid) (.findSolved tid) ∧
      ((call.2.normalized.Asks c ∧ ∀ r, (next r).CallsTo call.2.normalized.Asks
          (Pipeline.IsSettled call.1 call.2.normalized)) ∨
        ∃ p v, Program.ask c next = Pipeline.storing call.1 call.2.normalized p v) := by
  obtain ⟨o, next, hthread, rfl⟩ := turn?_eq_some hturn
  obtain ⟨call, hcall, q, hq, hway, hguarded⟩ := h.onWay i _ hthread
  cases hq
  refine ⟨call, next, hcall, hthread, rfl, hguarded, ?_⟩
  rcases hway with ⟨r, hr⟩ | hway
  · cases hr
  · rcases hway.ask_cases with (⟨e, he⟩ | hstoring) | hasks
    · cases he
    · exact Or.inr hstoring
    · exact Or.inl hasks

/-- Who takes a turn has not been sent to the store. -/
theorem not_inserted (h : v.Race setup s tid pid calls events) (hturn : v.turn? i = some (c, w))
    (x : Submission) : (⟨i, .insertSubmission x⟩ : Event) ∉ events := by
  intro hx
  obtain ⟨t, ht, hfinished⟩ := h.finished i x hx
  exact (getElem?_of_finished hturn ht hfinished).1 rfl

/-- All other submissions that have been added have other keys. -/
theorem keys_ne (h : v.Race setup s tid pid calls events) (hrivals : AreRivals tid pid calls)
    (hturn : v.turn? i = some (c, w)) {call : Int × Attempt} (hcall : calls[i]? = some call) :
    ∃ xs, v.store = s.withSubmissions xs ∧ (∀ x ∈ xs, x.key ≠ call.2.normalized.key) ∧
      ∀ x ∈ xs, x.correct = true → ∃ (k : Nat) (t : Thread), k ≠ i ∧ v.threads[k]? = some t ∧
        t.Finished ∧ t.credited = true ∧ (⟨k, .insertSubmission x⟩ : Event) ∈ events := by
  obtain ⟨xs, hstore, hxs⟩ := h.added
  refine ⟨xs, hstore, fun x hx => ?_, fun x hx hcorrect => ?_⟩
  · obtain ⟨k, other, t, hother, hkey, hmem, -⟩ := hxs x hx
    have hk : k ≠ i := fun hk => h.not_inserted hturn x (hk ▸ hmem)
    rw [hkey, Attempt.normalized_key]
    exact hrivals.key_ne hother hcall hk
  · obtain ⟨k, other, t, -, -, hmem, ht, hcredited⟩ := hxs x hx
    obtain ⟨t', ht', hfinished⟩ := h.finished k x hmem
    obtain rfl := Option.some.inj (ht.symm.trans ht')
    exact ⟨k, t, fun hk => h.not_inserted hturn x (hk ▸ hmem), ht, hfinished,
      hcredited hcorrect, hmem⟩

/-! ### What a turn keeps -/

theorem onWay_turn (h : v.Race setup s tid pid calls events) (hturn : v.turn? i = some (c, w))
    (k : Nat) (t : Thread) (ht : w.threads[k]? = some t) :
    ∃ call, calls[k]? = some call ∧ t.IsOnWay tid pid call := by
  obtain ⟨call, next, hcall, hthread, rfl, hguarded, hstep⟩ := h.turn_cases hturn
  rw [getElem?_set_threads hthread] at ht
  by_cases hk : k = i
  · rw [if_pos hk] at ht
    obtain rfl := Option.some.inj ht
    refine ⟨call, hk ▸ hcall, _, rfl, ?_, hguarded.next _⟩
    rcases hstep with ⟨-, hnext⟩ | ⟨p, verdict, hstoring⟩
    · exact Or.inr (hnext _)
    · rcases Pipeline.storing_cases hstoring v.store with ⟨-, hresult⟩ | ⟨-, -, hresult⟩
      · exact Or.inl ⟨_, hresult⟩
      · exact Or.inl ⟨_, hresult⟩
  · rw [if_neg hk] at ht
    exact h.onWay k t ht

theorem finished_turn (h : v.Race setup s tid pid calls events) (hturn : v.turn? i = some (c, w))
    (k : Nat) (x : Submission) (hx : (⟨k, .insertSubmission x⟩ : Event) ∈ events ++ [⟨i, c⟩]) :
    ∃ t : Thread, w.threads[k]? = some t ∧ t.Finished := by
  rcases List.mem_append.1 hx with hx | hx
  · obtain ⟨t, ht, hfinished⟩ := h.finished k x hx
    exact ⟨t, (getElem?_of_finished hturn ht hfinished).2, hfinished⟩
  · obtain ⟨call, next, hcall, hthread, rfl, -, hstep⟩ := h.turn_cases hturn
    cases List.mem_singleton.1 hx
    refine ⟨_, (getElem?_set_threads hthread _ i).trans (if_pos rfl), ?_⟩
    rcases hstep with ⟨hasks, -⟩ | ⟨p, verdict, hstoring⟩
    · exact hasks.isRead.elim
    · rcases Pipeline.storing_cases hstoring v.store with ⟨-, hresult⟩ | ⟨-, -, hresult⟩
      · exact ⟨_, hresult⟩
      · exact ⟨_, hresult⟩

theorem added_turn (h : v.Race setup s tid pid calls events) (hturn : v.turn? i = some (c, w)) :
    ∃ xs, w.store = s.withSubmissions xs ∧ ∀ x ∈ xs, ∃ (k : Nat) (call : Int × Attempt)
      (t : Thread), calls[k]? = some call ∧ x.key = Text.trim call.2.key ∧
        (⟨k, .insertSubmission x⟩ : Event) ∈ events ++ [⟨i, c⟩] ∧
        w.threads[k]? = some t ∧ (x.correct = true → t.credited = true) := by
  obtain ⟨xs, hstore, hxs⟩ := h.added
  have hkept : ∀ x ∈ xs, ∃ (k : Nat) (call : Int × Attempt) (t : Thread), calls[k]? = some call ∧
      x.key = Text.trim call.2.key ∧ (⟨k, .insertSubmission x⟩ : Event) ∈ events ++ [⟨i, c⟩] ∧
      w.threads[k]? = some t ∧ (x.correct = true → t.credited = true) := by
    intro x hx
    obtain ⟨k, call, t, hcall, hkey, hmem, ht, hcredited⟩ := hxs x hx
    obtain ⟨t', ht', hfinished⟩ := h.finished k x hmem
    obtain rfl := Option.some.inj (ht.symm.trans ht')
    exact ⟨k, call, t, hcall, hkey, List.mem_append_left _ hmem,
      (getElem?_of_finished hturn ht hfinished).2, hcredited⟩
  obtain ⟨call, next, hcall, hthread, rfl, -, hstep⟩ := h.turn_cases hturn
  rcases hstep with ⟨hasks, -⟩ | ⟨p, verdict, hstoring⟩
  · exact ⟨xs, (hasks.isRead.snd_perform _).trans hstore, hkept⟩
  rcases Pipeline.storing_cases hstoring v.store with ⟨hstays, -⟩ | ⟨-, hstored, hresult⟩
  · exact ⟨xs, hstays.trans hstore, hkept⟩
  · refine ⟨xs ++ [Pipeline.record call.1 call.2.normalized p verdict], ?_, fun x hx => ?_⟩
    · rw [← Store.withSubmission_withSubmissions, ← hstore]
      exact hstored
    · rcases List.mem_append.1 hx with hx | hx
      · exact hkept x hx
      · obtain rfl := List.mem_singleton.1 hx
        have hcall' : c = .insertSubmission (Pipeline.record call.1 call.2.normalized p verdict) :=
          (Program.ask.inj hstoring).1
        refine ⟨i, call, _, hcall, Attempt.normalized_key call.2, ?_,
          (getElem?_set_threads hthread _ i).trans (if_pos rfl), fun hcorrect => ?_⟩
        · rw [hcall']
          exact List.mem_append_right _ (List.mem_singleton.2 rfl)
        · rw [hresult]
          exact hcorrect

theorem solved_turn (h : v.Race setup s tid pid calls events) (hrivals : AreRivals tid pid calls)
    (hturn : v.turn? i = some (c, w)) (k : Nat) (t : Thread) (ht : w.threads[k]? = some t)
    (hcredited : t.credited = true) : w.store.HasSolved tid pid := by
  obtain ⟨call, next, hcall, hthread, rfl, -, hstep⟩ := h.turn_cases hturn
  rw [getElem?_set_threads hthread] at ht
  -- a store that has a correct submission keeps it
  have hkept (hsolved : v.store.HasSolved tid pid) : (c.perform v.store).2.HasSolved tid pid := by
    rcases hstep with ⟨hasks, -⟩ | ⟨p, verdict, hstoring⟩
    · rw [hasks.isRead.snd_perform]
      exact hsolved
    · rcases Pipeline.storing_cases hstoring v.store with ⟨hstays, -⟩ | ⟨-, hstored, -⟩
      · rw [hstays]
        exact hsolved
      · rw [hstored]
        obtain ⟨x, hx, hsolved⟩ := hsolved
        exact ⟨x, List.mem_append_left _ hx, hsolved⟩
  by_cases hk : k = i
  case neg =>
    rw [if_neg hk] at ht
    exact hkept (h.solved k t ht hcredited)
  rw [if_pos hk] at ht
  obtain rfl := Option.some.inj ht
  obtain ⟨r, hr, hcorrect⟩ := Thread.credited_eq_true_iff.1 hcredited
  rcases hstep with ⟨-, hnext⟩ | ⟨p, verdict, hstoring⟩
  · exact absurd (hr ▸ hnext _) Pipeline.callsTo_ne_ok
  · rcases Pipeline.storing_cases hstoring v.store with ⟨-, hresult⟩ | ⟨-, hstored, hresult⟩
    · rw [hresult] at hr
      cases hr
    · rw [hresult] at hr
      cases hr
      have hmem := List.mem_of_getElem? hcall
      show (c.perform v.store).2.HasSolved tid pid
      rw [hstored]
      exact ⟨_, List.mem_append_right _ (List.mem_singleton.2 rfl),
        (Attempt.normalized_tid call.2).trans (hrivals.tid_eq call hmem),
        (Attempt.normalized_pid call.2).trans (hrivals.pid_eq call hmem), hcorrect⟩

/-! ### Late looks -/

/-- Who has looked late has done so whatever comes after. -/
theorem looksLate_turn (hturn : v.turn? i = some (c, w)) {k : Nat}
    (hlate : v.LooksLate tid events k) : w.LooksLate tid (events ++ [⟨i, c⟩]) k := by
  obtain ⟨j, t, x, hj, ht, hcredited, hsublist⟩ := hlate
  have hstays := (getElem?_of_finished hturn ht (Thread.finished_of_credited hcredited)).2
  exact ⟨j, t, x, hj, hstays, hcredited, hsublist.trans (List.sublist_append_left _ _)⟩

/-- Who has looked late did so before the last turn, or the last turn is a look at a store that has a
correct submission. -/
theorem looksLate_cases (h : v.Race setup s tid pid calls events)
    (hturn : v.turn? i = some (c, w)) {k : Nat} (hlate : w.LooksLate tid (events ++ [⟨i, c⟩]) k) :
    v.LooksLate tid events k ∨ k = i ∧ c = .findSolved tid ∧ v.store.HasSolved tid pid := by
  obtain ⟨j, t, x, hj, ht, hcredited, hsublist⟩ := hlate
  have hmem : (⟨j, .insertSubmission x⟩ : Event) ∈ events := by
    rcases sublist_snoc_iff.1 hsublist with hbefore | ⟨hmem, -⟩
    · exact hbefore.subset List.mem_cons_self
    · exact hmem
  obtain ⟨t', ht', hfinished⟩ := h.finished j x hmem
  obtain rfl := Option.some.inj (ht.symm.trans (getElem?_of_finished hturn ht' hfinished).2)
  rcases sublist_snoc_iff.1 hsublist with hbefore | ⟨-, hlast⟩
  · exact Or.inl ⟨j, t, x, hj, ht', hcredited, hbefore⟩
  · obtain ⟨hk, hc⟩ := Event.mk.inj hlast
    exact Or.inr ⟨hk, hc.symm, h.solved j t ht' hcredited⟩

theorem lost_turn (h : v.Race setup s tid pid calls events) (hturn : v.turn? i = some (c, w))
    (k : Nat) (now : Int) (a : Attempt) (q : Program Pipeline.Result)
    (ht : w.threads[k]? = some ⟨.submit now a, q⟩)
    (hlate : w.LooksLate tid (events ++ [⟨i, c⟩]) k) :
    q.ReadsTo (fun s => s.HasSolved tid pid) Failed := by
  have hcases := h.looksLate_cases hturn hlate
  obtain ⟨call, next, hcall, hthread, rfl, hguarded, -⟩ := h.turn_cases hturn
  rw [getElem?_set_threads hthread] at ht
  by_cases hk : k = i
  · rw [if_pos hk] at ht
    cases ht
    rcases hcases with hbefore | ⟨-, hlook, hsolved⟩
    · -- it was lost before, so it goes on reading
      have hsolved : v.store.HasSolved tid pid := by
        obtain ⟨j, t, x, -, ht, hcredited, -⟩ := hbefore
        exact h.solved j t ht hcredited
      rcases (h.lost i _ _ _ hthread (hk ▸ hbefore)).ask_cases with ⟨e, he⟩ | ⟨-, hnext⟩
      · cases he
      · exact hnext _ hsolved
    · exact hguarded.failed_of_look hlook hsolved
  · rw [if_neg hk] at ht
    rcases hcases with hbefore | ⟨hki, -⟩
    · exact h.lost k now a q ht hbefore
    · exact absurd hki hk

/-- Others change nothing for one that has not looked late. -/
theorem alone_turn (h : v.Race setup s tid pid calls events) (hrivals : AreRivals tid pid calls)
    (hturn : v.turn? i = some (c, w)) (k : Nat) (now : Int) (a : Attempt)
    (q : Program Pipeline.Result) (ht : w.threads[k]? = some ⟨.submit now a, q⟩)
    (hlate : ¬w.LooksLate tid (events ++ [⟨i, c⟩]) k) :
    (q.run .none s).1 = ((Pipeline.submit setup now a).run .none s).1 := by
  have hbefore : ¬v.LooksLate tid events k := fun hv => hlate (looksLate_turn hturn hv)
  obtain ⟨call, next, hcall, hthread, hw, -, hstep⟩ := h.turn_cases hturn
  obtain ⟨xs, hstore, hkeys, hcorrect⟩ := h.keys_ne hrivals hturn hcall
  rw [hw, getElem?_set_threads hthread] at ht
  by_cases hk : k = i
  case neg =>
    rw [if_neg hk] at ht
    exact h.alone k now a q ht hbefore
  rw [if_pos hk] at ht
  cases ht
  subst hk
  have halone : ((next (c.perform s).1).run .none (c.perform s).2).1 =
      ((Pipeline.submit setup call.1 call.2).run .none s).1 := h.alone k _ _ _ hthread hbefore
  rcases hstep with ⟨hasks, -⟩ | ⟨p, verdict, hstoring⟩
  · -- a correct rival, had it been stored, would make this look a late one
    have hanswer : (c.perform (s.withSubmissions xs)).1 = (c.perform s).1 := by
      refine Store.fst_perform_of_asks hasks hkeys fun hlook x hx => ?_
      rw [← Bool.not_eq_true]
      intro hxcorrect
      obtain ⟨j, t, hj, ht', hfinished, hcredited, hmem⟩ := hcorrect x hx hxcorrect
      refine hlate ⟨j, t, x, hj, (getElem?_of_finished hturn ht' hfinished).2, hcredited, ?_⟩
      refine sublist_snoc_iff.2 (Or.inr ⟨hmem, ?_⟩)
      rw [hlook, Attempt.normalized_tid, hrivals.tid_eq call (List.mem_of_getElem? hcall)]
    rw [hstore, hanswer]
    rw [hasks.isRead.snd_perform] at halone
    exact halone
  · have hanswer : (c.perform (s.withSubmissions xs)).1 = (c.perform s).1 := by
      obtain rfl := (Program.ask.inj hstoring).1
      exact Store.fst_perform_of_storing call.1 p verdict hkeys
    -- there is nothing left to run
    obtain ⟨r, hr⟩ : ∃ r, next (c.perform s).1 = .done r := by
      rcases Pipeline.storing_cases hstoring s with ⟨-, hresult⟩ | ⟨-, -, hresult⟩
      · exact ⟨_, hresult⟩
      · exact ⟨_, hresult⟩
    rw [hstore, hanswer, hr]
    rw [hr] at halone
    exact halone

/-- **What holds after some turns of rivals holds after one more.** -/
theorem turn (h : v.Race setup s tid pid calls events) (hrivals : AreRivals tid pid calls)
    (hturn : v.turn? i = some (c, w)) : w.Race setup s tid pid calls (events ++ [⟨i, c⟩]) where
  onWay := h.onWay_turn hturn
  finished := h.finished_turn hturn
  added := h.added_turn hturn
  solved := h.solved_turn hrivals hturn
  lost := h.lost_turn hturn
  alone := h.alone_turn hrivals hturn

end World.Race

/-- At first nobody has asked anything. -/
theorem World.race_attempts (hrivals : AreRivals tid pid calls) :
    (World.attempts setup s calls).Race setup s tid pid calls [] := by
  have hstart : ∀ (k : Nat) (t : Thread), (World.attempts setup s calls).threads[k]? = some t →
      ∃ call, calls[k]? = some call ∧ t = .start setup (.submit call.1 call.2) := by
    intro k t ht
    unfold World.attempts at ht
    rw [List.getElem?_map, Option.map_eq_some_iff] at ht
    obtain ⟨call, hcall, rfl⟩ := ht
    exact ⟨call, hcall, rfl⟩
  refine ⟨fun k t ht => ?_, fun k x hx => ?_, ⟨[], s.withSubmissions_nil.symm, fun x hx => ?_⟩,
    fun k t ht hcredited => ?_, fun k now a q ht hlate => ?_, fun k now a q ht _ => ?_⟩
  · obtain ⟨call, hcall, rfl⟩ := hstart k t ht
    have hmem := List.mem_of_getElem? hcall
    refine ⟨call, hcall, _, rfl, Or.inr (Pipeline.callsTo_submitNormalized setup call.1 _), ?_⟩
    have hguarded := Pipeline.guarded_submitNormalized setup call.1 call.2.normalized
    rw [Attempt.normalized_tid, Attempt.normalized_pid, hrivals.tid_eq call hmem,
      hrivals.pid_eq call hmem] at hguarded
    exact hguarded
  · cases hx
  · cases hx
  · obtain ⟨call, hcall, rfl⟩ := hstart k t ht
    obtain ⟨r, hr, -⟩ := Thread.credited_eq_true_iff.1 hcredited
    have hasks := Pipeline.callsTo_submitNormalized setup call.1 call.2.normalized
    rw [show Pipeline.submitNormalized setup call.1 call.2.normalized = .done (.ok r) from hr]
      at hasks
    exact absurd hasks Pipeline.callsTo_ne_ok
  · obtain ⟨j, t, x, -, -, -, hsublist⟩ := hlate
    cases hsublist
  · obtain ⟨call, hcall, heq⟩ := hstart k _ ht
    cases heq
    rfl

theorem World.race_of_history (hrivals : AreRivals tid pid calls)
    (h : (World.attempts setup s calls).History events w) :
    w.Race setup s tid pid calls events := by
  induction h with
  | nil => exact World.race_attempts hrivals
  | snoc _ hturn ih => exact ih.turn hrivals hturn

/-- Every attempt is at its place. -/
theorem World.exists_thread (hrivals : AreRivals tid pid calls)
    (h : (World.attempts setup s calls).History events w) {k : Nat} {call : Int × Attempt}
    (hcall : calls[k]? = some call) :
    ∃ q, w.threads[k]? = some ⟨.submit call.1 call.2, q⟩ := by
  have hlength : w.threads.length = calls.length := by
    rw [h.length_threads]
    exact List.length_map _
  have hk : k < w.threads.length := hlength ▸ (List.getElem?_eq_some_iff.1 hcall).1
  have hthread := List.getElem?_eq_getElem hk
  obtain ⟨call', hcall', q, hq, -⟩ := (World.race_of_history hrivals h).onWay k _ hthread
  obtain rfl := Option.some.inj (hcall.symm.trans hcall')
  exact ⟨q, hthread.trans (congrArg some hq)⟩

/-- **Who is credited among rivals**: whoever has a result, would be credited alone, and has not
looked late. -/
theorem Thread.credited_iff (hrivals : AreRivals tid pid calls)
    (h : (World.attempts setup s calls).History events w) {k : Nat} {now : Int} {a : Attempt}
    {q : Program Pipeline.Result} (hthread : w.threads[k]? = some ⟨.submit now a, q⟩) :
    Thread.credited ⟨.submit now a, q⟩ = true ↔ Thread.Finished ⟨.submit now a, q⟩ ∧
      (∃ r, ((Pipeline.submit setup now a).run .none s).1 = .ok r ∧ r.correct = true) ∧
      ¬w.LooksLate tid events k := by
  have hrace := World.race_of_history hrivals h
  rw [Thread.credited_eq_true_iff]
  constructor
  · rintro ⟨r, rfl, hcorrect⟩
    have hlate : ¬w.LooksLate tid events k := by
      intro hlate
      obtain ⟨e, he⟩ := (hrace.lost k now a _ hthread hlate).of_done
      cases he
    exact ⟨⟨_, rfl⟩, ⟨r, (hrace.alone k now a _ hthread hlate).symm, hcorrect⟩, hlate⟩
  · rintro ⟨hfinished, ⟨r', halone, hcorrect⟩, hlate⟩
    obtain ⟨r, rfl⟩ : ∃ r, q = .done r := hfinished
    have hresult : r = .ok r' := (hrace.alone k now a _ hthread hlate).trans halone
    exact ⟨r', congrArg Program.done hresult, hcorrect⟩

end Race

/-- **When two keys are both credited.**  A team sends in two different keys for one problem at once,
and the calls of both attempts are answered in any order.  Both are told that they have solved it if
and only if both come to an end, either would be told so if it were made alone, and neither looks up
what the team has solved after the other was sent to the store.  So at most one is told so whenever
one of the looks comes late. -/
theorem both_credited_iff {setup : Setup} {s : Store} {x y : Int × Attempt}
    (htid : y.2.tid = x.2.tid) (hpid : y.2.pid = x.2.pid)
    (hkeys : Text.trim x.2.key ≠ Text.trim y.2.key) {events : List World.Event} {w : World}
    (h : (World.attempts setup s [x, y]).History events w) :
    (∀ t ∈ w.threads, t.credited = true) ↔ (∀ t ∈ w.threads, t.Finished) ∧
      (∀ call ∈ [x, y], ∃ r, ((Pipeline.submit setup call.1 call.2).run .none s).1 = .ok r ∧
        r.correct = true) ∧
      ∀ (i j : Nat) (z : Submission), i ≠ j →
        ¬[⟨j, .insertSubmission z⟩, ⟨i, .findSolved x.2.tid⟩].Sublist events := by
  have hrivals : AreRivals x.2.tid x.2.pid [x, y] :=
    ⟨by simp [htid], by simp [hpid], by simp [hkeys]⟩
  have hplace {k : Nat} {call : Int × Attempt} (hcall : [x, y][k]? = some call) :
      ∃ q, w.threads[k]? = some ⟨.submit call.1 call.2, q⟩ :=
    World.exists_thread hrivals h hcall
  constructor
  · intro hcredited
    refine ⟨fun t ht => ?_, fun call hcall => ?_, fun i j z hij hsublist => ?_⟩
    · exact Thread.finished_of_credited (hcredited t ht)
    · obtain ⟨k, hk⟩ := List.mem_iff_getElem?.1 hcall
      obtain ⟨q, hq⟩ := hplace hk
      exact ((Thread.credited_iff hrivals h hq).1 (hcredited _ (List.mem_of_getElem? hq))).2.1
    · have hi : i < w.threads.length :=
        h.place_lt (hsublist.subset (List.mem_cons_of_mem _ List.mem_cons_self))
      have hj : j < w.threads.length := h.place_lt (hsublist.subset List.mem_cons_self)
      have hlate : w.LooksLate x.2.tid events i :=
        ⟨j, _, z, hij.symm, List.getElem?_eq_getElem hj, hcredited _ (List.getElem_mem hj),
          hsublist⟩
      have hthread := List.getElem?_eq_getElem hi
      obtain ⟨call, -, q, hq, -⟩ := (World.race_of_history hrivals h).onWay i _ hthread
      rw [hq] at hthread
      have hmem := List.mem_of_getElem? hthread
      exact ((Thread.credited_iff hrivals h hthread).1 (hcredited _ hmem)).2.2 hlate
  · rintro ⟨hfinished, halone, hlook⟩ t ht
    obtain ⟨k, hk⟩ := List.mem_iff_getElem?.1 ht
    obtain ⟨call, hcall, q, rfl, -⟩ := (World.race_of_history hrivals h).onWay k t hk
    refine (Thread.credited_iff hrivals h hk).2
      ⟨hfinished _ ht, halone call (List.mem_of_getElem? hcall), ?_⟩
    rintro ⟨j, -, z, hj, -, -, hsublist⟩
    exact hlook k j z hj.symm hsublist

namespace Sample

/-- The grader does not care about upper and lower case. -/
def lenientSetup : Setup :=
  ⟨(Registry.empty 1000).register "hidden" (Grader.flag {} "flag" true), true⟩

/-- Two teammates, and the problem. -/
def lenientStore : Store :=
  ((Operation.insert document).program lenientSetup |>.run .none
    ((Store.empty.addUser user).addUser teammate)).2

theorem served_lenientStore : lenientStore.Served :=
  .operation lenientSetup (.insert document) ((Store.Served.empty.addUser user).addUser teammate)

/-- The flag once in lower case and once in upper case. -/
def lower : Int × Attempt := (7, attempt)

def upper : Int × Attempt := (8, { teammateAttempt with key := "FLAG" })

end Sample

/-- Two teammates send in the flag, one in lower and the other in upper case, and every call of the
one is followed by the same call of the other.  Both are told that they have solved the problem. -/
theorem both_credited_of_alternating :
    ∃ (setup : Setup) (s : Store) (x y : Int × Attempt) (events : List World.Event) (w : World),
      s.Served ∧ y.2.tid = x.2.tid ∧ y.2.pid = x.2.pid ∧ Text.trim x.2.key ≠ Text.trim y.2.key ∧
        (World.attempts setup s [x, y]).History events w ∧
        (∀ w', ¬w.Turn w') ∧ w.threads.length = 2 ∧ ∀ t ∈ w.threads, t.credited = true := by
  let w := World.attempts Sample.lenientSetup Sample.lenientStore [Sample.lower, Sample.upper]
  let places := [0, 1, 0, 1, 0, 1, 0, 1, 0, 1, 0, 1, 0, 1]
  obtain ⟨hlength, hcredited⟩ : (w.follow places).2.threads.length = 2 ∧
      ∀ t ∈ (w.follow places).2.threads, t.credited = true := by decide +kernel
  have hend : ∀ w', ¬(w.follow places).2.Turn w' :=
    (World.not_turn_iff _).2 fun t ht => Thread.finished_of_credited (hcredited t ht)
  exact ⟨Sample.lenientSetup, Sample.lenientStore, Sample.lower, Sample.upper, _, _,
    Sample.served_lenientStore, rfl, rfl, by decide +kernel, w.history_follow places, hend,
    hlength, hcredited⟩

/-- One of them makes all its calls before the other.  So the other looks late, and they are not both
credited. -/
theorem not_both_credited_of_sequential :
    let x := Sample.lower
    let y := Sample.upper
    let w := World.attempts Sample.lenientSetup Sample.lenientStore [x, y]
    let h := w.follow [0, 0, 0, 0, 0, 0, 0, 1, 1, 1]
    (y.2.tid = x.2.tid ∧ y.2.pid = x.2.pid ∧ Text.trim x.2.key ≠ Text.trim y.2.key ∧
      w.History h.1 h.2) ∧ h.2.threads.map (·.credited) = [true, false] ∧
      ¬∀ t ∈ h.2.threads, t.credited = true := by
  intro x y w h
  have htid : y.2.tid = x.2.tid := rfl
  have hpid : y.2.pid = x.2.pid := rfl
  have hkeys : Text.trim x.2.key ≠ Text.trim y.2.key := by decide +kernel
  have hhistory : w.History h.1 h.2 := w.history_follow _
  let z : Submission := ⟨"ada", "red", x.2.pid, "flag", 7, none, "misc", true⟩
  obtain ⟨hcredits, hlate⟩ : h.2.threads.map (·.credited) = [true, false] ∧
      [⟨0, .insertSubmission z⟩, ⟨1, .findSolved x.2.tid⟩].Sublist h.1 := by decide +kernel
  refine ⟨⟨htid, hpid, hkeys, hhistory⟩, hcredits, fun hcredited => ?_⟩
  exact ((both_credited_iff htid hpid hkeys hhistory).1 hcredited).2.2 1 0 z (by decide) hlate

end CaptureTheFlag
