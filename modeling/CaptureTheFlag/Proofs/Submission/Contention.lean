import CaptureTheFlag.Proofs.Program.Commit
import CaptureTheFlag.Proofs.Program.Reads
import CaptureTheFlag.Proofs.Service.Interleaving
import CaptureTheFlag.Proofs.Submission.Gates

/-!
# One key sent in several times at once

Members of a team send in the same key for the same problem at the same time.  Each attempt goes its
own way through the gates, the calls of all of them come in any order, and one of them is stored.

* `Store.Admits`, `Store.Grades`: the gates are open to an attempt, and there is a verdict on it.
* `Pipeline.accepts_iff`: an attempt that is made alone is accepted if and only if both hold.
* `Pipeline.readsTo_submitNormalized`: whatever others do to the submissions, an attempt that has a
  verdict comes to be stored, or it ends in a conflict before.
* `World.Undecided`, `World.Decided`: nothing is stored and every attempt would still be accepted; or
  one attempt is stored and accepted, and no other will be.
* `one_stored_of_identical`: at the end of every interleaving there is one attempt that has been
  accepted and stored, and all others have met a conflict.

## The four places where a late attempt is caught

Once an attempt is stored, any other meets it at the first gate that it has not passed yet.  If the
stored one is correct, the problem may be locked again, namely by a weight of its own that is
negative; or it is solved.  In any case the key is tried.  An attempt behind all these gates is
refused by the store.  All four are conflicts, so the invariant does not tell them apart: an attempt
reads on until it is to be stored, or ends in a conflict (`Thread.Contends`).  This holds whatever the
submissions are at each of its calls, as long as the problems and the users stay what they are.

What it does not say is that anyone is accepted.  That is why the invariant has two stages.  As long
as nothing is stored, every call is answered by the store that they all started from, and every
attempt is still on the way that it would go alone.
-/

namespace CaptureTheFlag

open Program

/-! ## Attempts that are accepted -/

/-- The gates in front of the verdict are open to the attempt, whoever makes it. -/
structure Store.Admits (s : Store) (a : Attempt) : Prop where
  proper : a.IsProper
  exists_open : ∃ p, s.Opens a.tid p ∧ p.pid = a.pid
  unsolved : ¬s.HasSolved a.tid a.pid
  untried : ¬s.HasTried a.tid a.pid a.key

/-- Only the team, the problem and the key matter. -/
theorem Store.Admits.of_same {s : Store} {a b : Attempt} (h : s.Admits a) (htid : b.tid = a.tid)
    (hpid : b.pid = a.pid) (hkey : b.key = a.key) : s.Admits b := by
  obtain ⟨⟨hone, hlength, hpidLength, htidLength⟩, hopen, hunsolved, huntried⟩ := h
  rw [← htid, ← hpid] at hopen hunsolved
  rw [← htid, ← hpid, ← hkey] at huntried
  rw [← hkey] at hone hlength
  rw [← hpid] at hpidLength
  rw [← htid] at htidLength
  exact ⟨⟨hone, hlength, hpidLength, htidLength⟩, hopen, hunsolved, huntried⟩

/-- The user who makes the attempt is known, the problem is stored, and its grader has this verdict
on the key. -/
def Store.Grades (setup : Setup) (s : Store) (a : Attempt) (p : Problem) (v : Verdict) : Prop :=
  ∃ u, s.user? a.uid = some u ∧ s.problem? a.pid = some p ∧
    setup.registry.Judges p.grader (some u.uid) a.key v

namespace Pipeline

/-- **An attempt that is made alone is accepted** if and only if the gates are open to it and there is
a verdict on it. -/
theorem accepts_iff (setup : Setup) (s : Store) (now : Int) (a : Attempt) :
    (Succeeds ((submitNormalized setup now a).run .none s).1) ↔
      s.Admits a ∧ ∃ p v, s.Grades setup a p v := by
  have hrefused : ∀ {out : Except Failure Result × Store} {e : Failure} {s' : Store},
      out = (.error e, s') → ¬Succeeds out.1 := by
    rintro out e s' rfl
    exact not_succeeds_error e
  unfold submitNormalized
  simp only [bind_eq, lift_eq, pure_eq]
  by_cases hproper : a.IsProper
  case neg =>
    rw [Attempt.check_of_not_isProper hproper]
    exact iff_of_false (hrefused rfl) fun h => hproper h.1.proper
  rw [a.check_eq_ok_iff.2 hproper, done_ok_bind]
  rcases run_checkUnlocked s a.tid a.pid with ⟨hlocked, hrun⟩ | ⟨hopen, hrun⟩
  · rw [run_bind_of_error hrun]
    refine iff_of_false (hrefused rfl) fun h => ?_
    obtain ⟨p, hopen, hpid⟩ := h.1.exists_open
    exact hlocked p hopen hpid
  rw [run_bind_of_ok hrun]
  rcases run_checkUnsolved s a.tid a.pid with ⟨hsolved, hrun⟩ | ⟨hunsolved, hrun⟩
  · rw [run_bind_of_error hrun]
    exact iff_of_false (hrefused rfl) fun h => h.1.unsolved hsolved
  rw [run_bind_of_ok hrun]
  rcases run_resolveUser s a.uid with ⟨hunknown, hrun⟩ | ⟨u, hu, hrun⟩
  · rw [run_bind_of_error hrun]
    refine iff_of_false (hrefused rfl) ?_
    rintro ⟨-, p, v, u, hu, -⟩
    rw [hunknown] at hu
    cases hu
  rw [run_bind_of_ok hrun]
  rcases run_checkUntried s a with ⟨htried, hrun⟩ | ⟨huntried, hrun⟩
  · rw [run_bind_of_error hrun]
    exact iff_of_false (hrefused rfl) fun h => h.1.untried htried
  rw [run_bind_of_ok hrun]
  rcases Lifecycle.run_find s a.pid with ⟨hmissing, hrun⟩ | ⟨p, hp, hrun⟩
  · rw [run_bind_of_error hrun]
    refine iff_of_false (hrefused rfl) ?_
    rintro ⟨-, p, v, u, -, hp, -⟩
    rw [hmissing] at hp
    cases hp
  rw [run_bind_of_ok hrun]
  rcases judge_cases setup p (some u.uid) a.key with ⟨hoffline, hv⟩ | ⟨v, hjudged, hv⟩
  · rw [hv]
    refine iff_of_false (hrefused rfl) ?_
    rintro ⟨-, p', v, u', hu', hp', hjudged⟩
    obtain rfl := Option.some.inj (hu.symm.trans hu')
    obtain rfl := Option.some.inj (hp.symm.trans hp')
    exact hoffline v hjudged
  -- nobody else is there, so what the last gate has found untried is not refused by the store
  have hstored := run_insert s (x := record now a p v) huntried ⟨v.correct, p.score, v.message⟩
  rw [hv, done_ok_bind]
  refine iff_of_true ⟨_, congrArg Prod.fst hstored⟩ ?_
  exact ⟨⟨hproper, hopen, hunsolved, huntried⟩, p, v, u, hu, hp, hjudged⟩

/-! ## An attempt on its way -/

/-- The last step of an attempt: it is stored with its verdict. -/
def storing (now : Int) (a : Attempt) (p : Problem) (v : Verdict) : Program Result :=
  ((Program.call (.insertSubmission (record now a p v))).mapFailure triedIfStored).bind fun _ =>
    .done (.ok ⟨v.correct, p.score, v.message⟩)

/-- The attempt has met a conflict, or only its last step is left. -/
def IsLast (now : Int) (a : Attempt) (p : Problem) (v : Verdict) (q : Program Result) : Prop :=
  (∃ e : Failure, q = .done (.error e) ∧ e.kind = .conflict) ∨ q = storing now a p v

end Pipeline

/-- The other store has the same problems and the same users. -/
structure Store.SharesSetting (s t : Store) : Prop where
  problems : t.problems = s.problems
  users : t.users = s.users

section Gates

variable {s : Store} {T : Store → Prop}

theorem Progress.readsTo_solvedPids (tid : String) :
    (Progress.solvedPids tid none).ReadsTo T (Settles fun _ => True) :=
  ReadsTo.gate_bind (.call trivial fun _ _ => ⟨_, rfl, trivial⟩) Settles.conflict fun _ h =>
    .reached (.ok h)

theorem Progress.readsTo_unlockedPids (tid : String) :
    (Progress.unlockedPids tid none).ReadsTo T (Settles fun _ => True) := by
  refine ReadsTo.gate_bind (A := fun _ => True) ?_ Settles.conflict fun _ h => .reached (.ok h)
  refine ReadsTo.gate_bind (Progress.readsTo_solvedPids tid) Settles.conflict fun _ _ => ?_
  exact ReadsTo.gate_bind (.call trivial fun _ _ => ⟨_, rfl, trivial⟩) Settles.conflict fun _ h =>
    .reached (.ok h)

namespace Pipeline

theorem readsTo_checkUnlocked (tid pid : String) :
    (checkUnlocked tid pid).ReadsTo T (Settles fun _ => True) := by
  refine ReadsTo.gate_bind (Progress.readsTo_unlockedPids tid) Settles.conflict fun _ _ => ?_
  split
  · exact .reached (.ok trivial)
  · exact .reached (.conflict _ rfl)

theorem readsTo_checkUnsolved (tid pid : String) :
    (checkUnsolved tid pid).ReadsTo T (Settles fun _ => True) := by
  refine ReadsTo.gate_bind (Progress.readsTo_solvedPids tid) Settles.conflict fun _ _ => ?_
  split
  · exact .reached (.conflict _ rfl)
  · exact .reached (.ok trivial)

theorem readsTo_checkUntried (a : Attempt) :
    (checkUntried a).ReadsTo T (Settles fun _ => True) := by
  refine ReadsTo.gate_bind (A := fun _ => True) (.call trivial fun _ _ => ⟨_, rfl, trivial⟩)
    Settles.conflict fun _ _ => ?_
  split
  · exact .reached (.ok trivial)
  · exact .reached (.conflict _ rfl)

/-- A user who is known stays known. -/
theorem readsTo_resolveUser {uid : String} {u : User} (hu : s.user? uid = some u) :
    (resolveUser uid).ReadsTo s.SharesSetting (Settles (u = ·)) := by
  refine ReadsTo.gate_bind (.call trivial fun t ht => ⟨some u, ?_, rfl⟩) Settles.conflict ?_
  · unfold Store.user? at hu
    show Except.ok (t.users.get? uid) = .ok (some u)
    rw [ht.users, hu]
  · rintro found rfl
    exact .reached (.ok rfl)

end Pipeline

/-- A problem that is stored stays stored. -/
theorem Lifecycle.readsTo_find {pid : String} {p : Problem} (hp : s.problem? pid = some p) :
    (Lifecycle.find pid).ReadsTo s.SharesSetting (Settles (p = ·)) := by
  refine ReadsTo.gate_bind (.call trivial fun t ht => ⟨some p, ?_, rfl⟩) Settles.conflict ?_
  · unfold Store.problem? at hp
    show Except.ok (t.problems.get? pid) = .ok (some p)
    rw [ht.problems, hp]
  · rintro found rfl
    exact .reached (.ok rfl)

/-- **An attempt that has a verdict comes to be stored, or ends in a conflict before**, whatever the
submissions are when each of its calls is answered. -/
theorem Pipeline.readsTo_submitNormalized {setup : Setup} {a : Attempt} (now : Int)
    (hproper : a.IsProper) {p : Problem} {v : Verdict} (h : s.Grades setup a p v) :
    (submitNormalized setup now a).ReadsTo s.SharesSetting (IsLast now a p v) := by
  obtain ⟨u, hu, hp, hjudged⟩ := h
  have hconflict : ∀ e : Failure, e.kind = .conflict → IsLast now a p v (.done (.error e)) :=
    fun e he => Or.inl ⟨e, rfl, he⟩
  unfold submitNormalized
  simp only [bind_eq, lift_eq, pure_eq]
  rw [a.check_eq_ok_iff.2 hproper, done_ok_bind]
  refine ReadsTo.gate_bind (readsTo_checkUnlocked a.tid a.pid) hconflict fun _ _ => ?_
  refine ReadsTo.gate_bind (readsTo_checkUnsolved a.tid a.pid) hconflict fun _ _ => ?_
  refine ReadsTo.gate_bind (readsTo_resolveUser hu) hconflict ?_
  rintro _ rfl
  refine ReadsTo.gate_bind (readsTo_checkUntried a) hconflict fun _ _ => ?_
  refine ReadsTo.gate_bind (Lifecycle.readsTo_find hp) hconflict ?_
  rintro _ rfl
  rcases judge_cases setup p (some u.uid) a.key with ⟨hoffline, -⟩ | ⟨v', hjudged', hv⟩
  · exact absurd hjudged (hoffline v)
  obtain rfl := hjudged.unique hjudged'
  rw [hv, done_ok_bind]
  exact .reached (Or.inr rfl)

end Gates

/-! ## Attempts on their way at once -/

/-- The store with one more submission. -/
def Store.withSubmission (s : Store) (x : Submission) : Store :=
  { s with submissions := s.submissions ++ [x] }

theorem Store.sharesSetting_refl (s : Store) : s.SharesSetting s := ⟨rfl, rfl⟩

theorem Store.sharesSetting_withSubmission (s : Store) (x : Submission) :
    s.SharesSetting (s.withSubmission x) := ⟨rfl, rfl⟩

section Contention

/-! All attempts start from one store, under one setup.  Each is a time and what is sent in. -/

variable (setup : Setup) (s : Store) (calls : List (Int × Attempt))

/-- The operation is one of the attempts, there is a verdict on it, and it is on its way to be stored
or has ended in a conflict. -/
def Thread.Contends (t : Thread) : Prop :=
  ∃ call ∈ calls, ∃ (p : Problem) (v : Verdict) (q : Program Pipeline.Result),
    t = ⟨.submit call.1 call.2, q⟩ ∧ s.Grades setup call.2.normalized p v ∧
      q.ReadsTo s.SharesSetting (Pipeline.IsLast call.1 call.2.normalized p v)

/-- Nothing is stored yet, and every attempt would be accepted if it went on alone. -/
structure World.Undecided (w : World) : Prop where
  store_eq : w.store = s
  contends : ∀ t ∈ w.threads, t.Contends setup s calls
  accepts : ∀ t ∈ w.threads, Succeeds (t.rest.run .none s).1

/-- One attempt has been stored and accepted.  All others still contend. -/
structure World.Decided (w : World) : Prop where
  exists_stored : ∃ call ∈ calls, ∃ (p : Problem) (v : Verdict),
    s.Grades setup call.2.normalized p v ∧
    w.store = s.withSubmission (Pipeline.record call.1 call.2.normalized p v) ∧
    (⟨.submit call.1 call.2, .done (.ok ⟨v.correct, p.score, v.message⟩)⟩ : Thread) ∈ w.threads
  countP_eq_one : w.threads.countP (·.succeeded) = 1
  contends : ∀ t ∈ w.threads, t.succeeded = true ∨ t.Contends setup s calls

variable {setup s calls}

/-- Who contends has not been accepted. -/
theorem Thread.Contends.succeeded_eq_false {t : Thread} (h : t.Contends setup s calls) :
    t.succeeded = false := by
  obtain ⟨call, -, p, v, q, rfl, -, hreads⟩ := h
  cases q with
  | ask c next => rfl
  | done r =>
    rcases hreads.of_done with ⟨e, he, -⟩ | hstoring
    · cases he
      rfl
    · cases hstoring

/-- Who contends and has a result has met a conflict. -/
theorem Thread.Contends.exists_conflict {t : Thread} (h : t.Contends setup s calls)
    (hfinished : t.Finished) : ∃ e : Failure, t.rest = .done (.error e) ∧ e.kind = .conflict := by
  obtain ⟨call, -, p, v, q, rfl, -, hreads⟩ := h
  obtain ⟨r, rfl⟩ : ∃ r, q = .done r := hfinished
  rcases hreads.of_done with ⟨e, he, hconflict⟩ | hstoring
  · exact ⟨e, he, hconflict⟩
  · cases hstoring

/-- The last step is to store the attempt.  It is refused if it has been tried, and that is a
conflict; otherwise it is stored and accepted. -/
theorem Pipeline.storing_cases {now : Int} {a : Attempt} {p : Problem} {v : Verdict} {c : Call}
    {next : Except Failure c.Reply → Program Pipeline.Result}
    (h : .ask c next = storing now a p v) (t : Store) :
    ((c.perform t).2 = t ∧ next (c.perform t).1 = .done (.error .alreadyTried)) ∨
      ¬t.HasTried a.tid a.pid a.key ∧ (c.perform t).2 = t.withSubmission (record now a p v) ∧
        next (c.perform t).1 = .done (.ok ⟨v.correct, p.score, v.message⟩) := by
  change _ = Program.ask (.insertSubmission (record now a p v)) _ at h
  cases h
  rcases Store.insertSubmission_cases (record now a p v) t with ⟨-, hrefused⟩ | ⟨hnew, hstored⟩
  · refine Or.inl ⟨congrArg Prod.snd hrefused, ?_⟩
    change (((Program.done (t.insertSubmission (record now a p v)).1).mapFailure triedIfStored).bind
      _) = _
    rw [hrefused]
    rfl
  · refine Or.inr ⟨?_, congrArg Prod.snd hstored, ?_⟩
    · rintro ⟨y, hy, hsame⟩
      have htried := (Submission.sameAttempt_iff y (record now a p v)).2 hsame
      rw [hnew y hy] at htried
      cases htried
    · change (((Program.done (t.insertSubmission (record now a p v)).1).mapFailure
        triedIfStored).bind _) = _
      rw [hstored]
      rfl

/-- **A turn of one that contends**: it leaves the store as it is, and the operation contends still;
or the attempt has not been tried, it is stored, and the operation is accepted. -/
theorem Thread.Contends.turn_cases {o : Operation} {c : Call}
    {next : Except Failure c.Reply → Program o.Result}
    (h : Thread.Contends setup s calls ⟨o, .ask c next⟩) {t : Store} (ht : s.SharesSetting t) :
    ((c.perform t).2 = t ∧ Thread.Contends setup s calls ⟨o, next (c.perform t).1⟩) ∨
      ∃ call ∈ calls, ∃ (p : Problem) (v : Verdict),
        s.Grades setup call.2.normalized p v ∧
        ¬t.HasTried call.2.tid call.2.pid call.2.normalized.key ∧
        (c.perform t).2 = t.withSubmission (Pipeline.record call.1 call.2.normalized p v) ∧
        (⟨o, next (c.perform t).1⟩ : Thread) =
          ⟨.submit call.1 call.2, .done (.ok ⟨v.correct, p.score, v.message⟩)⟩ := by
  obtain ⟨call, hcall, p, v, q, heq, hgrades, hreads⟩ := h
  cases heq
  -- a conflict has no call left; the last step is told apart by what the store answers
  rcases hreads.ask_cases with (⟨e, he, -⟩ | hstoring) | ⟨hread, hnext⟩
  · cases he
  · rcases Pipeline.storing_cases hstoring t with ⟨hstore, hresult⟩ | ⟨huntried, hstore, hresult⟩
    · refine Or.inl ⟨hstore, call, hcall, p, v, _, rfl, hgrades, ?_⟩
      rw [hresult]
      exact .reached (Or.inl ⟨_, rfl, rfl⟩)
    · rw [hresult]
      exact Or.inr ⟨call, hcall, p, v, hgrades, huntried, hstore, rfl⟩
  · exact Or.inl ⟨hread.snd_perform t, call, hcall, p, v, _, rfl, hgrades, hnext t ht⟩

/-! ## What a turn keeps -/

/-- As long as nothing is stored, a turn is one step of the way that the operation would go alone, or
it is the one that stores. -/
theorem World.Undecided.turn {w w' : World} (h : w.Undecided setup s calls) (hturn : w.Turn w') :
    w'.Undecided setup s calls ∨ w'.Decided setup s calls := by
  obtain ⟨hstore, hcontends, haccepts⟩ := h
  cases hturn with
  | @call before after o c next t =>
    obtain rfl : t = s := hstore
    have hmem : (⟨o, .ask c next⟩ : Thread) ∈ before ++ ⟨o, .ask c next⟩ :: after :=
      List.mem_append_cons_self
    rcases (hcontends _ hmem).turn_cases t.sharesSetting_refl with
      ⟨hstays, hnext⟩ | ⟨call, hcall, p, v, hgrades, -, hstored, hdone⟩
    · -- running alone would have begun with the very same call
      refine Or.inl ⟨hstays, World.forall_threads_replace hcontends hnext,
        World.forall_threads_replace haccepts ?_⟩
      have halone : Succeeds ((next (c.perform t).1).run .none (c.perform t).2).1 := haccepts _ hmem
      rw [hstays] at halone
      exact halone
    · have hothers : ∀ u ∈ before ++ after, ¬u.succeeded = true := by
        intro u hu
        rw [Bool.not_eq_true]
        refine (hcontends u ?_).succeeded_eq_false
        exact List.mem_append.2 ((List.mem_append.1 hu).imp_right (List.mem_cons_of_mem _))
      refine Or.inr ⟨⟨call, hcall, p, v, hgrades, hstored, ?_⟩, ?_, ?_⟩
      · rw [hdone]
        exact List.mem_append_cons_self
      · have hnone : (before ++ after).countP (·.succeeded) = 0 := List.countP_eq_zero.2 hothers
        rw [List.countP_append] at hnone
        rw [hdone, List.countP_append, List.countP_cons_of_pos rfl]
        omega
      · rw [hdone]
        exact World.forall_threads_replace (fun u hu => Or.inr (hcontends u hu)) (Or.inl rfl)

/-- Once one attempt is stored, any other with the same key is refused by the store, if it comes that
far. -/
theorem World.Decided.turn {a : Attempt}
    (hsame : ∀ call ∈ calls, call.2.tid = a.tid ∧ call.2.pid = a.pid ∧
      Text.trim call.2.key = Text.trim a.key)
    {w w' : World} (h : w.Decided setup s calls) (hturn : w.Turn w') :
    w'.Decided setup s calls := by
  obtain ⟨⟨call, hcall, p, v, hgrades, hstore, hwinner⟩, hone, hcontends⟩ := h
  cases hturn with
  | @call before after o c next t =>
    obtain rfl : t = s.withSubmission (Pipeline.record call.1 call.2.normalized p v) := hstore
    have hasked : Thread.Contends setup s calls ⟨o, .ask c next⟩ :=
      (hcontends _ List.mem_append_cons_self).resolve_left Bool.false_ne_true
    rcases hasked.turn_cases (s.sharesSetting_withSubmission _) with
      ⟨hstays, hnext⟩ | ⟨call', hcall', -, -, -, huntried, -⟩
    · refine ⟨⟨call, hcall, p, v, hgrades, hstays, ?_⟩, ?_,
        World.forall_threads_replace hcontends (Or.inr hnext)⟩
      · rcases List.mem_append.1 hwinner with hwinner | hwinner
        · exact List.mem_append.2 (Or.inl hwinner)
        · rcases List.mem_cons.1 hwinner with heq | hwinner
          · cases heq
          · exact List.mem_append.2 (Or.inr (List.mem_cons_of_mem _ hwinner))
      · rw [List.countP_append, List.countP_cons] at hone ⊢
        rw [hnext.succeeded_eq_false]
        exact hone
    · -- what is stored already is this very attempt
      obtain ⟨htid, hpid, hkey⟩ := hsame call hcall
      obtain ⟨htid', hpid', hkey'⟩ := hsame call' hcall'
      exact absurd ⟨_, List.mem_append_cons_self, htid.trans htid'.symm, hpid.trans hpid'.symm,
        hkey.trans hkey'.symm⟩ huntried

/-! ## From the first call to the last -/

/-- All attempts are made at once on a store. -/
def World.attempts (setup : Setup) (s : Store) (calls : List (Int × Attempt)) : World :=
  ⟨s, calls.map fun call => .start setup (.submit call.1 call.2)⟩

/-- At first nothing is stored, and every attempt that the gates are open to would be accepted. -/
theorem World.undecided_attempts (hadmits : ∀ call ∈ calls, s.Admits call.2.normalized)
    (hgrades : ∀ call ∈ calls, ∃ p v, s.Grades setup call.2.normalized p v) :
    (World.attempts setup s calls).Undecided setup s calls := by
  refine ⟨rfl, ?_, ?_⟩ <;> rw [World.attempts, List.forall_mem_map] <;> intro call hcall
  · obtain ⟨p, v, hgrade⟩ := hgrades call hcall
    exact ⟨call, hcall, p, v, _, rfl, hgrade,
      Pipeline.readsTo_submitNormalized call.1 (hadmits call hcall).proper hgrade⟩
  · exact (Pipeline.accepts_iff setup s call.1 call.2.normalized).2
      ⟨hadmits call hcall, hgrades call hcall⟩

/-- However the turns follow each other, nothing is stored yet or one attempt has been. -/
theorem World.undecided_or_decided_of_turns {a : Attempt}
    (hsame : ∀ call ∈ calls, call.2.tid = a.tid ∧ call.2.pid = a.pid ∧
      Text.trim call.2.key = Text.trim a.key)
    {w w' : World} (h : w.Undecided setup s calls) (hturns : Relation.ReflTransGen Turn w w') :
    w'.Undecided setup s calls ∨ w'.Decided setup s calls := by
  induction hturns with
  | refl => exact Or.inl h
  | tail _ hturn ih =>
    rcases ih with hundecided | hdecided
    · exact hundecided.turn hturn
    · exact Or.inr (hdecided.turn hsame hturn)

/-- As long as nothing is stored, no operation has its result: it would be accepted, and it would
have met a conflict. -/
theorem World.Undecided.not_finished {w : World} (h : w.Undecided setup s calls) {t : Thread}
    (ht : t ∈ w.threads) : ¬t.Finished := by
  intro hfinished
  obtain ⟨e, hresult, -⟩ := (h.contends t ht).exists_conflict hfinished
  have haccepted := h.accepts t ht
  rw [hresult] at haccepted
  exact not_succeeds_error e haccepted

end Contention

/-- **Of identical attempts made at once, one is stored.**  Some attempt would be accepted if it were
made alone.  Now any number of attempts are made at once, all for its team, its problem and its
stripped key, and there is a verdict on each.  Their turns come to an end, in whatever order they are
taken.  Then one of the attempts is accepted, all others have met a conflict, and what has been added
to the store is the submission of the one that is accepted. -/
theorem one_stored_of_identical {setup : Setup} {s : Store} {now : Int} {a : Attempt}
    (haccepted : Succeeds ((Pipeline.submit setup now a).run .none s).1)
    {calls : List (Int × Attempt)} (hcalls : calls ≠ [])
    (hsame : ∀ call ∈ calls, call.2.tid = a.tid ∧ call.2.pid = a.pid ∧
      Text.trim call.2.key = Text.trim a.key)
    (hgrades : ∀ call ∈ calls, ∃ p v, s.Grades setup call.2.normalized p v) :
    Acc (fun w' w : World => w.Turn w') (World.attempts setup s calls) ∧
      ∀ w, Relation.ReflTransGen World.Turn (World.attempts setup s calls) w →
        (∀ w', ¬w.Turn w') →
          w.threads.map (·.operation) = calls.map (fun call => .submit call.1 call.2) ∧
          w.threads.countP (·.succeeded) = 1 ∧
          (∀ t ∈ w.threads, t.succeeded = false →
            ∃ e : Failure, t.rest = .done (.error e) ∧ e.kind = .conflict) ∧
          ∃ call ∈ calls, ∃ p v, s.Grades setup call.2.normalized p v ∧
            (⟨.submit call.1 call.2, .done (.ok ⟨v.correct, p.score, v.message⟩)⟩ : Thread) ∈
              w.threads ∧
            w.store = s.withSubmission (Pipeline.record call.1 call.2.normalized p v) := by
  have hadmitted : s.Admits a.normalized :=
    ((Pipeline.accepts_iff setup s now a.normalized).1 haccepted).1
  have hadmits : ∀ call ∈ calls, s.Admits call.2.normalized := by
    intro call hcall
    obtain ⟨htid, hpid, hkey⟩ := hsame call hcall
    exact hadmitted.of_same htid hpid hkey
  refine ⟨World.wellFounded_turn.apply _, fun w hturns hend => ?_⟩
  have hfinished := w.not_turn_iff.1 hend
  have hoperations := World.operations_of_turns hturns
  rw [World.attempts, List.map_map] at hoperations
  rcases World.undecided_or_decided_of_turns hsame (World.undecided_attempts hadmits hgrades)
    hturns with hundecided | hdecided
  · -- there is an operation, and it has a result
    have hthreads : w.threads ≠ [] := by
      intro hnone
      rw [hnone] at hoperations
      exact hcalls (List.map_eq_nil_iff.1 hoperations.symm)
    obtain ⟨t, ht⟩ := List.exists_mem_of_ne_nil _ hthreads
    exact absurd (hfinished t ht) (hundecided.not_finished ht)
  · obtain ⟨call, hcall, p, v, hgrade, hstore, hwinner⟩ := hdecided.exists_stored
    refine ⟨hoperations, hdecided.countP_eq_one, ?_, call, hcall, p, v, hgrade, hwinner, hstore⟩
    intro t ht hfailed
    rcases hdecided.contends t ht with hsucceeded | hcontends
    · rw [hsucceeded] at hfailed
      cases hfailed
    · exact hcontends.exists_conflict (hfinished t ht)

namespace Sample

/-- Another user of the team. -/
def teammate : User := ⟨"bob", "red", "Bob"⟩

/-- The flag without blanks. -/
def teammateAttempt : Attempt := { attempt with key := "flag", uid := teammate.uid }

end Sample

/-- Two teammates send in the flag at once, and the second overtakes the first.  There is one
submission, and it is the second one's. -/
theorem one_stored_of_two_teammates :
    let s := Sample.store.addUser Sample.teammate
    let calls := [(7, Sample.attempt), (8, Sample.teammateAttempt)]
    (Succeeds ((Pipeline.submit Sample.setup 7 Sample.attempt).run .none s).1 ∧ calls ≠ [] ∧
      (∀ call ∈ calls, call.2.tid = Sample.attempt.tid ∧ call.2.pid = Sample.attempt.pid ∧
        Text.trim call.2.key = Text.trim Sample.attempt.key) ∧
      ∀ call ∈ calls, ∃ p v, s.Grades Sample.setup call.2.normalized p v) ∧
    Acc (fun w' w : World => w.Turn w') (World.attempts Sample.setup s calls) ∧
    ∃ w, Relation.ReflTransGen World.Turn (World.attempts Sample.setup s calls) w ∧
      (∀ w', ¬w.Turn w') ∧ w.threads.countP (·.succeeded) = 1 ∧
      w.store.submissions.map (fun x => (x.uid, x.key)) = [("bob", "flag")] := by
  intro s calls
  have haccepted : Succeeds ((Pipeline.submit Sample.setup 7 Sample.attempt).run .none s).1 := by
    decide +kernel
  have hsame : ∀ call ∈ calls, call.2.tid = Sample.attempt.tid ∧
      call.2.pid = Sample.attempt.pid ∧ Text.trim call.2.key = Text.trim Sample.attempt.key := by
    decide +kernel
  have halone : ∀ call ∈ calls,
      Succeeds ((Pipeline.submit Sample.setup call.1 call.2).run .none s).1 := by
    decide +kernel
  have hgrades : ∀ call ∈ calls, ∃ p v, s.Grades Sample.setup call.2.normalized p v :=
    fun call hcall => ((Pipeline.accepts_iff Sample.setup s _ _).1 (halone call hcall)).2
  obtain ⟨hacc, hends⟩ :=
    one_stored_of_identical haccepted (List.cons_ne_nil _ _) hsame hgrades
  let first := Operation.submit 7 Sample.attempt
  let second := Operation.submit 8 Sample.teammateAttempt
  let overtaking := (second.program Sample.setup).run .none s
  let overtaken := (first.program Sample.setup).run .none overtaking.2
  let w : World := ⟨overtaken.2, [⟨first, .done overtaken.1⟩, ⟨second, .done overtaking.1⟩]⟩
  have hturns : Relation.ReflTransGen World.Turn (World.attempts Sample.setup s calls) w :=
    (@World.turns_alone [.start Sample.setup first] [] second _ s).trans
      (@World.turns_alone [] [⟨second, .done overtaking.1⟩] first _ overtaking.2)
  have hend : ∀ w', ¬w.Turn w' := by
    rw [World.not_turn_iff, List.forall_mem_cons, List.forall_mem_singleton]
    exact ⟨⟨_, rfl⟩, ⟨_, rfl⟩⟩
  exact ⟨⟨haccepted, List.cons_ne_nil _ _, hsame, hgrades⟩, hacc, w, hturns, hend,
    (hends w hturns hend).2.1, by decide +kernel⟩

end CaptureTheFlag
