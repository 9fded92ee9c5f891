import CaptureTheFlag.Proofs.Problem.Document
import CaptureTheFlag.Proofs.Problem.Lifecycle
import CaptureTheFlag.Proofs.Program.Ways
import CaptureTheFlag.Proofs.Service.History

/-!
# Two updates of one problem at once

An update finds the problem, puts new values in, and replaces the whole.  Between its first call and
its last another update may do the same.

* `Problem.IsUpdateOf`, `Problem.Says`, `Problem.Keeps`: a problem is what new values make of another
  one; it has the new values; it has in their fields what the other one has.
* `Thread.IsFresh`, `Thread.Holds`: an update has made no call; it has found this problem and has not
  replaced it yet.
* `World.Straddles`: one update found the problem before the other replaced it, and replaced it after.
* `World.Phase`: how far two updates have come, and `World.Phase.turn`: what a turn does to that.
* `lost_iff_straddled`: the fields of an update are lost exactly if the other one straddles it.

## What an update knows

All that an update knows of the problem is what its first call has found, and it never asks again.
So the two updates are told apart by one question: which of the problems was it that the later one
found, the one from before or the one that the earlier has left?  The invariant keeps the answer
together with the order of the calls that it comes from (`World.Once`).  An update that fails is of
no interest here, and it has failed for good; the invariant says no more about it.
-/

namespace CaptureTheFlag

open Program

/-! ## Updates of a problem -/

namespace Problem

/-- The problem is what new values for some fields make of the other one. -/
def IsUpdateOf (q p : Problem) (changes : Document) : Prop :=
  ∃ draft, Draft.IsOf (Lifecycle.merge p changes) draft ∧ q = ofDraft p.pid draft

/-- The problem has the new values. -/
def Says (q : Problem) (changes : Document) : Prop :=
  ∀ field value, changes.get? field = some value →
    q.toDocument.get? field = some (Lifecycle.storedValue field value)

/-- The problem has in these fields what the other one has. -/
def Keeps (q p : Problem) (changes : Document) : Prop :=
  ∀ field value, changes.get? field = some value →
    q.toDocument.get? field = p.toDocument.get? field

namespace IsUpdateOf

variable {p q : Problem} {changes : Document}

theorem pid_eq (h : q.IsUpdateOf p changes) : q.pid = p.pid := by
  obtain ⟨draft, -, rfl⟩ := h
  rfl

theorem toSays (h : q.IsUpdateOf p changes) : q.Says changes := by
  intro field value hvalue
  obtain ⟨draft, hdraft, rfl⟩ := h
  rw [hdraft.get?_of_merge, hvalue, Option.map_some, Option.some_or]

/-- A field without a new value is what it was. -/
theorem get?_eq (h : q.IsUpdateOf p changes) {field : String} (hfield : changes.get? field = none) :
    q.toDocument.get? field = p.toDocument.get? field := by
  obtain ⟨draft, hdraft, rfl⟩ := h
  rw [hdraft.get?_of_merge, hfield, Option.map_none, Option.none_or]

end IsUpdateOf

end Problem

namespace Lifecycle

/-- The last step of an update: the problem is replaced. -/
def storing (q : Problem) : Program Problem :=
  ((Program.call (.replaceProblem q)).mapFailure (takenIfStored q.name)).bind fun _ => .done (.ok q)

/-- What is left of an update when the problem has been found. -/
def replacing (setup : Setup) (changes : Document) (existing : Problem) : Program Problem := do
  let draft ← Draft.ofDocument (merge existing changes)
  if draft.grader ≠ existing.grader then
    checkGrader setup draft.grader
  let updated := Problem.ofDraft existing.pid draft
  if updated.name ≠ existing.name then
    checkName updated
  (Program.call (.replaceProblem updated)).mapFailure (takenIfStored updated.name)
  pure updated

theorem update_eq (setup : Setup) (pid : String) (changes : Document) :
    update setup pid changes = (find pid).bind (replacing setup changes) := rfl

/-- The update has failed, or all that is left is to put its problem in the place of the one that it
has found. -/
def IsSettled (p : Problem) (changes : Document) (q : Program Problem) : Prop :=
  q.Failed ∨ ∃ v : Problem, v.IsUpdateOf p changes ∧ q = storing v

theorem callsTo_replacing (setup : Setup) (changes : Document) (p : Problem) :
    (replacing setup changes p).CallsTo Call.IsLookup (IsSettled p changes) := by
  have herror : ∀ e, IsSettled p changes (.done (.error e)) := fun e => Or.inl ⟨e, rfl⟩
  refine CallsTo.done_bind herror fun draft hread => ?_
  have hdraft := Draft.ofDocument_eq_ok_iff.1 hread
  have hend : ∀ u : Unit, CallsTo Call.IsLookup (IsSettled p changes) (do
      (Program.call (.replaceProblem (Problem.ofDraft p.pid draft))).mapFailure
        (takenIfStored (Problem.ofDraft p.pid draft).name)
      pure (Problem.ofDraft p.pid draft)) := fun _ =>
    .reached (Or.inr ⟨_, ⟨draft, hdraft, rfl⟩, rfl⟩)
  have hname : ∀ u : Unit, CallsTo Call.IsLookup (IsSettled p changes) (do
      if (Problem.ofDraft p.pid draft).name ≠ p.name then
        checkName (Problem.ofDraft p.pid draft)
      (Program.call (.replaceProblem (Problem.ofDraft p.pid draft))).mapFailure
        (takenIfStored (Problem.ofDraft p.pid draft).name)
      pure (Problem.ofDraft p.pid draft)) := by
    intro u
    dsimp only
    split
    · exact CallsTo.bind (calls_checkName (fun _ h => h) _) herror hend
    · exact hend ()
  dsimp only
  split
  · exact CallsTo.done_bind herror fun _ _ => hname ()
  · exact hname ()

/-- The last step of an update.  The store refuses it, and it has failed; or the problem is stored
now. -/
theorem storing_cases {q : Problem} {c : Call} {next : Except Failure c.Reply → Program Problem}
    (h : .ask c next = storing q) (t : Store) :
    c = .replaceProblem q ∧
      ((next (c.perform t).1).Failed ∨
        (c.perform t).2.problem? q.pid = some q ∧ next (c.perform t).1 = .done (.ok q)) := by
  change _ = Program.ask (.replaceProblem q) _ at h
  cases h
  refine ⟨rfl, ?_⟩
  rcases Store.replaceProblem_cases q t with hrefused | hrefused | ⟨-, -, hstored⟩
  · refine Or.inl ⟨takenIfStored q.name (.problemStored q.name), ?_⟩
    change (((Program.done (t.replaceProblem q).1).mapFailure (takenIfStored q.name)).bind _) = _
    rw [hrefused]
    rfl
  · refine Or.inl ⟨takenIfStored q.name (.problemNotStored q.pid), ?_⟩
    change (((Program.done (t.replaceProblem q).1).mapFailure (takenIfStored q.name)).bind _) = _
    rw [hrefused]
    rfl
  · refine Or.inr ⟨?_, ?_⟩
    · show (t.replaceProblem q).2.problem? q.pid = some q
      rw [hstored]
      show (t.problems.insert q.pid q).get? q.pid = some q
      rw [KeyMap.get?_insert, if_pos rfl]
    · change (((Program.done (t.replaceProblem q).1).mapFailure (takenIfStored q.name)).bind _) = _
      rw [hstored]
      rfl

end Lifecycle

/-! ## Updates under way -/

/-- The operation gives new values to some fields of the problem. -/
inductive Operation.Updates (pid : String) : Operation → Document → Prop where
  | update (changes : Document) : Updates pid (.update pid changes) changes
  | setDisabled (disabled : Bool) :
      Updates pid (.setDisabled pid disabled) (KeyMap.empty.insert "disabled" (.bool disabled))

namespace Thread

/-- The operation is such an update, and this is what is left of it. -/
inductive Updates (pid : String) : Document → Program Problem → Thread → Prop where
  | update (changes : Document) (q : Program Problem) :
      Updates pid changes q ⟨.update pid changes, q⟩
  | setDisabled (disabled : Bool) (q : Program Problem) :
      Updates pid (KeyMap.empty.insert "disabled" (.bool disabled)) q
        ⟨.setDisabled pid disabled, q⟩

namespace Updates

variable {setup : Setup} {pid : String} {changes : Document} {q : Program Problem} {t : Thread}

theorem start {o : Operation} (h : o.Updates pid changes) :
    Updates pid changes (Lifecycle.update setup pid changes) (.start setup o) := by
  cases h with
  | update => exact .update _ _
  | setDisabled disabled => exact .setDisabled disabled _

theorem next {o : Operation} {c : Call} {next : Except Failure c.Reply → Program o.Result}
    (h : Updates pid changes q ⟨o, .ask c next⟩) :
    ∃ next' : Except Failure c.Reply → Program Problem, q = .ask c next' ∧
      ∀ r, Updates pid changes (next' r) ⟨o, next r⟩ := by
  generalize ht : (⟨o, .ask c next⟩ : Thread) = t at h
  cases h with
  | update =>
    cases ht
    exact ⟨next, rfl, fun r => .update _ _⟩
  | setDisabled disabled =>
    cases ht
    exact ⟨next, rfl, fun r => .setDisabled disabled _⟩

theorem exists_of_succeeded (h : Updates pid changes q t) (hsucceeded : t.succeeded = true) :
    ∃ v, q = .done (.ok v) := by
  cases h <;>
  · cases q with
    | ask c next => cases hsucceeded
    | done r =>
      cases r with
      | error e => cases hsucceeded
      | ok v => exact ⟨v, rfl⟩

theorem finished (h : Updates pid changes q t) {r : Except Failure Problem} (hq : q = .done r) :
    t.Finished := by
  subst hq
  cases h <;> exact ⟨r, rfl⟩

theorem not_succeeded (h : Updates pid changes q t) (hq : q.Failed) : t.succeeded = false := by
  obtain ⟨e, rfl⟩ := hq
  cases h <;> rfl

end Updates

variable (setup : Setup) (pid : String) (changes : Document)

/-- The update has not made any call. -/
def IsFresh (t : Thread) : Prop := t.Updates pid changes (Lifecycle.update setup pid changes)

/-- The update has found this problem, and has not replaced it yet. -/
def Holds (p : Problem) (t : Thread) : Prop :=
  ∃ q, t.Updates pid changes q ∧ q.CallsTo Call.IsLookup (Lifecycle.IsSettled p changes)

variable {setup pid changes} {o : Operation} {c : Call}
  {next : Except Failure c.Reply → Program o.Result}

/-- The first call of an update finds the problem. -/
theorem IsFresh.turn (h : IsFresh setup pid changes ⟨o, .ask c next⟩) {s : Store} {p : Problem}
    (hp : s.problem? pid = some p) :
    c = .findProblem pid ∧ (c.perform s).2 = s ∧
      Holds pid changes p ⟨o, next (c.perform s).1⟩ := by
  obtain ⟨next', hq, hnext⟩ := Updates.next h
  rw [Lifecycle.update_eq] at hq
  change Program.ask (.findProblem pid) _ = .ask c next' at hq
  cases hq
  refine ⟨rfl, rfl, _, hnext _, ?_⟩
  show CallsTo _ _ (((Program.done (.ok (s.problem? pid))).bind _).bind
    (Lifecycle.replacing setup changes))
  rw [hp]
  exact Lifecycle.callsTo_replacing setup changes p

/-- **A call of an update that has found the problem**: a look-up; or the update has failed; or the
problem with the new values is stored. -/
theorem Holds.turn {p : Problem} (h : Holds pid changes p ⟨o, .ask c next⟩) (s : Store) :
    (c.IsLookup ∧ Holds pid changes p ⟨o, next (c.perform s).1⟩) ∨
      (Thread.Finished ⟨o, next (c.perform s).1⟩ ∧
        Thread.succeeded ⟨o, next (c.perform s).1⟩ = false) ∨
      ∃ v : Problem, v.IsUpdateOf p changes ∧ c = .replaceProblem v ∧
        (c.perform s).2.problem? v.pid = some v ∧ Thread.Finished ⟨o, next (c.perform s).1⟩ := by
  obtain ⟨q, hupdates, hcalls⟩ := h
  obtain ⟨next', rfl, hnext⟩ := hupdates.next
  rcases hcalls.ask_cases with (⟨e, he⟩ | ⟨v, hv, hstoring⟩) | ⟨hlookup, hcalls⟩
  · cases he
  · obtain ⟨hc, ⟨e, hfailed⟩ | ⟨hstored, hdone⟩⟩ := Lifecycle.storing_cases hstoring s
    · exact Or.inr (Or.inl ⟨(hnext _).finished hfailed, (hnext _).not_succeeded ⟨e, hfailed⟩⟩)
    · exact Or.inr (Or.inr ⟨v, hv, hc, hstored, (hnext _).finished hdone⟩)
  · exact Or.inl ⟨hlookup, _, hnext _, hcalls _⟩

theorem IsFresh.not_succeeded {t : Thread} (h : IsFresh setup pid changes t) :
    ¬t.succeeded = true := by
  intro hsucceeded
  obtain ⟨v, hv⟩ := Updates.exists_of_succeeded h hsucceeded
  cases hv

theorem Holds.not_succeeded {p : Problem} {t : Thread} (h : Holds pid changes p t) :
    ¬t.succeeded = true := by
  intro hsucceeded
  obtain ⟨q, hupdates, hcalls⟩ := h
  obtain ⟨v, rfl⟩ := hupdates.exists_of_succeeded hsucceeded
  rcases hcalls.of_done with ⟨e, he⟩ | ⟨v, -, hstoring⟩
  · cases he
  · cases hstoring

end Thread

/-! ## The order of the calls -/

namespace World

/-- The update at one place found the problem before the one at the other place replaced it. -/
def FoundBefore (pid : String) (events : List Event) (j i : Nat) : Prop :=
  ∃ x, [⟨j, .findProblem pid⟩, ⟨i, .replaceProblem x⟩].Sublist events

/-- The update at one place found the problem before the one at the other place replaced it, and
replaced it after. -/
def Straddles (pid : String) (events : List Event) (j i : Nat) : Prop :=
  ∃ x y, [⟨j, .findProblem pid⟩, ⟨i, .replaceProblem x⟩, ⟨j, .replaceProblem y⟩].Sublist events

variable {pid : String} {events : List Event} {i j m : Nat} {c : Call}

theorem foundBefore_concat_iff :
    FoundBefore pid (events ++ [⟨m, c⟩]) j i ↔ FoundBefore pid events j i ∨
      (⟨j, .findProblem pid⟩ : Event) ∈ events ∧ m = i ∧ ∃ x, c = .replaceProblem x := by
  unfold FoundBefore
  simp only [sublist_snoc_iff, Event.mk.injEq, exists_or]
  refine or_congr_right ⟨?_, ?_⟩
  · rintro ⟨x, hmem, rfl, rfl⟩
    exact ⟨hmem, rfl, x, rfl⟩
  · rintro ⟨hmem, rfl, x, rfl⟩
    exact ⟨x, hmem, rfl, rfl⟩

theorem straddles_concat_iff :
    Straddles pid (events ++ [⟨m, c⟩]) j i ↔ Straddles pid events j i ∨
      FoundBefore pid events j i ∧ m = j ∧ ∃ y, c = .replaceProblem y := by
  have hconcat (x y : Problem) :
      [⟨j, .findProblem pid⟩, ⟨i, .replaceProblem x⟩, ⟨j, .replaceProblem y⟩].Sublist
          (events ++ [⟨m, c⟩]) ↔
        [⟨j, .findProblem pid⟩, ⟨i, .replaceProblem x⟩, ⟨j, .replaceProblem y⟩].Sublist events ∨
          [⟨j, .findProblem pid⟩, ⟨i, .replaceProblem x⟩].Sublist events ∧
            (⟨j, .replaceProblem y⟩ : Event) = ⟨m, c⟩ :=
    concat_sublist_concat_iff (l := [_, _])
  constructor
  · rintro ⟨x, y, h⟩
    rcases (hconcat x y).1 h with hbefore | ⟨hbefore, hlast⟩
    · exact Or.inl ⟨x, y, hbefore⟩
    · cases hlast
      exact Or.inr ⟨⟨x, hbefore⟩, rfl, y, rfl⟩
  · rintro (⟨x, y, h⟩ | ⟨⟨x, h⟩, rfl, y, rfl⟩)
    · exact ⟨x, y, (hconcat x y).2 (Or.inl h)⟩
    · exact ⟨x, y, (hconcat x y).2 (Or.inr ⟨h, rfl⟩)⟩

theorem not_foundBefore_of_notMem (h : (⟨j, .findProblem pid⟩ : Event) ∉ events) :
    ¬FoundBefore pid events j i := by
  rintro ⟨x, hsublist⟩
  exact h (hsublist.subset List.mem_cons_self)

theorem not_straddles_of_notMem (h : ∀ x, (⟨j, .replaceProblem x⟩ : Event) ∉ events) :
    ¬Straddles pid events j i := by
  rintro ⟨x, y, hsublist⟩
  exact h y (hsublist.subset (by simp))

/-! ## Two updates from their first calls to their last -/

section Phases

variable (setup : Setup) (pid : String) (p : Problem) (changes : Nat → Document)

/-- Nothing is replaced, and an update that has found the problem has found it as it was. -/
structure Untouched (events : List Event) (w : World) : Prop where
  stored : w.store.problem? pid = some p
  none_replaced : ∀ k x, (⟨k, .replaceProblem x⟩ : Event) ∉ events
  threads : ∀ (k : Nat) (t : Thread), w.threads[k]? = some t →
    t.IsFresh setup pid (changes k) ∧ (⟨k, .findProblem pid⟩ : Event) ∉ events ∨
      t.Holds pid (changes k) p ∧ (⟨k, .findProblem pid⟩ : Event) ∈ events

/-- One update has replaced the problem by another one.  Which of the two the other update has found
depends on when it looked. -/
structure Once (events : List Event) (w : World) (i j : Nat) (x : Problem) : Prop where
  ne : i ≠ j
  isUpdateOf : x.IsUpdateOf p (changes i)
  stored : w.store.problem? pid = some x
  finished : ∃ t : Thread, w.threads[i]? = some t ∧ t.Finished
  only : ∀ k y, (⟨k, .replaceProblem y⟩ : Event) ∈ events → k = i
  other : ∃ t : Thread, w.threads[j]? = some t ∧
    (t.IsFresh setup pid (changes j) ∧ (⟨j, .findProblem pid⟩ : Event) ∉ events ∨
      ∃ r, t.Holds pid (changes j) r ∧
        (r = p ∧ FoundBefore pid events j i ∨ r = x ∧ ¬FoundBefore pid events j i))

/-- Both updates have replaced the problem, first the one and then the other. -/
structure Twice (events : List Event) (w : World) (i j : Nat) (q : Problem) : Prop where
  ne : i ≠ j
  stored : w.store.problem? pid = some q
  finished : ∀ k, k = i ∨ k = j → ∃ t : Thread, w.threads[k]? = some t ∧ t.Finished
  not_straddles : ¬Straddles pid events i j
  isUpdateOf : q.IsUpdateOf p (changes j) ∧ Straddles pid events j i ∨
    (∃ x : Problem, x.IsUpdateOf p (changes i) ∧ q.IsUpdateOf x (changes j)) ∧
      ¬Straddles pid events j i

/-- How far two updates have come that are under way at once. -/
inductive Phase (events : List Event) (w : World) : Prop where
  | failed {t : Thread} (ht : t ∈ w.threads) (hfinished : t.Finished)
      (hfailed : t.succeeded = false)
  | untouched (h : Untouched setup pid p changes events w)
  | once {i j : Nat} {x : Problem} (h : Once setup pid p changes events w i j x)
  | twice {i j : Nat} {q : Problem} (h : Twice pid p changes events w i j q)

variable {setup pid p changes} {v w : World} {x : Problem} {o : Operation}
  {next : Except Failure c.Reply → Program o.Result}

namespace Untouched

/-- An update reads on, or reads for the first time, and holds the problem as it was. -/
theorem read (h : v.Untouched setup pid p changes events)
    (hthread : v.threads[m]? = some ⟨o, .ask c next⟩) (hc : c.IsRead)
    (hholds : Thread.Holds pid (changes m) p ⟨o, next (c.perform v.store).1⟩)
    (hmem : (⟨m, .findProblem pid⟩ : Event) ∈ events ++ [⟨m, c⟩]) :
    Untouched setup pid p changes (events ++ [⟨m, c⟩])
      ⟨(c.perform v.store).2, v.threads.set m ⟨o, next (c.perform v.store).1⟩⟩ := by
  refine ⟨(hc.snd_perform v.store).symm ▸ h.stored, fun k x hx => ?_, fun k t ht => ?_⟩
  · rcases List.mem_append.1 hx with hx | hx
    · exact h.none_replaced k x hx
    · cases List.mem_singleton.1 hx
      exact hc
  · rw [getElem?_set_threads hthread] at ht
    by_cases hk : k = m
    · rw [if_pos hk] at ht
      cases ht
      exact Or.inr ⟨hk ▸ hholds, hk ▸ hmem⟩
    · rw [if_neg hk] at ht
      rw [mem_concat_iff_of_ne hk]
      exact h.threads k t ht

/-- An update is the first to replace the problem. -/
theorem write (h : v.Untouched setup pid p changes events) (hpid : p.pid = pid)
    (hlength : v.threads.length = 2) (hthread : v.threads[m]? = some ⟨o, .ask c next⟩)
    (hx : x.IsUpdateOf p (changes m)) (hc : c = .replaceProblem x)
    (hstored : (c.perform v.store).2.problem? x.pid = some x)
    (hfinished : Thread.Finished ⟨o, next (c.perform v.store).1⟩) :
    ∃ j, Once setup pid p changes (events ++ [⟨m, c⟩])
      ⟨(c.perform v.store).2, v.threads.set m ⟨o, next (c.perform v.store).1⟩⟩ m j x := by
  have hset := getElem?_set_threads hthread ⟨o, next (c.perform v.store).1⟩
  obtain ⟨j, hj, hjm⟩ : ∃ j, j < v.threads.length ∧ j ≠ m := by
    refine ⟨1 - m, ?_, ?_⟩ <;> omega
  have hother := List.getElem?_eq_getElem hj
  rw [hx.pid_eq, hpid] at hstored
  refine ⟨j, hjm.symm, hx, hstored, ⟨_, (hset m).trans (if_pos rfl), hfinished⟩, fun k y hy => ?_,
    _, ((hset j).trans (if_neg hjm)).trans hother, ?_⟩
  · rcases List.mem_append.1 hy with hy | hy
    · exact absurd hy (h.none_replaced k y)
    · exact (Event.mk.inj (List.mem_singleton.1 hy)).1
  · rcases h.threads j _ hother with ⟨hfresh, hmem⟩ | ⟨hholds, hmem⟩
    · exact Or.inl ⟨hfresh, (mem_concat_iff_of_ne hjm _ _).not.2 hmem⟩
    · exact Or.inr ⟨p, hholds, Or.inl ⟨rfl, foundBefore_concat_iff.2 (Or.inr ⟨hmem, rfl, x, hc⟩)⟩⟩

/-- A turn before anything is replaced. -/
theorem turn (h : v.Untouched setup pid p changes events) (hpid : p.pid = pid)
    (hlength : v.threads.length = 2) (hturn : v.turn? m = some (c, w)) :
    w.Phase setup pid p changes (events ++ [⟨m, c⟩]) := by
  obtain ⟨o, next, hthread, rfl⟩ := turn?_eq_some hturn
  rcases h.threads m _ hthread with ⟨hfresh, -⟩ | ⟨hholds, hmem⟩
  · obtain ⟨rfl, -, hholds⟩ := hfresh.turn h.stored
    exact .untouched (h.read hthread trivial hholds List.mem_concat_self)
  · rcases hholds.turn v.store with ⟨hlookup, hholds⟩ | ⟨hfinished, hfailed⟩ |
      ⟨x, hx, hc, hstored, hfinished⟩
    · have hfound := List.mem_append_left [(⟨m, c⟩ : Event)] hmem
      exact .untouched (h.read hthread hlookup.isRead hholds hfound)
    · have hset := getElem?_set_threads hthread ⟨o, next (c.perform v.store).1⟩ m
      exact .failed (List.mem_of_getElem? (hset.trans (if_pos rfl))) hfinished hfailed
    · obtain ⟨j, honce⟩ := h.write hpid hlength hthread hx hc hstored hfinished
      exact .once honce

end Untouched

namespace Once

variable {i j : Nat} {r q : Problem}

/-- The other update reads on, or reads for the first time, and holds what it has found. -/
theorem read (h : v.Once setup pid p changes events i j x)
    (hthread : v.threads[j]? = some ⟨o, .ask c next⟩) (hc : c.IsRead)
    (hholds : Thread.Holds pid (changes j) r ⟨o, next (c.perform v.store).1⟩)
    (hr : r = p ∧ FoundBefore pid events j i ∨ r = x ∧ ¬FoundBefore pid events j i) :
    Once setup pid p changes (events ++ [⟨j, c⟩])
      ⟨(c.perform v.store).2, v.threads.set j ⟨o, next (c.perform v.store).1⟩⟩ i j x := by
  have hset := getElem?_set_threads hthread ⟨o, next (c.perform v.store).1⟩
  have hfound : FoundBefore pid (events ++ [⟨j, c⟩]) j i ↔ FoundBefore pid events j i := by
    rw [foundBefore_concat_iff, or_iff_left]
    rintro ⟨-, hji, -⟩
    exact h.ne hji.symm
  obtain ⟨t, ht, hfinished⟩ := h.finished
  refine ⟨h.ne, h.isUpdateOf, (hc.snd_perform v.store).symm ▸ h.stored,
    ⟨t, ((hset i).trans (if_neg h.ne)).trans ht, hfinished⟩, fun k y hy => ?_,
    _, (hset j).trans (if_pos rfl), Or.inr ⟨r, hholds, ?_⟩⟩
  · rcases List.mem_append.1 hy with hy | hy
    · exact h.only k y hy
    · cases List.mem_singleton.1 hy
      exact hc.elim
  · rw [hfound]
    exact hr

/-- The other update replaces the problem, too. -/
theorem write (h : v.Once setup pid p changes events i j x) (hrpid : r.pid = pid)
    (hthread : v.threads[j]? = some ⟨o, .ask c next⟩) (hq : q.IsUpdateOf r (changes j))
    (hc : c = .replaceProblem q) (hstored : (c.perform v.store).2.problem? q.pid = some q)
    (hdone : Thread.Finished ⟨o, next (c.perform v.store).1⟩)
    (hr : r = p ∧ FoundBefore pid events j i ∨ r = x ∧ ¬FoundBefore pid events j i) :
    Twice pid p changes (events ++ [⟨j, c⟩])
      ⟨(c.perform v.store).2, v.threads.set j ⟨o, next (c.perform v.store).1⟩⟩ i j q := by
  have hset := getElem?_set_threads hthread ⟨o, next (c.perform v.store).1⟩
  have hnone (y : Problem) : (⟨j, .replaceProblem y⟩ : Event) ∉ events :=
    fun hy => h.ne (h.only j y hy).symm
  have hstraddles : Straddles pid (events ++ [⟨j, c⟩]) j i ↔ FoundBefore pid events j i := by
    rw [straddles_concat_iff, or_iff_right (not_straddles_of_notMem hnone)]
    exact ⟨fun h => h.1, fun h => ⟨h, rfl, q, hc⟩⟩
  rw [hq.pid_eq, hrpid] at hstored
  obtain ⟨t, ht, hfinished⟩ := h.finished
  refine ⟨h.ne, hstored, ?_, ?_, ?_⟩
  · rintro k (rfl | rfl)
    · exact ⟨t, ((hset _).trans (if_neg h.ne)).trans ht, hfinished⟩
    · exact ⟨_, (hset _).trans (if_pos rfl), hdone⟩
  · rw [straddles_concat_iff]
    rintro (⟨y, z, hsublist⟩ | ⟨-, hji, -⟩)
    · exact hnone y (hsublist.subset (by simp))
    · exact h.ne hji.symm
  · rw [hstraddles]
    rcases hr with ⟨rfl, hfound⟩ | ⟨rfl, hfound⟩
    · exact Or.inl ⟨hq, hfound⟩
    · exact Or.inr ⟨⟨_, h.isUpdateOf, hq⟩, hfound⟩

/-- A turn after one update has replaced the problem: the other one takes it. -/
theorem turn (h : v.Once setup pid p changes events i j x) (hpid : p.pid = pid)
    (hlength : v.threads.length = 2) (hturn : v.turn? m = some (c, w)) :
    w.Phase setup pid p changes (events ++ [⟨m, c⟩]) := by
  obtain ⟨t, ht, hfinished⟩ := h.finished
  obtain ⟨t', ht', hother⟩ := h.other
  have him := (getElem?_of_finished hturn ht hfinished).1
  obtain ⟨o, next, hthread, rfl⟩ := turn?_eq_some hturn
  obtain rfl : j = m := by
    have hi := (List.getElem?_eq_some_iff.1 ht).1
    have hj := (List.getElem?_eq_some_iff.1 ht').1
    have hm := (List.getElem?_eq_some_iff.1 hthread).1
    have hne := h.ne
    omega
  obtain rfl := Option.some.inj (ht'.symm.trans hthread)
  rcases hother with ⟨hfresh, hmem⟩ | ⟨r, hholds, hr⟩
  · obtain ⟨rfl, -, hholds⟩ := hfresh.turn h.stored
    exact .once (h.read hthread trivial hholds (Or.inr ⟨rfl, not_foundBefore_of_notMem hmem⟩))
  · have hrpid : r.pid = pid := by
      rcases hr with ⟨rfl, -⟩ | ⟨rfl, -⟩
      · exact hpid
      · exact h.isUpdateOf.pid_eq.trans hpid
    rcases hholds.turn v.store with ⟨hlookup, hholds⟩ | ⟨hdone, hfailed⟩ |
      ⟨q, hq, hc, hstored, hdone⟩
    · exact .once (h.read hthread hlookup.isRead hholds hr)
    · have hset := getElem?_set_threads hthread ⟨o, next (c.perform v.store).1⟩ j
      exact .failed (List.mem_of_getElem? (hset.trans (if_pos rfl))) hdone hfailed
    · exact .twice (h.write hrpid hthread hq hc hstored hdone hr)

end Once

/-- **A turn leads from one phase to the same or to a later one.** -/
theorem Phase.turn (h : v.Phase setup pid p changes events) (hpid : p.pid = pid)
    (hlength : v.threads.length = 2) (hturn : v.turn? m = some (c, w)) :
    w.Phase setup pid p changes (events ++ [⟨m, c⟩]) := by
  cases h with
  | failed ht hfinished hfailed =>
    obtain ⟨k, hk⟩ := List.mem_iff_getElem?.1 ht
    have hkept := (getElem?_of_finished hturn hk hfinished).2
    exact .failed (List.mem_of_getElem? hkept) hfinished hfailed
  | untouched h => exact h.turn hpid hlength hturn
  | once h => exact h.turn hpid hlength hturn
  | @twice i j q h =>
    -- there is nobody left to take a turn
    obtain ⟨t, ht, hfinished⟩ := h.finished i (Or.inl rfl)
    obtain ⟨t', ht', hfinished'⟩ := h.finished j (Or.inr rfl)
    have hi := (List.getElem?_eq_some_iff.1 ht).1
    have hj := (List.getElem?_eq_some_iff.1 ht').1
    have him := (getElem?_of_finished hturn ht hfinished).1
    have hjm := (getElem?_of_finished hturn ht' hfinished').1
    obtain ⟨o, next, hthread, -⟩ := turn?_eq_some hturn
    have hm := (List.getElem?_eq_some_iff.1 hthread).1
    have hne := h.ne
    omega

/-- The two updates start on a store that has the problem. -/
theorem phase_start {s : Store} (hstored : s.problem? pid = some p)
    {jobs : List (Operation × Document)}
    (hjobs : ∀ k job, jobs[k]? = some job → job.1.Updates pid job.2 ∧ changes k = job.2) :
    Phase setup pid p changes [] ⟨s, jobs.map fun job => .start setup job.1⟩ := by
  refine .untouched ⟨hstored, fun k x hx => ?_, fun k t ht => Or.inl ⟨?_, fun hmem => ?_⟩⟩
  · cases hx
  · rw [List.getElem?_map, Option.map_eq_some_iff] at ht
    obtain ⟨job, hjob, rfl⟩ := ht
    obtain ⟨hupdates, hchanges⟩ := hjobs k job hjob
    unfold Thread.IsFresh
    rw [hchanges]
    exact .start hupdates
  · cases hmem

/-- **What two updates leave behind**, when they have no field in common. -/
theorem Twice.fields {i j : Nat} {q : Problem} (h : w.Twice pid p changes events i j q)
    (hdisjoint : ∀ field, (changes i).get? field = none ∨ (changes j).get? field = none) :
    (Straddles pid events j i → q.Keeps p (changes i)) ∧
      (¬Straddles pid events j i → q.Says (changes i)) ∧
      q.Says (changes j) ∧
      ∀ field, (changes i).get? field = none → (changes j).get? field = none →
        q.toDocument.get? field = p.toDocument.get? field := by
  -- a field of the first update is none of the second
  have hother {field : String} {value : Json} (hvalue : (changes i).get? field = some value) :
      (changes j).get? field = none := by
    refine (hdisjoint field).resolve_left fun hnone => ?_
    rw [hnone] at hvalue
    cases hvalue
  rcases h.isUpdateOf with ⟨hq, hstraddles⟩ | ⟨⟨x, hx, hq⟩, hstraddles⟩
  · refine ⟨fun _ field value hvalue => hq.get?_eq (hother hvalue), fun h => absurd hstraddles h,
      hq.toSays, fun field _ hnone => hq.get?_eq hnone⟩
  · refine ⟨fun h => absurd h hstraddles, fun _ field value hvalue => ?_, hq.toSays,
      fun field hnone hnone' => (hq.get?_eq hnone').trans (hx.get?_eq hnone)⟩
    rw [hq.get?_eq (hother hvalue)]
    exact hx.toSays field value hvalue

theorem phase_of_history {s : Store} (hpid : p.pid = pid) (hstored : s.problem? pid = some p)
    {jobs : List (Operation × Document)} (hlength : jobs.length = 2)
    (hjobs : ∀ k job, jobs[k]? = some job → job.1.Updates pid job.2 ∧ changes k = job.2)
    (h : World.History ⟨s, jobs.map fun job => .start setup job.1⟩ events w) :
    w.Phase setup pid p changes events := by
  induction h with
  | nil => exact phase_start hstored hjobs
  | snoc h hturn ih =>
    refine ih.turn hpid ?_ hturn
    rw [h.length_threads, List.length_map, hlength]

end Phases

end World

/-- **When an update is lost.**  Two updates of a stored problem, which have no field in common, are
made at once, and both succeed.  Nobody else writes, and their calls are answered in any order.  The
fields of the one are lost if the other found the problem before it was replaced by the one, and
replaced it after; they have then the values from before.  Otherwise they have the new values.  All
fields that neither update names stay as they were. -/
theorem lost_iff_straddled {setup : Setup} {s : Store} (hs : s.Reachable) {pid : String}
    {p : Problem} (hp : s.problem? pid = some p) {o o' : Operation} {changes changes' : Document}
    (ho : o.Updates pid changes) (ho' : o'.Updates pid changes')
    (hdisjoint : ∀ field ∈ changes.keys, field ∉ changes'.keys) {events : List World.Event}
    {w : World} (h : World.History ⟨s, [.start setup o, .start setup o']⟩ events w)
    (hok : ∀ t ∈ w.threads, t.succeeded = true) :
    ∃ q, w.store.problem? pid = some q ∧
      (World.Straddles pid events 1 0 → q.Keeps p changes) ∧
      (¬World.Straddles pid events 1 0 → q.Says changes) ∧
      (World.Straddles pid events 0 1 → q.Keeps p changes') ∧
      (¬World.Straddles pid events 0 1 → q.Says changes') ∧
      ∀ field, changes.get? field = none → changes'.get? field = none →
        q.toDocument.get? field = p.toDocument.get? field := by
  let news (k : Nat) : Document := if k = 0 then changes else changes'
  have hjobs : ∀ (k : Nat) (job : Operation × Document),
      [(o, changes), (o', changes')][k]? = some job → job.1.Updates pid job.2 ∧ news k = job.2 := by
    intro k job hjob
    match k with
    | 0 => cases hjob; exact ⟨ho, rfl⟩
    | 1 => cases hjob; exact ⟨ho', rfl⟩
    | _ + 2 => cases hjob
  have hphase : w.Phase setup pid p news events :=
    World.phase_of_history (hs.wellKeyed pid p hp) hp rfl hjobs h
  have hlength : w.threads.length = 2 := h.length_threads
  have hnone (field : String) : changes.get? field = none ∨ changes'.get? field = none := by
    by_cases hkey : field ∈ changes.keys
    · refine Or.inr (Option.eq_none_iff_forall_ne_some.2 fun value hvalue => ?_)
      exact hdisjoint field hkey ((KeyMap.mem_keys_iff _ _).2 ⟨value, hvalue⟩)
    · refine Or.inl (Option.eq_none_iff_forall_ne_some.2 fun value hvalue => ?_)
      exact hkey ((KeyMap.mem_keys_iff _ _).2 ⟨value, hvalue⟩)
  cases hphase with
  | failed ht _ hfailed =>
    rw [hok _ ht] at hfailed
    cases hfailed
  | untouched h =>
    obtain ⟨t, ht⟩ : ∃ t, w.threads[0]? = some t :=
      ⟨_, List.getElem?_eq_getElem (hlength ▸ Nat.zero_lt_two)⟩
    rcases h.threads 0 t ht with ⟨hfresh, -⟩ | ⟨hholds, -⟩
    · exact absurd (hok t (List.mem_of_getElem? ht)) hfresh.not_succeeded
    · exact absurd (hok t (List.mem_of_getElem? ht)) hholds.not_succeeded
  | once h =>
    obtain ⟨t, ht, ⟨hfresh, -⟩ | ⟨r, hholds, -⟩⟩ := h.other
    · exact absurd (hok t (List.mem_of_getElem? ht)) hfresh.not_succeeded
    · exact absurd (hok t (List.mem_of_getElem? ht)) hholds.not_succeeded
  | @twice i j q h =>
    obtain ⟨t, ht, -⟩ := h.finished i (Or.inl rfl)
    obtain ⟨t', ht', -⟩ := h.finished j (Or.inr rfl)
    have hi := (List.getElem?_eq_some_iff.1 ht).1
    have hj := (List.getElem?_eq_some_iff.1 ht').1
    have hne := h.ne
    obtain ⟨rfl, rfl⟩ | ⟨rfl, rfl⟩ : i = 0 ∧ j = 1 ∨ i = 1 ∧ j = 0 := by omega
    · obtain ⟨hlost, hkept, hlast, hothers⟩ := h.fields hnone
      exact ⟨q, h.stored, hlost, hkept, fun hs => absurd hs h.not_straddles, fun _ => hlast,
        hothers⟩
    · obtain ⟨hlost, hkept, hlast, hothers⟩ := h.fields fun field => (hnone field).symm
      exact ⟨q, h.stored, fun hs => absurd hs h.not_straddles, fun _ => hlast, hlost, hkept,
        fun field hnone hnone' => hothers field hnone' hnone⟩

namespace Sample

/-- The problem's identifier. -/
def pid : String := Problem.pidOf "Warmup"

/-- The problem is to be worth less. -/
def cheaper : Document := KeyMap.empty.insert "score" (.integer 10)

/-- The problem is to be closed. -/
def closed : Document := KeyMap.empty.insert "disabled" (.bool true)

theorem exists_stored : ∃ p, store.problem? pid = some p :=
  Option.isSome_iff_exists.1 (by decide +kernel)

theorem cheaper_disjoint_closed : ∀ field ∈ cheaper.keys, field ∉ closed.keys := by
  simp [cheaper, closed, KeyMap.keys, KeyMap.insert, KeyMap.empty, KeyMap.place]

/-- Both are asked for at once. -/
def twoUpdates : World :=
  ⟨store, [.start setup (.update pid cheaper), .start setup (.setDisabled pid true)]⟩

end Sample

/-- The problem is found for the first update, then it is closed by the second, and then the first
puts in its place what it has found.  Both succeed, and the problem is open. -/
theorem closing_lost_of_straddled :
    ∃ (setup : Setup) (s : Store) (pid : String) (p : Problem) (o o' : Operation)
      (changes changes' : Document) (events : List World.Event) (w : World),
      s.Served ∧ s.problem? pid = some p ∧ o.Updates pid changes ∧ o'.Updates pid changes' ∧
        (∀ field ∈ changes.keys, field ∉ changes'.keys) ∧
        World.History ⟨s, [.start setup o, .start setup o']⟩ events w ∧
        (∀ t ∈ w.threads, t.succeeded = true) ∧
        ∃ q, w.store.problem? pid = some q ∧ q.disabled = false ∧
          changes'.get? "disabled" = some (.bool true) ∧ ¬q.Says changes' := by
  let h := Sample.twoUpdates.follow [0, 1, 1, 0]
  have hhistory : Sample.twoUpdates.History h.1 h.2 := World.history_follow _ _
  obtain ⟨p, hp⟩ := Sample.exists_stored
  obtain ⟨hok, hopen⟩ : (∀ t ∈ h.2.threads, t.succeeded = true) ∧
      (h.2.store.problem? Sample.pid).map (·.disabled) = some false := by decide +kernel
  obtain ⟨q, hq, hdisabled⟩ := Option.map_eq_some_iff.1 hopen
  have hvalue : Sample.closed.get? "disabled" = some (.bool true) := by simp [Sample.closed]
  refine ⟨Sample.setup, Sample.store, Sample.pid, p, _, _, Sample.cheaper, Sample.closed, h.1,
    h.2, Sample.served_store, hp, .update _, .setDisabled true, Sample.cheaper_disjoint_closed,
    hhistory, hok, q, hq, hdisabled, hvalue, fun hsays => ?_⟩
  have hclosed := hsays "disabled" (.bool true) hvalue
  have hdocument : q.toDocument.get? "disabled" = some (.bool q.disabled) := by
    simp [Problem.toDocument, KeyMap.ofList]
  rw [hdocument, hdisabled] at hclosed
  cases hclosed

/-- The problem is closed before it is found for the first update.  Then both updates are kept. -/
theorem both_kept_of_sequential :
    let w := Sample.twoUpdates
    let h := w.follow [1, 1, 0, 0]
    Sample.store.Reachable ∧
      (∃ p, Sample.store.problem? Sample.pid = some p) ∧
      (Operation.update Sample.pid Sample.cheaper).Updates Sample.pid Sample.cheaper ∧
      (Operation.setDisabled Sample.pid true).Updates Sample.pid Sample.closed ∧
      (∀ field ∈ Sample.cheaper.keys, field ∉ Sample.closed.keys) ∧ w.History h.1 h.2 ∧
      (∀ t ∈ h.2.threads, t.succeeded = true) ∧
      ∃ q, h.2.store.problem? Sample.pid = some q ∧ q.Says Sample.cheaper ∧
        q.Says Sample.closed := by
  intro w h
  have hhistory : w.History h.1 h.2 := w.history_follow _
  obtain ⟨p, hp⟩ := Sample.exists_stored
  -- of each event, who makes the call and whether it finds the problem
  let kind (e : World.Event) : Nat × Bool :=
    (e.place, match e.call with | .findProblem _ => true | _ => false)
  obtain ⟨hok, hfirst, hsecond⟩ : (∀ t ∈ h.2.threads, t.succeeded = true) ∧
      ¬[(1, true), (0, false), (1, false)].Sublist (h.1.map kind) ∧
      ¬[(0, true), (1, false), (0, false)].Sublist (h.1.map kind) := by decide +kernel
  have hstraddles : ¬World.Straddles Sample.pid h.1 1 0 :=
    fun ⟨x, y, hsublist⟩ => hfirst (hsublist.map kind)
  have hstraddles' : ¬World.Straddles Sample.pid h.1 0 1 :=
    fun ⟨x, y, hsublist⟩ => hsecond (hsublist.map kind)
  obtain ⟨q, hq, -, hsays, -, hsays', -⟩ := lost_iff_straddled Sample.served_store.reachable hp
    (.update Sample.cheaper) (.setDisabled true) Sample.cheaper_disjoint_closed hhistory hok
  exact ⟨Sample.served_store.reachable, ⟨p, hp⟩, .update _, .setDisabled true,
    Sample.cheaper_disjoint_closed, hhistory, hok, q, hq, hsays hstraddles, hsays' hstraddles'⟩

end CaptureTheFlag
