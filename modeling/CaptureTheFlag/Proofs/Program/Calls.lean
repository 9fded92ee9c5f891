import CaptureTheFlag.Store.Program

/-!
# What a program can do, whatever it is answered

A program over the store is a tree: its calls branch over all the answers that may come.  Two
properties of such a tree decide most of what can be said about an operation without running it.

* `Program.Calls P`: every call on every branch satisfies `P`.
* `Program.Ends Q`: the result of every branch satisfies `Q`.

Both are kept by the ways in which programs are put together, so they are shown for an operation by
walking through its text once.  Neither speaks about a store.  What they give for a run is said here
for a single program that runs alone, and elsewhere for programs that take turns:

* `runUnder_preserves`: a property of the store that every allowed call keeps is kept by a run;
* `fst_runUnder_of_ends`: the result of a run has the property that all results have.

## Interference that changes

A call may be answered in the store's place, and a later call of the same kind may not be.  So the
most general run, `Program.runUnder`, takes one interference for each call: the first for the first
call, the second for the second, and so on.  A run under one interference throughout is the run
under the constant sequence (`run_eq_runUnder`).
-/

namespace CaptureTheFlag.Program

variable {α β : Type}

/-! ## Programs as they are written

The notation for programs goes through the monad.  These equations bring it back to the two
constructors and `bind`. -/

@[simp] theorem pure_eq (a : α) : (pure a : Program α) = .done (.ok a) := rfl

@[simp] theorem bind_eq (p : Program α) (f : α → Program β) : p >>= f = p.bind f := rfl

@[simp] theorem lift_eq (r : Except Failure α) : (liftM r : Program α) = .done r := rfl

@[simp] theorem done_ok_bind (a : α) (f : α → Program β) :
    (Program.done (.ok a)).bind f = f a := rfl

/-! ## Runs of programs put together -/

theorem run_bind_of_ok {i : Interference} {p : Program α} {s s' : Store} {a : α}
    (h : p.run i s = (.ok a, s')) (f : α → Program β) :
    (p.bind f).run i s = (f a).run i s' := by
  rw [run_bind, h]

theorem run_bind_of_error {i : Interference} {p : Program α} {s s' : Store} {e : Failure}
    (h : p.run i s = (.error e, s')) (f : α → Program β) :
    (p.bind f).run i s = (.error e, s') := by
  rw [run_bind, h]

/-- What two programs lead to one after the other, by a relation that composes. -/
theorem snd_run_bind {R : Store → Store → Prop} (htrans : ∀ {s t u}, R s t → R t u → R s u)
    {i : Interference} {p : Program α} {f : α → Program β} {s : Store} (hp : R s (p.run i s).2)
    (hf : ∀ a t, R t ((f a).run i t).2) : R s ((p.bind f).run i s).2 := by
  rw [run_bind]
  rcases hrun : p.run i s with ⟨_ | a, t⟩
  · rw [hrun] at hp
    exact hp
  · rw [hrun] at hp
    exact htrans hp (hf a t)

/-- A failure may be given another name before or after the run. -/
theorem run_mapFailure (i : Interference) (f : Failure → Failure) (p : Program α) (s : Store) :
    (p.mapFailure f).run i s = ((p.run i s).1.mapError f, (p.run i s).2) := by
  induction p generalizing s with
  | done r => cases r <;> rfl
  | ask c next ih =>
    unfold mapFailure run
    split
    · exact ih _ _
    · exact ih _ _

/-- Without interference a call is answered by the store. -/
theorem run_call (c : Call) (s : Store) : (call c).run .none s = c.perform s := rfl

/-- A call whose failure gets another name, when it succeeds. -/
theorem run_mapFailure_call_of_ok {c : Call} {s s' : Store} {a : c.Reply}
    (h : c.perform s = (.ok a, s')) (f : Failure → Failure) (g : c.Reply → Program β) :
    (((call c).mapFailure f).bind g).run .none s = (g a).run .none s' := by
  refine run_bind_of_ok ?_ g
  rw [run_mapFailure, run_call, h]
  rfl

/-- A call whose failure gets another name, when it fails. -/
theorem run_mapFailure_call_of_error {c : Call} {s s' : Store} {e : Failure}
    (h : c.perform s = (.error e, s')) (f : Failure → Failure) (g : c.Reply → Program β) :
    (((call c).mapFailure f).bind g).run .none s = (.error (f e), s') := by
  refine run_bind_of_error ?_ g
  rw [run_mapFailure, run_call, h]
  rfl

/-- A call whose failure is a result, when it is answered in the store's place. -/
theorem run_attempt_call_of_some {i : Interference} {c : Call} {r : Except Failure c.Reply}
    (h : i c = some r) (f : Except Failure c.Reply → Program β) (s : Store) :
    ((call c).attempt.bind f).run i s = (f r).run i s := by
  simp only [call, attempt, bind, run, h]

/-- A call whose failure is a result, when it reaches the store. -/
theorem run_attempt_call_of_none {i : Interference} {c : Call} (h : i c = Option.none)
    (f : Except Failure c.Reply → Program β) (s : Store) :
    ((call c).attempt.bind f).run i s = (f (c.perform s).1).run i (c.perform s).2 := by
  simp only [call, attempt, bind, run, h]

/-! ## Runs under a changing interference -/

/-- The result of a program and the store behind it, when its first call meets the first
interference, its second call the second, and so on. -/
def runUnder (is : Nat → Interference) : Program α → Store → Except Failure α × Store
  | .done r, s => (r, s)
  | .ask c next, s =>
    match is 0 c with
    | some r => (next r).runUnder (fun n => is (n + 1)) s
    | Option.none => (next (c.perform s).1).runUnder (fun n => is (n + 1)) (c.perform s).2

/-- A run under one interference is a run under it at every call. -/
theorem run_eq_runUnder (i : Interference) (p : Program α) (s : Store) :
    p.run i s = p.runUnder (fun _ => i) s := by
  induction p generalizing s with
  | done r => rfl
  | ask c next ih =>
    cases hi : i c with
    | some r =>
      simp only [run, runUnder, hi]
      exact ih r s
    | none =>
      simp only [run, runUnder, hi]
      exact ih _ _

/-- A program followed by another: the second meets what is left of the interferences. -/
theorem exists_runUnder_bind (is : Nat → Interference) (p : Program α) (f : α → Program β)
    (s : Store) :
    ∃ is', (p.bind f).runUnder is s =
      match p.runUnder is s with
      | (.ok a, s') => (f a).runUnder is' s'
      | (.error e, s') => (.error e, s') := by
  induction p generalizing is s with
  | done r => exact ⟨is, by cases r <;> rfl⟩
  | ask c next ih =>
    simp only [bind, runUnder]
    split
    · exact ih _ _ _
    · exact ih _ _ _

/-! ## The calls of a program -/

/-- Every call that the program can make, whatever it is answered, has the property. -/
inductive Calls (P : Call → Prop) : Program α → Prop where
  | done (r : Except Failure α) : Calls P (.done r)
  | ask {c : Call} {next : Except Failure c.Reply → Program α} (hc : P c)
      (hnext : ∀ r, Calls P (next r)) : Calls P (.ask c next)

namespace Calls

variable {P P' : Call → Prop}

theorem fail (e : Failure) : Calls P (fail e : Program α) := done _

theorem call (c : Call) (hc : P c) : Calls P (Program.call c) := ask hc fun r => done r

theorem mono {p : Program α} (h : Calls P p) (hP : ∀ c, P c → P' c) : Calls P' p := by
  induction h with
  | done r => exact done r
  | ask hc _ ih => exact ask (hP _ hc) ih

theorem bind {p : Program α} {f : α → Program β} (hp : Calls P p) (hf : ∀ a, Calls P (f a)) :
    Calls P (p.bind f) := by
  induction hp with
  | done r =>
    cases r with
    | ok a => exact hf a
    | error e => exact done _
  | ask hc _ ih => exact ask hc ih

/-- A call and what follows it. -/
theorem call_bind {c : Call} {f : c.Reply → Program β} (hc : P c) (hf : ∀ a, Calls P (f a)) :
    Calls P ((Program.call c).bind f) :=
  bind (call c hc) hf

/-- A test without calls, and what follows it when it is passed. -/
theorem done_bind {r : Except Failure α} {f : α → Program β}
    (hf : ∀ a, r = .ok a → Calls P (f a)) : Calls P ((Program.done r).bind f) := by
  cases r with
  | ok a => exact hf a rfl
  | error e => exact done _

theorem ite {t : Prop} [Decidable t] {p q : Program α} (hp : t → Calls P p)
    (hq : ¬t → Calls P q) : Calls P (if t then p else q) := by
  split
  · next h => exact hp h
  · next h => exact hq h

theorem attempt {p : Program α} (hp : Calls P p) : Calls P p.attempt := by
  induction hp with
  | done r => exact done _
  | ask hc _ ih => exact ask hc ih

theorem mapFailure (f : Failure → Failure) {p : Program α} (hp : Calls P p) :
    Calls P (p.mapFailure f) := by
  induction hp with
  | done r => cases r <;> exact done _
  | ask hc _ ih => exact ask hc ih

end Calls

/-- A property of the store that no allowed call breaks holds after a run if it held before,
whichever calls are answered in the store's place. -/
theorem runUnder_preserves {P : Call → Prop} {I : Store → Prop}
    (hstep : ∀ c s, P c → I s → I (c.perform s).2) (is : Nat → Interference) {p : Program α}
    (hp : p.Calls P) {s : Store} (hs : I s) : I (p.runUnder is s).2 := by
  induction hp generalizing is s with
  | done r => exact hs
  | ask hc _ ih =>
    unfold runUnder
    split
    · exact ih _ _ hs
    · exact ih _ _ (hstep _ s hc hs)

theorem run_preserves {P : Call → Prop} {I : Store → Prop}
    (hstep : ∀ c s, P c → I s → I (c.perform s).2) (i : Interference) {p : Program α}
    (hp : p.Calls P) {s : Store} (hs : I s) : I (p.run i s).2 := by
  rw [run_eq_runUnder]
  exact runUnder_preserves hstep _ hp hs

/-- A program none of whose calls is answered in the store's place runs as it does alone. -/
theorem run_eq_of_calls {i : Interference} {p : Program α}
    (hp : p.Calls fun c => i c = Option.none) (s : Store) : p.run i s = p.run .none s := by
  induction hp generalizing s with
  | done r => rfl
  | ask hc _ ih =>
    simp only [run, hc, Interference.none]
    exact ih _ _

/-! ## The results of a program -/

/-- Every result that the program can have, whatever it is answered, has the property. -/
inductive Ends (Q : Except Failure α → Prop) : Program α → Prop where
  | done {r : Except Failure α} (hr : Q r) : Ends Q (.done r)
  | ask {c : Call} {next : Except Failure c.Reply → Program α} (hnext : ∀ r, Ends Q (next r)) :
      Ends Q (.ask c next)

namespace Ends

variable {Q : Except Failure α → Prop}

theorem bind {Q' : Except Failure β → Prop} {p : Program α} {f : α → Program β} (hp : Ends Q p)
    (hok : ∀ a, Q (.ok a) → Ends Q' (f a)) (herror : ∀ e, Q (.error e) → Q' (.error e)) :
    Ends Q' (p.bind f) := by
  induction hp with
  | @done r hr =>
    cases r with
    | ok a => exact hok a hr
    | error e => exact done (herror e hr)
  | ask _ ih => exact ask ih

/-- What holds of every result holds of a program's results. -/
theorem of_forall (h : ∀ r, Q r) (p : Program α) : Ends Q p := by
  induction p with
  | done r => exact done (h r)
  | ask c next ih => exact ask ih

/-- A program whose failure is a result has a program's results as its own. -/
theorem attempt {p : Program α} (h : Ends Q p) :
    Ends (fun r => ∃ r', r = .ok r' ∧ Q r') p.attempt := by
  induction h with
  | @done r hr => exact done ⟨r, rfl, hr⟩
  | ask _ ih => exact ask ih

theorem mapFailure {Q' : Except Failure α → Prop} (f : Failure → Failure) {p : Program α}
    (h : Ends Q p) (hok : ∀ a, Q (.ok a) → Q' (.ok a))
    (herror : ∀ e, Q (.error e) → Q' (.error (f e))) : Ends Q' (p.mapFailure f) := by
  induction h with
  | @done r hr =>
    cases r with
    | ok a => exact done (hok a hr)
    | error e => exact done (herror e hr)
  | ask _ ih => exact ask ih

end Ends

/-- The result of a run is one of the results that the program can have. -/
theorem fst_runUnder_of_ends {Q : Except Failure α → Prop} {p : Program α} (hp : p.Ends Q)
    (is : Nat → Interference) (s : Store) : Q (p.runUnder is s).1 := by
  induction hp generalizing is s with
  | done hr => exact hr
  | ask _ ih =>
    unfold runUnder
    split
    · exact ih _ _ s
    · exact ih _ _ _

end CaptureTheFlag.Program
