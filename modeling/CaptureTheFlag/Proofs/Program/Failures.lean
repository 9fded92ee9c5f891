import CaptureTheFlag.Proofs.Program.Calls

/-!
# Whose failures a program fails with

A program fails by itself, or it passes on a failure that one of its calls was answered with.  What
its calls may be answered with is up to the store and to whatever answers in the store's place.  So
a property of a program's results is said under a condition on the failures among the answers.

* `Program.EndsAmong A Q`: the result of every branch has the property `Q`, if the failures among
  the answers on the way are of the kind `A`.
* `Program.FailsAs A`: then the program's own failures are of that kind too.
* `Call.alreadyExists_or_notFound`: the failures of the store itself.
* `fst_runUnder_of_endsAmong`: the result of a run has the property that all results have.

Where nothing is asked of the answers this is `Program.Ends`.
-/

namespace CaptureTheFlag

/-- The store itself refuses only what it already has and what it does not have. -/
theorem Call.alreadyExists_or_notFound {c : Call} {s : Store} {e : Failure}
    (h : (c.perform s).1 = .error e) : e.kind = .alreadyExists ∨ e.kind = .notFound := by
  cases c with
  | insertProblem p =>
    change (s.insertProblem p).1 = .error e at h
    unfold Store.insertProblem at h
    split at h
    · cases h
      exact Or.inl rfl
    · cases h
  | replaceProblem p =>
    change (s.replaceProblem p).1 = .error e at h
    unfold Store.replaceProblem at h
    split at h
    · cases h
      exact Or.inl rfl
    · split at h
      · cases h
      · cases h
        exact Or.inr rfl
  | insertSubmission x =>
    change (s.insertSubmission x).1 = .error e at h
    unfold Store.insertSubmission at h
    split at h
    · cases h
      exact Or.inl rfl
    · cases h
  | _ => cases h

namespace Program

variable {α β : Type}

/-- Every result that the program can have has the property, if the failures among the answers that
it is given are of one kind. -/
inductive EndsAmong (A : Failure → Prop) (Q : Except Failure α → Prop) : Program α → Prop where
  | done {r : Except Failure α} (hr : Q r) : EndsAmong A Q (.done r)
  | ask {c : Call} {next : Except Failure c.Reply → Program α}
      (hnext : ∀ r, (∀ e, r = .error e → A e) → EndsAmong A Q (next r)) :
      EndsAmong A Q (.ask c next)

namespace EndsAmong

variable {A : Failure → Prop} {Q : Except Failure α → Prop} {Q' : Except Failure β → Prop}
  {p : Program α}

theorem bind {f : α → Program β} (hp : EndsAmong A Q p)
    (hok : ∀ a, Q (.ok a) → EndsAmong A Q' (f a)) (herror : ∀ e, Q (.error e) → Q' (.error e)) :
    EndsAmong A Q' (p.bind f) := by
  induction hp with
  | @done r hr =>
    cases r with
    | ok a => exact hok a hr
    | error e => exact done (herror e hr)
  | ask _ ih => exact ask ih

/-- A program whose failure is a result, and what follows it. -/
theorem attempt_bind {f : Except Failure α → Program β} (hp : EndsAmong A Q p)
    (hf : ∀ r, Q r → EndsAmong A Q' (f r)) : EndsAmong A Q' (p.attempt.bind f) := by
  induction hp with
  | done hr => exact hf _ hr
  | ask _ ih => exact ask ih

end EndsAmong

/-- **The result of a run is one of the results that the program can have**, if whatever answers in
the store's place and the store itself fail as they may. -/
theorem fst_runUnder_of_endsAmong {A : Failure → Prop} {Q : Except Failure α → Prop}
    {p : Program α} (hp : p.EndsAmong A Q) {is : Nat → Interference}
    (his : ∀ n c e, is n c = some (.error e) → A e)
    (hstore : ∀ (c : Call) (s : Store) (e : Failure), (c.perform s).1 = .error e → A e)
    (s : Store) : Q (p.runUnder is s).1 := by
  induction hp generalizing is s with
  | done hr => exact hr
  | @ask c next _ ih =>
    unfold runUnder
    split
    · next r hr =>
      exact ih r (fun e he => his 0 c e (he ▸ hr)) (fun n => his (n + 1)) s
    · exact ih _ (fun e he => hstore c s e he) (fun n => his (n + 1)) _

/-! ## Failures that are passed on -/

/-- If the failures among the answers are of this kind, then so is that of the program. -/
def FailsAs (A : Failure → Prop) (p : Program α) : Prop :=
  EndsAmong A (fun r => ∀ e, r = .error e → A e) p

namespace FailsAs

variable {A : Failure → Prop} {p : Program α}

theorem pure (a : α) : FailsAs A (.done (.ok a)) := by
  refine .done fun e he => ?_
  cases he

theorem fail {e : Failure} (h : A e) : FailsAs A (fail e : Program α) := by
  refine .done fun e' he' => ?_
  cases he'
  exact h

theorem call (c : Call) : FailsAs A (call c) := .ask fun _ hr => .done hr

theorem bind {f : α → Program β} (hp : p.FailsAs A) (hf : ∀ a, (f a).FailsAs A) :
    (p.bind f).FailsAs A := by
  refine EndsAmong.bind hp (fun a _ => hf a) fun e he e' he' => ?_
  cases he'
  exact he e rfl

theorem mapFailure (hp : p.FailsAs A) {f : Failure → Failure} (hf : ∀ e, A e → A (f e)) :
    (p.mapFailure f).FailsAs A := by
  unfold FailsAs at hp ⊢
  induction hp with
  | @done r hr =>
    cases r with
    | ok a => exact pure a
    | error e => exact fail (hf e (hr e rfl))
  | ask _ ih => exact .ask ih

end FailsAs

end Program

end CaptureTheFlag
