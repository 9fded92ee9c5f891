import CaptureTheFlag.Proofs.Program.Calls

/-!
# Programs that keep private texts to themselves

Failures of some kinds have a text that is not for clients.  Two failures that differ in such a text
only are alike, and a program is discreet if it never tells alike failures apart.

* `Failure.Alike`: the same failure, or failures of one private kind.
* `Program.Akin`: two programs make the same calls and come to the same results, as long as the
  answers they get are alike.
* `Program.Discreet`: a program is akin to itself.
* `Program.Akin.runUnder`: akin programs lead to alike results and to the same store, when what
  interferes with them is alike.

## Why two programs

A program that is discreet has to be compared with itself under answers that differ.  From the first
call on that is answered by a failure, what is left of the program may differ too: it has failed with
one text here and with another one there.  So the relation is on two programs, and the rules that
carry an operation through are the same for one program and for two.  The one place where more is
needed is where a failure becomes a result and the program goes on with it
(`Program.Akin.attempt_bind`).
-/

namespace CaptureTheFlag

namespace Failure

/-! ## Failures -/

/-- The text of such a failure is not for clients. -/
def Kind.IsPrivate : Kind → Prop
  | .database | .dataIntegrity | .internal | .configuration => True
  | _ => False

/-- Clients are told something else instead. -/
theorem Kind.isPrivate_iff (k : Kind) : k.IsPrivate ↔ ∃ t, k.cover? = some t := by
  cases k <;> simp [IsPrivate, cover?]

/-- The failures are the same, or they differ in a private text only. -/
inductive Alike : Failure → Failure → Prop where
  | refl (e : Failure) : Alike e e
  | covered {e e' : Failure} (hkind : e'.kind = e.kind) (hprivate : e.kind.IsPrivate) : Alike e e'

namespace Alike

variable {e e' : Failure}

theorem kind_eq (h : e.Alike e') : e'.kind = e.kind := by
  cases h with
  | refl => rfl
  | covered hkind _ => exact hkind

/-- Alike failures tell a client the same. -/
theorem publicMessage_eq (h : e.Alike e') : e'.publicMessage = e.publicMessage := by
  cases h with
  | refl => rfl
  | covered hkind hprivate =>
    obtain ⟨t, ht⟩ := (Kind.isPrivate_iff _).1 hprivate
    rw [publicMessage_of_cover ht, publicMessage_of_cover (hkind ▸ ht)]

/-- Where something else is reported in place of a failure of a public kind, what is reported is
alike. -/
theorem replaced (h : e.Alike e') {k : Kind} (hk : ¬k.IsPrivate) (f : Failure) :
    (if e.kind = k then f else e).Alike (if e'.kind = k then f else e') := by
  cases h with
  | refl => exact .refl _
  | covered hkind hprivate =>
    have hne : e.kind ≠ k := by
      rintro rfl
      exact hk hprivate
    rw [if_neg hne, if_neg (hkind ▸ hne)]
    exact .covered hkind hprivate

end Alike

/-- Two answers, or two results: the same value, or failures that are alike. -/
inductive AlikeResults {α : Type} : Except Failure α → Except Failure α → Prop where
  | ok (a : α) : AlikeResults (.ok a) (.ok a)
  | error {e e' : Failure} (h : e.Alike e') : AlikeResults (.error e) (.error e')

theorem AlikeResults.refl {α : Type} (r : Except Failure α) : AlikeResults r r := by
  cases r with
  | ok a => exact .ok a
  | error e => exact .error (.refl e)

end Failure

open Failure (AlikeResults)

namespace Program

variable {α β : Type}

/-! ## Interference -/

/-- The same calls are answered in the store's place, and the answers are alike. -/
def Interference.Alike (i i' : Interference) : Prop :=
  ∀ c : Call, Option.Rel AlikeResults (i c) (i' c)

theorem Interference.Alike.cases {i i' : Interference} (h : i.Alike i') (c : Call) :
    i c = Option.none ∧ i' c = Option.none ∨
      ∃ r r', i c = some r ∧ i' c = some r' ∧ AlikeResults r r' := by
  have hc := h c
  generalize i c = answer, i' c = answer' at hc ⊢
  cases hc with
  | none => exact Or.inl ⟨rfl, rfl⟩
  | some hr => exact Or.inr ⟨_, _, rfl, rfl, hr⟩

/-! ## Programs -/

/-- The programs make the same calls, and what is left of them is akin as long as the answers are
alike.  In the end they have alike results. -/
inductive Akin : Program α → Program α → Prop where
  | done {r r' : Except Failure α} (h : AlikeResults r r') : Akin (.done r) (.done r')
  | ask {c : Call} {next next' : Except Failure c.Reply → Program α}
      (h : ∀ r r', AlikeResults r r' → Akin (next r) (next' r')) :
      Akin (.ask c next) (.ask c next')

/-- The program does not tell alike failures apart. -/
def Discreet (p : Program α) : Prop := p.Akin p

namespace Akin

variable {p p' : Program α}

/-- Akin programs before akin programs. -/
theorem bind {f f' : α → Program β} (hp : p.Akin p') (hf : ∀ a, (f a).Akin (f' a)) :
    (p.bind f).Akin (p'.bind f') := by
  induction hp with
  | done h =>
    cases h with
    | ok a => exact hf a
    | error h => exact .done (.error h)
  | ask _ ih => exact .ask ih

/-- A failure is reported by another one, which must keep what the first kept. -/
theorem mapFailure {g : Failure → Failure} (hp : p.Akin p')
    (hg : ∀ e e' : Failure, e.Alike e' → (g e).Alike (g e')) :
    (p.mapFailure g).Akin (p'.mapFailure g) := by
  induction hp with
  | done h =>
    cases h with
    | ok a => exact .done (.ok a)
    | error h => exact .done (.error (hg _ _ h))
  | ask _ ih => exact .ask ih

/-- A failure is a result, and what follows must not tell alike results apart. -/
theorem attempt_bind {f f' : Except Failure α → Program β} (hp : p.Akin p')
    (hf : ∀ r r', AlikeResults r r' → (f r).Akin (f' r')) :
    (p.attempt.bind f).Akin (p'.attempt.bind f') := by
  induction hp with
  | done h => exact hf _ _ h
  | ask _ ih => exact .ask ih

/-- **Akin programs under alike interference** come to alike results and to the same store.  The
store's own answers are the same for both, and what comes in its place is alike. -/
theorem runUnder (hp : p.Akin p') {is is' : Nat → Interference}
    (his : ∀ n, (is n).Alike (is' n)) (s : Store) :
    AlikeResults (p.runUnder is s).1 (p'.runUnder is' s).1 ∧
      (p'.runUnder is' s).2 = (p.runUnder is s).2 := by
  induction hp generalizing is is' s with
  | done h => exact ⟨h, rfl⟩
  | @ask c next next' _ ih =>
    have hlater : ∀ n, (is (n + 1)).Alike (is' (n + 1)) := fun n => his (n + 1)
    rcases (his 0).cases c with ⟨hi, hi'⟩ | ⟨r, r', hi, hi', hanswers⟩
    · simp only [Program.runUnder, hi, hi']
      exact ih _ _ (.refl _) hlater _
    · simp only [Program.runUnder, hi, hi']
      exact ih _ _ hanswers hlater s

end Akin

namespace Discreet

theorem done (r : Except Failure α) : Discreet (.done r) := Akin.done (.refl r)

theorem fail (e : Failure) : Discreet (Program.fail e : Program α) := done _

theorem call (c : Call) : Discreet (Program.call c) := Akin.ask fun _ _ h => Akin.done h

theorem bind {p : Program α} {f : α → Program β} (hp : p.Discreet) (hf : ∀ a, (f a).Discreet) :
    (p.bind f).Discreet :=
  Akin.bind hp hf

/-- A call and what follows it. -/
theorem call_bind {c : Call} {f : c.Reply → Program β} (hf : ∀ a, (f a).Discreet) :
    ((Program.call c).bind f).Discreet :=
  bind (call c) hf

/-- A test without calls, and what follows it when it is passed. -/
theorem done_bind {r : Except Failure α} {f : α → Program β} (hf : ∀ a, (f a).Discreet) :
    ((Program.done r).bind f).Discreet :=
  bind (done r) hf

/-- A choice by a test that no answer has a part in. -/
theorem ite {t : Prop} [Decidable t] {p q : Program α} (hp : p.Discreet) (hq : q.Discreet) :
    (if t then p else q).Discreet := by
  split
  · exact hp
  · exact hq

end Discreet

end Program

end CaptureTheFlag
