import CaptureTheFlag.Proofs.Program.Reads

/-!
# The ways through a program

Two more properties of a program as a tree.  They are for programs that read for a while and then
write, at a time when others may have written.

* `Program.CallsTo P Q`: whatever it is answered, the program makes calls of the kind `P` until what
  is left of it has the property `Q`.
* `Program.Guarded T look`: when the call `look` of the program is answered by a store of the kind
  `T`, the program is lost: it reads on and fails, as long as stores of that kind answer.

The first says what is left to do, and the second when there is nothing left to hope for.  A guard
may stand in front of another: the program that passes the first is lost at the second
(`Program.Guarded.bind`).
-/

namespace CaptureTheFlag.Program

variable {α β : Type}

/-- The program has failed. -/
def Failed (p : Program α) : Prop := ∃ e, p = .done (.error e)

/-! ## What is left in the end -/

/-- Whatever it is answered, the program makes calls of one kind until what is left has the
property. -/
inductive CallsTo (P : Call → Prop) (Q : Program α → Prop) : Program α → Prop where
  | reached {p : Program α} (h : Q p) : CallsTo P Q p
  | ask {c : Call} {next : Except Failure c.Reply → Program α} (hc : P c)
      (hnext : ∀ r, CallsTo P Q (next r)) : CallsTo P Q (.ask c next)

namespace CallsTo

variable {P : Call → Prop} {Q : Program α → Prop} {Q' : Program β → Prop}

/-- What has no calls left has come there. -/
theorem of_done {r : Except Failure α} (h : CallsTo P Q (.done r)) : Q (.done r) := by
  cases h with
  | reached h => exact h

/-- What has a call left has come there, or the call is of the kind. -/
theorem ask_cases {c : Call} {next : Except Failure c.Reply → Program α}
    (h : CallsTo P Q (.ask c next)) : Q (.ask c next) ∨ P c ∧ ∀ r, CallsTo P Q (next r) := by
  cases h with
  | reached h => exact Or.inl h
  | ask hc hnext => exact Or.inr ⟨hc, hnext⟩

/-- A program whose calls are all of the kind, and what follows it unless it fails. -/
theorem bind {p : Program α} {f : α → Program β} (hp : p.Calls P)
    (herror : ∀ e, Q' (.done (.error e))) (hf : ∀ a, (f a).CallsTo P Q') :
    (p.bind f).CallsTo P Q' := by
  induction hp with
  | done r =>
    cases r with
    | ok a => exact hf a
    | error e => exact .reached (herror e)
  | ask hc _ ih => exact .ask hc ih

/-- A test without calls, and what follows it when it is passed. -/
theorem done_bind {r : Except Failure α} {f : α → Program β} (herror : ∀ e, Q' (.done (.error e)))
    (hf : ∀ a, r = .ok a → (f a).CallsTo P Q') : ((Program.done r).bind f).CallsTo P Q' := by
  cases r with
  | ok a => exact hf a rfl
  | error e => exact .reached (herror e)

/-- A run of a program that only reads at first is a run of what is left then, on the same store. -/
theorem exists_runUnder (hP : ∀ c, P c → c.IsRead) {p : Program α} (hp : p.CallsTo P Q)
    (is : Nat → Interference) (s : Store) : ∃ q is', Q q ∧ p.runUnder is s = q.runUnder is' s := by
  induction hp generalizing is with
  | reached h => exact ⟨_, is, h, rfl⟩
  | @ask c next hc _ ih =>
    cases hi : is 0 c with
    | some r =>
      simp only [runUnder, hi]
      exact ih r _
    | none =>
      simp only [runUnder, hi, (hP c hc).snd_perform]
      exact ih _ _

end CallsTo

/-! ## Guards -/

variable {T : Store → Prop} {look : Call}

/-- Behind a program that only reads comes one that is lost: then both together are lost. -/
theorem ReadsTo.failed_bind {p : Program α} {f : α → Program β} (hp : p.Calls Call.IsRead)
    (hf : ∀ a, (f a).ReadsTo T Failed) : (p.bind f).ReadsTo T Failed := by
  induction hp with
  | done r =>
    cases r with
    | ok a => exact hf a
    | error e => exact .reached ⟨e, rfl⟩
  | ask hc _ ih => exact .read hc fun t _ => ih _

/-- A program is lost that fails on the answer of every such store to its first call. -/
theorem ReadsTo.failed_of_call {c : Call} {f : c.Reply → Program β} (hc : c.IsRead)
    (hfailed : ∀ t, T t → ∃ a, (c.perform t).1 = .ok a ∧ (f a).Failed) :
    ((Program.call c).bind f).ReadsTo T Failed := by
  refine .read hc fun t ht => .reached ?_
  obtain ⟨a, hanswer, hfailed⟩ := hfailed t ht
  rw [hanswer]
  exact hfailed

/-- When the call is answered by a store of the kind, the program is lost. -/
inductive Guarded (T : Store → Prop) (look : Call) : Program α → Prop where
  | done (r : Except Failure α) : Guarded T look (.done r)
  | ask {c : Call} {next : Except Failure c.Reply → Program α}
      (hlook : c = look → ∀ t, T t → (next (c.perform t).1).ReadsTo T Failed)
      (hnext : ∀ r, Guarded T look (next r)) : Guarded T look (.ask c next)

namespace Guarded

/-- A program that does not make the call needs no guard. -/
theorem of_calls {p : Program α} (hp : p.Calls (· ≠ look)) : p.Guarded T look := by
  induction hp with
  | done r => exact .done r
  | ask hc _ ih => exact .ask (fun h => absurd h hc) ih

/-- A guard in front of one that is lost. -/
theorem bind {p : Program α} {f : α → Program β} (hp : p.Calls Call.IsRead)
    (hlost : ∀ a, (f a).ReadsTo T Failed) (hf : ∀ a, (f a).Guarded T look) :
    (p.bind f).Guarded T look := by
  induction hp with
  | done r =>
    cases r with
    | ok a => exact hf a
    | error e => exact .done _
  | ask _ hnext ih => exact .ask (fun _ t _ => ReadsTo.failed_bind (hnext _) hlost) ih

/-- The call itself, where the program fails on the answer of every such store. -/
theorem call_bind {c : Call} {f : c.Reply → Program β}
    (hfailed : ∀ t, T t → ∃ a, (c.perform t).1 = .ok a ∧ (f a).Failed)
    (hf : ∀ a, (f a).Guarded T look) : ((Program.call c).bind f).Guarded T look := by
  refine .ask (fun _ t ht => .reached ?_) fun r => ?_
  · obtain ⟨a, hanswer, hfailed⟩ := hfailed t ht
    rw [hanswer]
    exact hfailed
  · cases r with
    | ok a => exact hf a
    | error e => exact .done _

theorem next {c : Call} {next : Except Failure c.Reply → Program α}
    (h : Guarded T look (.ask c next)) (r : Except Failure c.Reply) : Guarded T look (next r) := by
  cases h with
  | ask _ hnext => exact hnext r

/-- The answer to the call decides. -/
theorem failed_of_look {c : Call} {next : Except Failure c.Reply → Program α}
    (h : Guarded T look (.ask c next)) (hc : c = look) {t : Store} (ht : T t) :
    (next (c.perform t).1).ReadsTo T Failed := by
  cases h with
  | ask hlook _ => exact hlook hc t ht

end Guarded

end CaptureTheFlag.Program
