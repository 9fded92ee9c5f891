import CaptureTheFlag.Proofs.Store.Reachable

/-!
# Programs that read while the store changes

A program that is not alone may be answered by one store now and by another one later.  As long as it
only reads, and all these stores agree in what matters, it is known how far it gets.

* `Program.ReadsTo T Q`: whichever stores of the kind `T` answer, the program reads on until what is
  left of it has the property `Q`.
* `Program.Settles A`: the program has come to an answer of the kind `A`, or to a conflict.
* `Program.ReadsTo.gate_bind`: a program behind one that settles is reached, unless there is a
  conflict.

The stores that answer need not come in any order.  So nothing has to be known about who changes the
store in between, or how often.
-/

namespace CaptureTheFlag.Program

variable {α β : Type} {T : Store → Prop}

/-- The program reads on until what is left has the property, whichever of the stores answers each of
its calls. -/
inductive ReadsTo (T : Store → Prop) (Q : Program α → Prop) : Program α → Prop where
  | reached {p : Program α} (h : Q p) : ReadsTo T Q p
  | read {c : Call} {next : Except Failure c.Reply → Program α} (hc : c.IsRead)
      (hnext : ∀ t, T t → ReadsTo T Q (next (c.perform t).1)) : ReadsTo T Q (.ask c next)

/-- The program has come to an answer of this kind, or to a conflict. -/
def Settles (A : α → Prop) (p : Program α) : Prop :=
  (∃ e : Failure, p = .done (.error e) ∧ e.kind = .conflict) ∨ ∃ a, p = .done (.ok a) ∧ A a

theorem Settles.conflict {A : α → Prop} (e : Failure) (he : e.kind = .conflict) :
    Settles A (.done (.error e)) := Or.inl ⟨e, rfl, he⟩

theorem Settles.ok {A : α → Prop} {a : α} (ha : A a) : Settles A (.done (.ok a)) :=
  Or.inr ⟨a, rfl, ha⟩

namespace ReadsTo

variable {Q : Program α → Prop} {Q' : Program β → Prop}

/-- What has no calls left has nothing left to read. -/
theorem of_done {r : Except Failure α} (h : ReadsTo T Q (.done r)) : Q (.done r) := by
  cases h with
  | reached h => exact h

/-- What has a call left has read enough, or it reads on. -/
theorem ask_cases {c : Call} {next : Except Failure c.Reply → Program α}
    (h : ReadsTo T Q (.ask c next)) :
    Q (.ask c next) ∨ c.IsRead ∧ ∀ t, T t → ReadsTo T Q (next (c.perform t).1) := by
  cases h with
  | reached h => exact Or.inl h
  | read hc hnext => exact Or.inr ⟨hc, hnext⟩

/-- A single look-up settles if every store has an answer of the kind. -/
theorem call {c : Call} {A : c.Reply → Prop} (hc : c.IsRead)
    (h : ∀ t, T t → ∃ a, (c.perform t).1 = .ok a ∧ A a) :
    (Program.call c).ReadsTo T (Settles A) := by
  refine .read hc fun t ht => .reached ?_
  obtain ⟨a, hanswer, ha⟩ := h t ht
  rw [hanswer]
  exact .ok ha

/-- Behind a gate comes what is behind it, unless there is a conflict.  The induction is on what the
gate reads. -/
theorem gate_bind {A : α → Prop} {p : Program α} {f : α → Program β}
    (hp : p.ReadsTo T (Settles A))
    (hconflict : ∀ e : Failure, e.kind = .conflict → Q' (.done (.error e)))
    (hf : ∀ a, A a → (f a).ReadsTo T Q') : (p.bind f).ReadsTo T Q' := by
  induction hp with
  | reached h =>
    rcases h with ⟨e, rfl, he⟩ | ⟨a, rfl, ha⟩
    · exact .reached (hconflict e he)
    · exact hf a ha
  | read hc _ ih => exact .read hc ih

end ReadsTo

end CaptureTheFlag.Program
