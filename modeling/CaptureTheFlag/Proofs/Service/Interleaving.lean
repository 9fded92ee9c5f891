import CaptureTheFlag.Proofs.Service.World

/-!
# Operations at once come to an end

When no operation starts any more, and the store answers every call, the operations under way take
turns until each has its result.  Whatever the order of the turns, this takes finitely many.

* `Thread.Finished`, `Thread.succeeded`: an operation has its result, and the result is no failure.
* `World.wellFounded_turn`: turns cannot go on for ever.
* `World.not_turn_iff`: no turn is left where every operation has its result, and only there.
* `World.operations_of_turns`: turns start no operations and drop none.

A bound on the number of turns would have to look at the programs.  It is enough that a program is a
tree without infinite branches: a turn replaces one of the trees by one of its branches and leaves
the others.  Which branch that is depends on the store, and the store on what others did before; so
what is shown to be well-founded is the shortening of any one tree by any answer
(`Thread.Shortens`).
-/

namespace CaptureTheFlag

namespace Thread

/-! ## Results -/

/-- The operation has its result. -/
def Finished (t : Thread) : Prop := ∃ r, t.rest = .done r

/-- The operation has its result, and the result is no failure. -/
def succeeded (t : Thread) : Bool :=
  match t.rest with
  | .done (.ok _) => true
  | _ => false

/-! ## Answers shorten what is left -/

/-- One of the operations has made its next call and goes on with an answer. -/
inductive Shortens : List Thread → List Thread → Prop where
  | intro {before after : List Thread} {o : Operation} {c : Call}
      {next : Except Failure c.Reply → Program o.Result} (r : Except Failure c.Reply) :
      Shortens (before ++ ⟨o, next r⟩ :: after) (before ++ ⟨o, .ask c next⟩ :: after)

/-- The first of some operations goes on, or one behind it. -/
theorem Shortens.cons_cases {o : Operation} {p : Program o.Result} {ts us : List Thread}
    (h : Shortens us (⟨o, p⟩ :: ts)) :
    (∃ (c : Call) (next : Except Failure c.Reply → Program o.Result) (r : Except Failure c.Reply),
        p = .ask c next ∧ us = ⟨o, next r⟩ :: ts) ∨
      ∃ ts', us = ⟨o, p⟩ :: ts' ∧ Shortens ts' ts := by
  generalize hts : (⟨o, p⟩ : Thread) :: ts = l at h
  cases h with
  | @intro before after o' c next r =>
    cases before with
    | nil =>
      obtain ⟨hthread, rfl⟩ := List.cons.inj hts
      cases hthread
      exact Or.inl ⟨c, next, r, rfl, rfl⟩
    | cons t before =>
      obtain ⟨rfl, rfl⟩ := List.cons.inj hts
      exact Or.inr ⟨_, rfl, .intro r⟩

/-- One more operation does not make answers go on for ever.  The outer induction is on its program,
the inner one on the answers that the others still get. -/
theorem acc_shortens_cons {ts : List Thread} (hts : Acc Shortens ts) {o : Operation}
    (p : Program o.Result) : Acc Shortens (⟨o, p⟩ :: ts) := by
  induction p generalizing ts with
  | done r =>
    induction hts with
    | intro ts _ ih =>
      refine .intro _ fun us hus => ?_
      rcases hus.cons_cases with ⟨c, next, r', hask, -⟩ | ⟨ts', rfl, hts'⟩
      · cases hask
      · exact ih ts' hts'
  | ask c next ihp =>
    induction hts with
    | intro ts hts ih =>
      refine .intro _ fun us hus => ?_
      rcases hus.cons_cases with ⟨c', next', r, hask, rfl⟩ | ⟨ts', rfl, hts'⟩
      · cases hask
        exact ihp r (.intro ts hts)
      · exact ih ts' hts'

theorem wellFounded_shortens : WellFounded Shortens := by
  refine ⟨fun ts => ?_⟩
  induction ts with
  | nil =>
    refine .intro _ fun us hus => ?_
    generalize hnil : ([] : List Thread) = l at hus
    cases hus
    exact absurd hnil.symm (List.append_ne_nil_of_right_ne_nil _ (List.cons_ne_nil _ _))
  | cons t ts ih => exact acc_shortens_cons ih t.rest

end Thread

namespace World

/-! ## Turns come to an end -/

/-- A turn goes on with the store's answer. -/
theorem Turn.shortens {w w' : World} (h : w.Turn w') : Thread.Shortens w'.threads w.threads := by
  cases h with
  | call => exact .intro _

/-- **Turns cannot go on for ever.** -/
theorem wellFounded_turn : WellFounded fun w' w : World => w.Turn w' :=
  Subrelation.wf (fun h => h.shortens) (InvImage.wf World.threads Thread.wellFounded_shortens)

/-- **No turn is left if and only if every operation has its result.** -/
theorem not_turn_iff (w : World) : (∀ w', ¬w.Turn w') ↔ ∀ t ∈ w.threads, t.Finished := by
  constructor
  · intro h t ht
    obtain ⟨s, threads⟩ := w
    obtain ⟨before, after, rfl⟩ := List.append_of_mem ht
    obtain ⟨o, p⟩ := t
    cases p with
    | done r => exact ⟨r, rfl⟩
    | ask c next => exact absurd .call (h _)
  · intro h w' hturn
    cases hturn with
    | call =>
      obtain ⟨r, hr⟩ := h _ List.mem_append_cons_self
      cases hr

/-- Turns start no operations and drop none. -/
theorem operations_of_turns {w w' : World} (h : Relation.ReflTransGen Turn w w') :
    w'.threads.map (·.operation) = w.threads.map (·.operation) := by
  induction h with
  | refl => rfl
  | tail _ hturn ih =>
    rw [← ih]
    cases hturn with
    | call => rw [List.map_append, List.map_append, List.map_cons, List.map_cons]

end World

end CaptureTheFlag
