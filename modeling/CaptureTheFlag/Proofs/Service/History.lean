import CaptureTheFlag.Proofs.Service.Interleaving

/-!
# Turns and the calls that are made in them

What becomes of operations that are under way at once may depend on the order of their calls.  To
speak of this order, the turns of a world are kept together with what is called in them.

* `World.turn?`: the operation at one place makes its next call.
* `World.Event`: a call, and the place of the operation that makes it.
* `World.History`: the events that lead from one world to another, in their order.
* `World.turns_iff_exists_history`: turns lead to a world exactly when some history does.
* `World.follow`: the history that comes about when the places of the operations are given one after
  another.

That one event comes before another is put as `[e, e'].Sublist events`.  Behind the last event of a
history, a pair in this order is one that was there before, or one whose second event is the last
(`World.sublist_snoc_iff`).
-/

namespace CaptureTheFlag

deriving instance DecidableEq for Call

namespace World

/-! ## Turns by place -/

/-- The operation at a place makes its next call; the call, and the world behind it.  There is no
such turn where there is no operation, or where it has its result. -/
def turn? (w : World) (i : Nat) : Option (Call × World) :=
  match w.threads[i]? with
  | some ⟨o, .ask c next⟩ =>
    some (c, ⟨(c.perform w.store).2, w.threads.set i ⟨o, next (c.perform w.store).1⟩⟩)
  | _ => none

/-- A turn at a place: the operation there goes on with the store's answer, and all others wait. -/
theorem turn?_eq_some {w w' : World} {i : Nat} {c : Call} (h : w.turn? i = some (c, w')) :
    ∃ (o : Operation) (next : Except Failure c.Reply → Program o.Result),
      w.threads[i]? = some ⟨o, .ask c next⟩ ∧
        w' = ⟨(c.perform w.store).2, w.threads.set i ⟨o, next (c.perform w.store).1⟩⟩ := by
  unfold turn? at h
  split at h
  · next o c' next hthread =>
    obtain ⟨rfl, rfl⟩ := Prod.mk.inj (Option.some.inj h)
    exact ⟨o, next, hthread, rfl⟩
  · cases h

theorem turn?_of_ask {w : World} {i : Nat} {o : Operation} {c : Call}
    {next : Except Failure c.Reply → Program o.Result}
    (h : w.threads[i]? = some ⟨o, .ask c next⟩) :
    w.turn? i =
      some (c, ⟨(c.perform w.store).2, w.threads.set i ⟨o, next (c.perform w.store).1⟩⟩) := by
  unfold turn?
  rw [h]

/-- What stands at the places behind a turn. -/
theorem getElem?_set_threads {threads : List Thread} {i : Nat} {t : Thread}
    (h : threads[i]? = some t) (t' : Thread) (k : Nat) :
    (threads.set i t')[k]? = if k = i then some t' else threads[k]? := by
  obtain ⟨hlt, -⟩ := List.getElem?_eq_some_iff.1 h
  rw [List.getElem?_set]
  by_cases hk : k = i
  · subst hk
    rw [if_pos rfl, if_pos rfl, if_pos hlt]
  · rw [if_neg hk, if_neg (Ne.symm hk)]

/-- Who has a result takes no turn. -/
theorem getElem?_of_finished {w w' : World} {i : Nat} {c : Call} (h : w.turn? i = some (c, w'))
    {k : Nat} {t : Thread} (ht : w.threads[k]? = some t) (hfinished : t.Finished) :
    k ≠ i ∧ w'.threads[k]? = some t := by
  obtain ⟨o, next, hthread, rfl⟩ := turn?_eq_some h
  have hk : k ≠ i := by
    rintro rfl
    obtain rfl := Option.some.inj (ht.symm.trans hthread)
    obtain ⟨r, hr⟩ := hfinished
    cases hr
  refine ⟨hk, ?_⟩
  rw [getElem?_set_threads hthread, if_neg hk]
  exact ht

/-- Turns are turns at places. -/
theorem turn_iff_exists_turn? {w w' : World} :
    w.Turn w' ↔ ∃ i c, w.turn? i = some (c, w') := by
  constructor
  · rintro ⟨⟩
    next before after o c next s =>
    have hthread : (before ++ ⟨o, .ask c next⟩ :: after)[before.length]? = some ⟨o, .ask c next⟩ :=
      by
      rw [List.getElem?_append_right (Nat.le_refl _), Nat.sub_self]
      rfl
    refine ⟨before.length, c, ?_⟩
    rw [turn?_of_ask (w := ⟨s, _⟩) hthread]
    rw [List.set_append_right _ _ (Nat.le_refl _), Nat.sub_self, List.set_cons_zero]
  · rintro ⟨i, c, h⟩
    obtain ⟨o, next, hthread, rfl⟩ := turn?_eq_some h
    obtain ⟨s, threads⟩ := w
    obtain ⟨hlt, hget⟩ := List.getElem?_eq_some_iff.1 hthread
    let t : Thread := ⟨o, next (c.perform s).1⟩
    obtain ⟨before, after, hsplit, -, hset⟩ : ∃ before after : List Thread,
        threads = before ++ threads[i] :: after ∧ before.length = i ∧
          threads.set i t = before ++ t :: after := List.exists_of_set hlt
    rw [hget] at hsplit
    obtain rfl := hsplit
    show Turn _ ⟨_, List.set _ i _⟩
    rw [hset]
    exact .call

theorem length_threads_of_turn? {w w' : World} {i : Nat} {c : Call}
    (h : w.turn? i = some (c, w')) : w'.threads.length = w.threads.length := by
  obtain ⟨o, next, -, rfl⟩ := turn?_eq_some h
  exact List.length_set

/-! ## Events in their order -/

/-- A call, and the place of the operation that makes it. -/
structure Event where
  place : Nat
  call : Call
  deriving DecidableEq

/-- The events lead from one world to the other. -/
inductive History (w : World) : List Event → World → Prop where
  | nil : History w [] w
  | snoc {events : List Event} {v w' : World} {i : Nat} {c : Call} (h : History w events v)
      (hturn : v.turn? i = some (c, w')) : History w (events ++ [⟨i, c⟩]) w'

namespace History

variable {w w' : World} {events : List Event}

theorem turns (h : w.History events w') : Relation.ReflTransGen Turn w w' := by
  induction h with
  | nil => exact .refl
  | snoc _ hturn ih => exact ih.tail (turn_iff_exists_turn?.2 ⟨_, _, hturn⟩)

theorem length_threads (h : w.History events w') : w'.threads.length = w.threads.length := by
  induction h with
  | nil => rfl
  | snoc _ hturn ih => rw [length_threads_of_turn? hturn, ih]

/-- Events are at places where there are operations. -/
theorem place_lt (h : w.History events w') {e : Event} (he : e ∈ events) :
    e.place < w'.threads.length := by
  induction h with
  | nil => cases he
  | snoc _ hturn ih =>
    rw [length_threads_of_turn? hturn]
    rcases List.mem_append.1 he with he | he
    · exact ih he
    · obtain rfl := List.mem_singleton.1 he
      obtain ⟨o, next, hthread, -⟩ := turn?_eq_some hturn
      exact (List.getElem?_eq_some_iff.1 hthread).1

end History

/-- **Turns lead to a world if and only if some history does.** -/
theorem turns_iff_exists_history {w w' : World} :
    Relation.ReflTransGen Turn w w' ↔ ∃ events, w.History events w' := by
  constructor
  · intro h
    induction h with
    | refl => exact ⟨[], .nil⟩
    | tail _ hturn ih =>
      obtain ⟨events, hhistory⟩ := ih
      obtain ⟨i, c, hturn⟩ := turn_iff_exists_turn?.1 hturn
      exact ⟨_, hhistory.snoc hturn⟩
  · rintro ⟨events, h⟩
    exact h.turns

/-- The last event is none of another operation. -/
theorem mem_concat_iff_of_ne {events : List Event} {k m : Nat} (hk : k ≠ m) (b c : Call) :
    (⟨k, b⟩ : Event) ∈ events ++ [⟨m, c⟩] ↔ (⟨k, b⟩ : Event) ∈ events := by
  rw [List.mem_append, List.mem_singleton, or_iff_left]
  exact fun heq => hk (Event.mk.inj heq).1

/-- Some events come in order if they did before the last event, or if their last is the last and the
others came in order before. -/
theorem concat_sublist_concat_iff {l events : List Event} {b e : Event} :
    (l ++ [b]).Sublist (events ++ [e]) ↔ (l ++ [b]).Sublist events ∨ l.Sublist events ∧ b = e := by
  rw [← List.reverse_sublist, List.reverse_concat, List.reverse_concat, List.sublist_cons_iff]
  rw [← List.reverse_concat, List.reverse_sublist]
  simp only [List.reverse_concat, List.cons.injEq]
  constructor
  · rintro (h | ⟨r, ⟨rfl, rfl⟩, h⟩)
    · exact Or.inl h
    · exact Or.inr ⟨List.reverse_sublist.1 h, rfl⟩
  · rintro (h | ⟨h, rfl⟩)
    · exact Or.inl h
    · exact Or.inr ⟨_, ⟨rfl, rfl⟩, List.reverse_sublist.2 h⟩

/-- Two events come in this order if they did before the last event, or if the second is the last. -/
theorem sublist_snoc_iff {a b e : Event} {events : List Event} :
    [a, b].Sublist (events ++ [e]) ↔ [a, b].Sublist events ∨ a ∈ events ∧ b = e := by
  rw [← List.singleton_sublist]
  exact concat_sublist_concat_iff (l := [a])

/-! ## Histories by the places of the turns -/

/-- One more turn, at a place; where there is no turn, none is taken. -/
def goOn (h : List Event × World) (i : Nat) : List Event × World :=
  match h.2.turn? i with
  | some (c, w) => (h.1 ++ [⟨i, c⟩], w)
  | none => h

/-- The turns at some places, one after another. -/
def follow (w : World) (places : List Nat) : List Event × World := places.foldl goOn ([], w)

theorem History.goOn {w : World} {h : List Event × World} (hw : w.History h.1 h.2) (i : Nat) :
    w.History (World.goOn h i).1 (World.goOn h i).2 := by
  unfold World.goOn
  split
  · next hturn => exact hw.snoc hturn
  · exact hw

/-- What is followed is a history. -/
theorem history_follow (w : World) (places : List Nat) :
    w.History (w.follow places).1 (w.follow places).2 := by
  suffices ∀ h : List Event × World, w.History h.1 h.2 →
      w.History (places.foldl World.goOn h).1 (places.foldl World.goOn h).2 from this _ .nil
  induction places with
  | nil => exact fun h hw => hw
  | cons i r ih => exact fun h hw => ih _ (hw.goOn i)

end World

end CaptureTheFlag
