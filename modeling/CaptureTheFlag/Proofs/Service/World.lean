import CaptureTheFlag.Proofs.Service.Operation
import Mathlib.Logic.Relation

/-!
# Operations one after another, and operations at once

The service is asked for one operation after another, or for several at once.  In the second case
the calls of the operations under way come in any order: the store answers each call as a whole, and
between two calls of one operation there may be any number of calls of others.

* `Store.Served`: the stores that operations lead to one after another.
* `Thread`, `World`: an operation under way, and a store with all operations under way on it.
* `World.Turn`: one operation under way makes its next call.
* `World.Step`: a turn, or an operation starts, or a call is answered in the store's place, or a
  user is added.
* `World.Reachable`: what steps lead to when nothing is stored and nothing is under way.

## One invariant for both

What a store keeps is shown for the two kinds of runs at once.  An invariant of the service is a
property that the empty store has, that no new user breaks, and that no call breaks which some
operation may make (`Store.IsInvariant`).  Then it holds of the store of every reachable world
(`Store.IsInvariant.of_reachable`), since an operation under way still makes only the calls of its
operation (`World.Confined`).  It holds of every served store too (`Store.IsInvariant.of_served`):
an operation that runs alone is one order of turns among others (`World.turns_alone`), so a
served store is the store of a reachable world (`Store.Served.exists_world`).
-/

namespace CaptureTheFlag

/-! ## One after another -/

/-- The stores that operations lead to, one after another, from the empty store.  The operations may
fail, and users are added from outside. -/
inductive Store.Served : Store → Prop where
  | empty : Served .empty
  | addUser {s : Store} (u : User) (hs : Served s) : Served (s.addUser u)
  | operation {s : Store} (setup : Setup) (o : Operation) (hs : Served s) :
      Served ((o.program setup).run .none s).2

/-- What operations lead to is reachable by calls. -/
theorem Store.Served.reachable {s : Store} (hs : s.Served) : s.Reachable := by
  induction hs with
  | empty => exact .empty
  | addUser u _ ih => exact ih.addUser u
  | operation setup o _ ih => exact ih.run .none (o.calls_program setup)

/-! ## At once -/

/-- An operation under way: what is left of its program. -/
structure Thread where
  operation : Operation
  rest : Program operation.Result

/-- An operation of which nothing is done yet. -/
def Thread.start (setup : Setup) (o : Operation) : Thread := ⟨o, o.program setup⟩

/-- A store, and the operations under way on it. -/
structure World where
  store : Store
  threads : List Thread

namespace World

/-- Nothing is stored, and nothing is under way. -/
def empty : World := ⟨.empty, []⟩

/-- One operation under way makes its next call, which the store answers as a whole. -/
inductive Turn : World → World → Prop where
  | call {before after : List Thread} {o : Operation} {c : Call}
      {next : Except Failure c.Reply → Program o.Result} {s : Store} :
      Turn ⟨s, before ++ ⟨o, .ask c next⟩ :: after⟩
        ⟨(c.perform s).2, before ++ ⟨o, next (c.perform s).1⟩ :: after⟩

/-- What can happen next. -/
inductive Step : World → World → Prop where
  | turn {w w' : World} (h : Turn w w') : Step w w'
  | start {s : Store} {threads : List Thread} (setup : Setup) (o : Operation) :
      Step ⟨s, threads⟩ ⟨s, threads ++ [.start setup o]⟩
  /-- A call is answered in the store's place. -/
  | interfere {before after : List Thread} {o : Operation} {c : Call}
      {next : Except Failure c.Reply → Program o.Result} {s : Store} (r : Except Failure c.Reply) :
      Step ⟨s, before ++ ⟨o, .ask c next⟩ :: after⟩ ⟨s, before ++ ⟨o, next r⟩ :: after⟩
  | addUser {s : Store} {threads : List Thread} (u : User) :
      Step ⟨s, threads⟩ ⟨s.addUser u, threads⟩

/-- What steps lead to when nothing is stored and nothing is under way. -/
def Reachable (w : World) : Prop := Relation.ReflTransGen Step empty w

end World

/-! ## One after another is one way of at once -/

/-- While all others wait, an operation under way comes to its end. -/
theorem World.turns_alone {before after : List Thread} {o : Operation} (p : Program o.Result)
    (s : Store) :
    Relation.ReflTransGen Turn ⟨s, before ++ ⟨o, p⟩ :: after⟩
      ⟨(p.run .none s).2, before ++ ⟨o, .done (p.run .none s).1⟩ :: after⟩ := by
  induction p generalizing s with
  | done r => exact .refl
  | ask c next ih => exact .head .call (ih _ _)

theorem World.Reachable.addUser {s : Store} {threads : List Thread}
    (hw : World.Reachable ⟨s, threads⟩) (u : User) : World.Reachable ⟨s.addUser u, threads⟩ :=
  hw.tail (.addUser u)

theorem World.Reachable.start {s : Store} {threads : List Thread}
    (hw : World.Reachable ⟨s, threads⟩) (setup : Setup) (o : Operation) :
    World.Reachable ⟨s, threads ++ [.start setup o]⟩ :=
  hw.tail (.start setup o)

/-- Turns lead from a reachable world to a reachable one. -/
theorem World.Reachable.turns {w w' : World} (hw : w.Reachable)
    (h : Relation.ReflTransGen Turn w w') : w'.Reachable := by
  induction h with
  | refl => exact hw
  | tail _ hturn ih => exact ih.tail (.turn hturn)

/-- In a reachable world any operation under way can be the one that comes to its end next. -/
theorem World.Reachable.runAlone {before after : List Thread} {o : Operation}
    {p : Program o.Result} {s : Store} (hw : World.Reachable ⟨s, before ++ ⟨o, p⟩ :: after⟩) :
    World.Reachable
      ⟨(p.run .none s).2, before ++ ⟨o, .done (p.run .none s).1⟩ :: after⟩ :=
  hw.turns (World.turns_alone p s)

/-- What operations lead to one after another, they lead to when they are asked for at once. -/
theorem Store.Served.exists_world {s : Store} (hs : s.Served) :
    ∃ threads, World.Reachable ⟨s, threads⟩ := by
  induction hs with
  | empty => exact ⟨[], .refl⟩
  | addUser u _ ih =>
    obtain ⟨threads, hw⟩ := ih
    exact ⟨threads, hw.addUser u⟩
  | operation setup o _ ih =>
    obtain ⟨threads, hw⟩ := ih
    exact ⟨_, (hw.start setup o).runAlone⟩

/-- Of two operations that are under way at once, the later may come to its end first. -/
theorem World.Reachable.overtake {s : Store} {threads : List Thread}
    (hw : World.Reachable ⟨s, threads⟩) (setup : Setup) (o o' : Operation) :
    ∃ threads', World.Reachable
      ⟨((o.program setup).run .none ((o'.program setup).run .none s).2).2, threads'⟩ := by
  have hovertaken := ((hw.start setup o).start setup o').runAlone
  rw [List.append_assoc] at hovertaken
  exact ⟨_, hovertaken.runAlone⟩

/-! ## Threads make the calls of their operations -/

/-- What is left of the operation makes only calls that the operation may make. -/
def Thread.Confined (t : Thread) : Prop := ∃ setup, t.rest.Calls (t.operation.Makes setup)

theorem Thread.confined_start (setup : Setup) (o : Operation) : (Thread.start setup o).Confined :=
  ⟨setup, o.calls_program setup⟩

/-- The next call is one that the operation may make. -/
theorem Thread.Confined.makes {o : Operation} {c : Call}
    {next : Except Failure c.Reply → Program o.Result}
    (h : Thread.Confined ⟨o, .ask c next⟩) : ∃ setup, o.Makes setup c := by
  obtain ⟨setup, hcalls⟩ := h
  cases hcalls with
  | ask hc _ => exact ⟨setup, hc⟩

/-- After any answer to its next call an operation is as confined as before. -/
theorem Thread.Confined.next {o : Operation} {c : Call}
    {next : Except Failure c.Reply → Program o.Result}
    (h : Thread.Confined ⟨o, .ask c next⟩) (r : Except Failure c.Reply) :
    Thread.Confined ⟨o, next r⟩ := by
  obtain ⟨setup, hcalls⟩ := h
  cases hcalls with
  | ask _ hnext => exact ⟨setup, hnext r⟩

/-- Every operation under way makes only calls that it may make. -/
def World.Confined (w : World) : Prop := ∀ t ∈ w.threads, t.Confined

/-- One thread among others is replaced: what holds of the others and of the new one holds of all. -/
theorem World.forall_threads_replace {P : Thread → Prop} {before after : List Thread}
    {t t' : Thread} (h : ∀ u ∈ before ++ t :: after, P u) (ht' : P t') :
    ∀ u ∈ before ++ t' :: after, P u := by
  intro u hu
  rw [List.mem_append, List.mem_cons] at hu
  rcases hu with hu | rfl | hu
  · exact h u (List.mem_append.2 (Or.inl hu))
  · exact ht'
  · exact h u (List.mem_append.2 (Or.inr (List.mem_cons_of_mem _ hu)))

theorem World.Confined.replace {s s' : Store} {before after : List Thread} {t t' : Thread}
    (h : World.Confined ⟨s, before ++ t :: after⟩) (ht : t.Confined → t'.Confined) :
    World.Confined ⟨s', before ++ t' :: after⟩ :=
  World.forall_threads_replace h (ht (h t List.mem_append_cons_self))

theorem World.Confined.step {w w' : World} (h : w.Confined) (hstep : w.Step w') : w'.Confined := by
  cases hstep with
  | turn hturn =>
    cases hturn with
    | call => exact h.replace fun ht => ht.next _
  | start setup o =>
    intro t ht
    rcases List.mem_append.1 ht with ht | ht
    · exact h t ht
    · rw [List.mem_singleton.1 ht]
      exact Thread.confined_start setup o
  | interfere r => exact h.replace fun ht => ht.next r
  | addUser u => exact h

theorem World.Reachable.confined {w : World} (hw : w.Reachable) : w.Confined := by
  induction hw with
  | refl =>
    intro t ht
    cases ht
  | tail _ hstep ih => exact ih.step hstep

/-! ## Invariants of the service -/

/-- A property that holds at the start, and that neither users nor calls of operations break. -/
structure Store.IsInvariant (I : Store → Prop) : Prop where
  empty : I .empty
  addUser : ∀ u s, I s → I (s.addUser u)
  perform : ∀ (setup : Setup) (o : Operation) (c : Call) (s : Store), o.Makes setup c → I s →
    I (c.perform s).2

namespace Store.IsInvariant

variable {I : Store → Prop}

/-- An invariant is kept by a step of a confined world. -/
theorem of_step (hI : IsInvariant I) {w w' : World} (hw : w.Confined) (hs : I w.store)
    (hstep : w.Step w') : I w'.store := by
  cases hstep with
  | turn hturn =>
    cases hturn with
    | @call before after o c next s =>
      have hmem : (⟨o, .ask c next⟩ : Thread) ∈ before ++ ⟨o, .ask c next⟩ :: after :=
        List.mem_append_cons_self
      obtain ⟨setup, hc⟩ := (hw _ hmem).makes
      exact hI.perform setup o c s hc hs
  | start setup o => exact hs
  | interfere r => exact hs
  | addUser u => exact hI.addUser u _ hs

/-- An invariant holds however the calls of operations under way at once follow each other. -/
theorem of_reachable (hI : IsInvariant I) {w : World} (hw : w.Reachable) : I w.store := by
  induction hw with
  | refl => exact hI.empty
  | tail hw hstep ih => exact hI.of_step (World.Reachable.confined hw) ih hstep

/-- An invariant holds whatever operations were carried out one after another. -/
theorem of_served (hI : IsInvariant I) {s : Store} (hs : s.Served) : I s := by
  obtain ⟨threads, hw⟩ := hs.exists_world
  exact hI.of_reachable hw

end Store.IsInvariant

/-! ## A small competition

One problem that is open to everybody, one user, and one grader that accepts one flag. -/

namespace Sample

def setup : Setup := ⟨(Registry.empty 1000).register "hidden" (Grader.flag {} "flag" false), true⟩

def document : Document :=
  KeyMap.ofList [
    ("name", .string "Warmup"),
    ("score", .integer 50),
    ("category", .string "misc"),
    ("grader", .string "hidden"),
    ("description", .string "Look around."),
    ("threshold", .integer 0)]

def user : User := ⟨"ada", "red", "Ada"⟩

/-- The right flag, between blanks. -/
def attempt : Attempt := ⟨"red", Problem.pidOf "Warmup", " flag ", "ada", none⟩

/-- The user is known and the problem is stored. -/
def store : Store :=
  ((Operation.insert document).program setup |>.run .none (Store.empty.addUser user)).2

theorem served_store : store.Served :=
  Store.Served.operation setup (.insert document) (.addUser user .empty)

end Sample

end CaptureTheFlag
