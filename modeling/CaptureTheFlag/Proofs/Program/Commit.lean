import CaptureTheFlag.Proofs.Store.Reachable

/-!
# What a program can still come to once it has changed the store

An operation that fails should have changed nothing.  A program does not see the store, so this is
put in terms of the answers that it gets.

* `Call.TellsUnchanged`: the answer tells that the call left the store as it was.
* `Program.CommitsTo Q`: after the first answer that does not tell so, every result that the program
  can come to has the property `Q`.
* `Program.CommitsTo.fst_or_snd`: a run ends with a result of this kind, or it leaves the store as
  it was.

## Why the answers decide

A call that fails has changed nothing, and neither has a call that only looks something up.  A
removal of a problem that finds no problem has changed nothing either, and this is what lets the
removal fail afterwards.  Every other answer may come from a call that wrote.  After it the program
must not fail any more, whatever it is answered from then on, so the second half of `CommitsTo` is a
statement about all results of what is left (`Program.Ends`), and not about the next call alone.

The bound on interference is weak on purpose.  An answer that comes in the store's place leaves the
store as it is, and it may still be one that does not tell so; the program is then held to more than
it would have to be.
-/

namespace CaptureTheFlag

/-! ## Answers -/

/-- The answer tells that the call left the store as it was. -/
def Call.TellsUnchanged : (c : Call) → Except Failure c.Reply → Prop
  | _, .error _ => True
  | .deleteProblem _, .ok found => found = false
  | c, .ok _ => c.IsRead

theorem Call.tellsUnchanged_error (c : Call) (e : Failure) : c.TellsUnchanged (.error e) := by
  cases c <;> exact trivial

/-- A call that looks something up changes nothing, whatever it is answered. -/
theorem Call.IsRead.tellsUnchanged {c : Call} (h : c.IsRead) (r : Except Failure c.Reply) :
    c.TellsUnchanged r := by
  cases r with
  | error e => exact c.tellsUnchanged_error e
  | ok a => cases c <;> first | exact h | exact h.elim

/-- Removing what is not there removes nothing. -/
theorem Store.snd_deleteProblem_of_absent {s : Store} {pid : String}
    (h : s.problems.contains pid = false) : (s.deleteProblem pid).2 = s := by
  have hnone : s.problems.get? pid = none := (KeyMap.contains_eq_false_iff _ _).1 h
  have herase : s.problems.erase pid = s.problems := by
    refine KeyMap.ext_get? fun k => ?_
    rw [KeyMap.get?_erase]
    by_cases hk : k = pid
    · rw [if_pos hk, hk, hnone]
    · rw [if_neg hk]
  unfold deleteProblem
  rw [herase]

/-- What the store answers is true. -/
theorem Call.snd_perform_of_tellsUnchanged (c : Call) (s : Store)
    (h : c.TellsUnchanged (c.perform s).1) : (c.perform s).2 = s := by
  by_cases hread : c.IsRead
  · exact hread.snd_perform s
  · cases c with
    | insertProblem p =>
      change TellsUnchanged (.insertProblem p) (s.insertProblem p).1 at h
      show (s.insertProblem p).2 = s
      rcases Store.insertProblem_cases p s with hp | ⟨-, -, hp⟩
      · rw [hp]
      · rw [hp] at h
        exact h.elim
    | replaceProblem p =>
      change TellsUnchanged (.replaceProblem p) (s.replaceProblem p).1 at h
      show (s.replaceProblem p).2 = s
      rcases Store.replaceProblem_cases p s with hp | hp | ⟨-, -, hp⟩
      · rw [hp]
      · rw [hp]
      · rw [hp] at h
        exact h.elim
    | insertSubmission x =>
      change TellsUnchanged (.insertSubmission x) (s.insertSubmission x).1 at h
      show (s.insertSubmission x).2 = s
      rcases Store.insertSubmission_cases x s with ⟨-, hx⟩ | ⟨-, hx⟩
      · rw [hx]
      · rw [hx] at h
        exact h.elim
    | deleteProblem pid => exact Store.snd_deleteProblem_of_absent h
    | setCorrect f correct => exact h.elim
    | deleteSubmissions f => exact h.elim
    | _ => exact absurd trivial hread

namespace Program

variable {α β : Type}

/-! ## Programs that come to certain results once they have written -/

/-- Once an answer does not tell that the store is as it was, every result has the property. -/
inductive CommitsTo (Q : Except Failure α → Prop) : Program α → Prop where
  | done (r : Except Failure α) : CommitsTo Q (.done r)
  | ask {c : Call} {next : Except Failure c.Reply → Program α}
      (hnext : ∀ r, c.TellsUnchanged r → CommitsTo Q (next r))
      (hend : ∀ r, ¬c.TellsUnchanged r → (next r).Ends Q) : CommitsTo Q (.ask c next)

/-- The result is a success. -/
def Succeeds (r : Except Failure α) : Prop := ∃ a, r = .ok a

theorem not_succeeds_error (e : Failure) : ¬Succeeds (.error e : Except Failure α) := by
  rintro ⟨a, ha⟩
  cases ha

instance (r : Except Failure α) : Decidable (Succeeds r) :=
  match r with
  | .ok a => isTrue ⟨a, rfl⟩
  | .error e => isFalse (not_succeeds_error e)

namespace CommitsTo

variable {Q : Except Failure α → Prop} {Q' : Except Failure β → Prop}

theorem fail (e : Failure) : CommitsTo Q (fail e : Program α) := done _

/-- A program of which all results have the property need not care when it writes. -/
theorem of_ends {p : Program α} (h : p.Ends Q) : CommitsTo Q p := by
  induction h with
  | done => exact done _
  | ask hnext ih => exact ask (fun r _ => ih r) fun r _ => hnext r

/-- A program that only looks things up may come to any result. -/
theorem of_reads {p : Program α} (h : p.Calls Call.IsRead) : CommitsTo Q p := by
  induction h with
  | done r => exact done r
  | ask hc _ ih => exact ask (fun r _ => ih r) fun r hr => absurd (hc.tellsUnchanged r) hr

/-- A call alone: if it fails it has changed nothing. -/
theorem call (c : Call) : CommitsTo Succeeds (Program.call c) := by
  refine ask (fun r _ => done r) fun r hr => ?_
  cases r with
  | ok a => exact .done ⟨a, rfl⟩
  | error e => exact absurd (c.tellsUnchanged_error e) hr

/-- What comes second must keep to the results of the first, where the first may have written. -/
theorem bind {p : Program α} {f : α → Program β} (hp : CommitsTo Q p)
    (hf : ∀ a, CommitsTo Q' (f a)) (hok : ∀ a, Q (.ok a) → (f a).Ends Q')
    (herror : ∀ e, Q (.error e) → Q' (.error e)) : CommitsTo Q' (p.bind f) := by
  induction hp with
  | done r =>
    cases r with
    | ok a => exact hf a
    | error e => exact done _
  | ask _ hend ih => exact ask ih fun r hr => (hend r hr).bind hok herror

/-- Looking things up first changes nothing. -/
theorem reads_bind {p : Program α} {f : α → Program β} (hp : p.Calls Call.IsRead)
    (hf : ∀ a, CommitsTo Q' (f a)) : CommitsTo Q' (p.bind f) :=
  bind (of_reads (Q := fun _ => False) hp) hf (fun _ h => h.elim) fun _ h => h.elim

/-- A test without calls changes nothing. -/
theorem done_bind {r : Except Failure α} {f : α → Program β}
    (hf : ∀ a, r = .ok a → CommitsTo Q' (f a)) : CommitsTo Q' ((Program.done r).bind f) := by
  cases r with
  | ok a => exact hf a rfl
  | error e => exact done _

/-- What follows a program that has written must succeed. -/
theorem bind_succeeds {p : Program α} {f : α → Program β} (hp : CommitsTo Succeeds p)
    (hf : ∀ a, (f a).Ends Succeeds) : CommitsTo Succeeds (p.bind f) :=
  bind hp (fun a => of_ends (hf a)) (fun a _ => hf a) fun e he => absurd he (not_succeeds_error e)

/-- A failure under another name is a failure still. -/
theorem mapFailure (g : Failure → Failure) {p : Program α} (hp : CommitsTo Succeeds p) :
    CommitsTo Succeeds (p.mapFailure g) := by
  induction hp with
  | done r => cases r <;> exact done _
  | ask _ hend ih =>
    refine ask ih fun r hr => (hend r hr).mapFailure g (fun a ha => ha) fun e he => ?_
    exact absurd he (not_succeeds_error e)

/-- A program may end with a call that can fail, if nothing can fail behind it. -/
theorem last_call (c : Call) (g : Failure → Failure) (a : α) :
    CommitsTo Succeeds (((Program.call c).mapFailure g).bind fun _ => .done (.ok a)) :=
  bind_succeeds (mapFailure g (call c)) fun _ => Ends.done ⟨a, rfl⟩

/-- The failure that has become a result is the result of a program that has written nothing. -/
theorem attempt {p : Program α} (hp : CommitsTo Q p) :
    CommitsTo (fun r => ∃ r', r = .ok r' ∧ Q r') p.attempt := by
  induction hp with
  | done r => exact done _
  | ask _ hend ih => exact ask ih fun r hr => (hend r hr).attempt

end CommitsTo

/-- **A run comes to a result of the kind, or it leaves the store as it was**, whichever calls are
answered in the store's place. -/
theorem CommitsTo.fst_or_snd {Q : Except Failure α → Prop} {p : Program α} (hp : p.CommitsTo Q)
    (is : Nat → Interference) (s : Store) :
    Q (p.runUnder is s).1 ∨ (p.runUnder is s).2 = s := by
  induction hp generalizing is s with
  | done r => exact Or.inr rfl
  | @ask c next _ hend ih =>
    unfold runUnder
    split
    · next r _ =>
      by_cases hr : c.TellsUnchanged r
      · exact ih r hr _ s
      · exact Or.inl (fst_runUnder_of_ends (hend r hr) _ s)
    · by_cases hr : c.TellsUnchanged (c.perform s).1
      · -- the store behind the call is the store before it, so the rest runs on the same store
        rw [c.snd_perform_of_tellsUnchanged s hr]
        exact ih _ hr _ s
      · exact Or.inl (fst_runUnder_of_ends (hend _ hr) _ _)

/-- A program that can only succeed once it has written leaves the store as it was if it fails. -/
theorem CommitsTo.snd_of_error {p : Program α} (hp : p.CommitsTo Succeeds)
    {is : Nat → Interference} {s s' : Store} {e : Failure}
    (h : p.runUnder is s = (.error e, s')) : s' = s := by
  have hrun := hp.fst_or_snd is s
  rw [h] at hrun
  exact hrun.resolve_left (not_succeeds_error e)

end Program

end CaptureTheFlag
