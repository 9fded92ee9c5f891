import CaptureTheFlag.Proofs.Problem.Draft
import CaptureTheFlag.Proofs.Service.World

/-!
# What operations on problems come to

A problem is inserted, updated or removed by a program that looks at the store, makes up its mind,
and writes at most once.  Here the result and the store behind it are told from what is stored
before.

* `Lifecycle.Insertion`: what becomes of a document that is inserted, with one case for each reason
  to refuse it.
* `Lifecycle.Replacement`: what becomes of new values for a stored problem.
* `Lifecycle.run_remove`: what becomes of a removal.
* `Lifecycle.Enters`, `Lifecycle.Change`: what an operation of any kind can do to the problems.
* `Operation.change_program`: no operation does anything else to them.

## Two tests for every name

Whether a name is taken is tested twice: the program looks it up, and then the store looks through
its problems once more when it is asked to write.  An operation that runs alone meets the same store
at both, so the second test decides nothing that the first has left open, except where an update
keeps the name and does not look it up.  Then the store alone refuses, and says so by the same
failure (`Lifecycle.takenIfStored`).
-/

namespace CaptureTheFlag

open Program

/-! ## What is looked up on the way -/

theorem Store.problemNamed?_eq_none_iff (s : Store) (name : String) :
    s.problemNamed? name = none ↔ ∀ q ∈ s.problems.values, q.name ≠ name := by
  unfold problemNamed?
  rw [List.find?_eq_none]
  simp only [decide_eq_true_eq, ne_eq]

theorem Store.of_problemNamed? {s : Store} {name : String} {p : Problem}
    (h : s.problemNamed? name = some p) : p ∈ s.problems.values ∧ p.name = name :=
  ⟨List.mem_of_find?_eq_some h, by simpa using List.find?_some h⟩

namespace Lifecycle

theorem run_find (s : Store) (pid : String) :
    s.problem? pid = none ∧ (find pid).run .none s = (.error (.problemNotFound pid), s) ∨
      ∃ p, s.problem? pid = some p ∧ (find pid).run .none s = (.ok p, s) := by
  unfold find
  rw [bind_eq, run_bind_of_ok (run_call (.findProblem pid) s)]
  cases hp : s.problem? pid with
  | none => exact Or.inl ⟨rfl, rfl⟩
  | some p => exact Or.inr ⟨p, rfl, rfl⟩

/-! ## Insertions -/

/-- What becomes of a document that is inserted. -/
inductive Insertion (setup : Setup) (doc : Document) (s : Store) :
    Except Failure String × Store → Prop where
  | rejected {e : Failure} (h : Draft.ofDocument doc = .error e) :
      Insertion setup doc s (.error e, s)
  | unregistered {draft : Draft} {e : Failure} (hdraft : Draft.ofDocument doc = .ok draft)
      (h : checkGrader setup draft.grader = .error e) : Insertion setup doc s (.error e, s)
  /-- The identifier or the name is taken. -/
  | taken {draft : Draft} (hdraft : Draft.ofDocument doc = .ok draft)
      (hgrader : checkGrader setup draft.grader = .ok ())
      (h : s.problem? (Problem.pidOf draft.name) ≠ none ∨
        ∃ q ∈ s.problems.values, q.name = draft.name) :
      Insertion setup doc s (.error (.nameTaken draft.name), s)
  | stored {draft : Draft} (hdraft : Draft.ofDocument doc = .ok draft)
      (hgrader : checkGrader setup draft.grader = .ok ())
      (hpid : s.problem? (Problem.pidOf draft.name) = none)
      (hname : ∀ q ∈ s.problems.values, q.name ≠ draft.name) :
      Insertion setup doc s (.ok (Problem.pidOf draft.name),
        { s with
          problems := s.problems.insert (Problem.pidOf draft.name) (Problem.create draft) })

/-- The store takes what has an identifier and a name of its own. -/
theorem insertProblem_of_new {s : Store} {p : Problem} (hpid : s.problem? p.pid = none)
    (hname : ∀ q ∈ s.problems.values, q.name ≠ p.name) :
    Call.perform (.insertProblem p) s =
      (.ok (), { s with problems := s.problems.insert p.pid p }) := by
  have hnew : ¬(s.problems.contains p.pid || s.problems.values.any (·.name = p.name)) = true := by
    rw [Bool.or_eq_true, List.any_eq_true]
    rintro (h | ⟨q, hq, h⟩)
    · rw [(KeyMap.contains_eq_false_iff _ _).2 hpid] at h
      cases h
    · exact hname q hq (of_decide_eq_true h)
  exact if_neg hnew

theorem insertion (setup : Setup) (doc : Document) (s : Store) :
    Insertion setup doc s ((insert setup doc).run .none s) := by
  unfold insert
  simp only [bind_eq, lift_eq, pure_eq]
  cases hdraft : Draft.ofDocument doc with
  | error e => exact .rejected hdraft
  | ok draft =>
    rw [done_ok_bind]
    cases hgrader : checkGrader setup draft.grader with
    | error e => exact .unregistered hdraft hgrader
    | ok u =>
      rw [done_ok_bind, run_bind_of_ok (run_call (.findProblem _) s)]
      cases hpid : s.problem? (Problem.create draft).pid with
      | some q =>
        refine .taken hdraft hgrader (Or.inl ?_)
        exact fun hnone => Option.some_ne_none q (hpid.symm.trans hnone)
      | none =>
        show Insertion setup doc s (Program.run .none (Program.bind _ _) s)
        rw [run_bind_of_ok (run_call (.findProblemNamed _) s)]
        cases hname : s.problemNamed? (Problem.create draft).name with
        | some q => exact .taken hdraft hgrader (Or.inr ⟨q, Store.of_problemNamed? hname⟩)
        | none =>
          rw [s.problemNamed?_eq_none_iff] at hname
          have hrun := run_mapFailure_call_of_ok (insertProblem_of_new hpid hname)
            (takenIfStored draft.name) fun _ => .done (.ok (Problem.pidOf draft.name))
          exact Eq.mpr (congrArg (Insertion setup doc s) hrun) (.stored hdraft hgrader hpid hname)

/-! ## Replacements -/

/-- What becomes of new values for some fields of a stored problem. -/
inductive Replacement (setup : Setup) (pid : String) (changes : Document) (s : Store) :
    Except Failure Problem × Store → Prop where
  | missing (h : s.problem? pid = none) :
      Replacement setup pid changes s (.error (.problemNotFound pid), s)
  | rejected {p : Problem} {e : Failure} (hp : s.problem? pid = some p)
      (h : Draft.ofDocument (merge p changes) = .error e) :
      Replacement setup pid changes s (.error e, s)
  /-- The grader changes, and the new one would have to be registered. -/
  | unregistered {p : Problem} {draft : Draft} {e : Failure} (hp : s.problem? pid = some p)
      (hdraft : Draft.ofDocument (merge p changes) = .ok draft) (hne : draft.grader ≠ p.grader)
      (h : checkGrader setup draft.grader = .error e) :
      Replacement setup pid changes s (.error e, s)
  /-- Another problem has the name. -/
  | taken {p : Problem} {draft : Draft} (hp : s.problem? pid = some p)
      (hdraft : Draft.ofDocument (merge p changes) = .ok draft)
      (hgrader : draft.grader ≠ p.grader → checkGrader setup draft.grader = .ok ())
      (h : ∃ q ∈ s.problems.values, q.name = draft.name ∧ q.pid ≠ pid) :
      Replacement setup pid changes s (.error (.nameTaken draft.name), s)
  | replaced {p : Problem} {draft : Draft} (hp : s.problem? pid = some p)
      (hdraft : Draft.ofDocument (merge p changes) = .ok draft)
      (hgrader : draft.grader ≠ p.grader → checkGrader setup draft.grader = .ok ())
      (hname : ∀ q ∈ s.problems.values, q.name = draft.name → q.pid = pid) :
      Replacement setup pid changes s (.ok (Problem.ofDraft pid draft),
        { s with problems := s.problems.insert pid (Problem.ofDraft pid draft) })

/-- The store replaces a stored problem unless another problem has the name. -/
theorem replaceProblem_of_stored {s : Store} {p q : Problem} (hq : s.problem? p.pid = some q) :
    (∃ q ∈ s.problems.values, q.name = p.name ∧ q.pid ≠ p.pid) ∧
        Call.perform (.replaceProblem p) s = (.error (.problemStored p.name), s) ∨
      (∀ q ∈ s.problems.values, q.name = p.name → q.pid = p.pid) ∧
        Call.perform (.replaceProblem p) s =
          (.ok (), { s with problems := s.problems.insert p.pid p }) := by
  have hstored : s.problems.contains p.pid = true := (KeyMap.contains_iff _ _).2 ⟨q, hq⟩
  by_cases h : (s.problems.values.any fun q => q.name = p.name && q.pid ≠ p.pid) = true
  · obtain ⟨q, hq, htaken⟩ := List.any_eq_true.1 h
    rw [Bool.and_eq_true, decide_eq_true_eq, decide_eq_true_eq] at htaken
    exact Or.inl ⟨⟨q, hq, htaken⟩, if_pos h⟩
  · refine Or.inr ⟨fun q hq hname => ?_, (if_neg h).trans (if_pos hstored)⟩
    by_contra hpid
    exact h (List.any_eq_true.2 ⟨q, hq, by simp [hname, hpid]⟩)

theorem run_checkName (p : Problem) (s : Store) :
    (∃ q ∈ s.problems.values, q.name = p.name ∧ q.pid ≠ p.pid) ∧
        (checkName p).run .none s = (.error (.nameTaken p.name), s) ∨
      (checkName p).run .none s = (.ok (), s) := by
  unfold checkName
  rw [bind_eq, run_bind_of_ok (run_call (.findProblemNamed p.name) s)]
  cases hnamed : s.problemNamed? p.name with
  | none => exact Or.inr rfl
  | some q =>
    obtain ⟨hq, hname⟩ := Store.of_problemNamed? hnamed
    by_cases hpid : q.pid = p.pid
    · exact Or.inr (by simp [hpid]; rfl)
    · exact Or.inl ⟨⟨q, hq, hname, hpid⟩, by simp [hpid]; rfl⟩

/-- The last call of an update. -/
theorem replacement_of_checked {setup : Setup} {pid : String} {changes : Document} {s : Store}
    {p : Problem} {draft : Draft} (hp : s.problem? pid = some p)
    (hdraft : Draft.ofDocument (merge p changes) = .ok draft)
    (hgrader : draft.grader ≠ p.grader → checkGrader setup draft.grader = .ok ()) :
    Replacement setup pid changes s (Program.run .none (do
      (Program.call (.replaceProblem (Problem.ofDraft pid draft))).mapFailure
        (takenIfStored draft.name)
      pure (Problem.ofDraft pid draft)) s) := by
  have hstored : s.problem? (Problem.ofDraft pid draft).pid = some p := hp
  rcases replaceProblem_of_stored hstored with ⟨htaken, hcall⟩ | ⟨hname, hcall⟩
  · have hrun := run_mapFailure_call_of_error hcall (takenIfStored draft.name)
      fun _ => .done (.ok (Problem.ofDraft pid draft))
    exact Eq.mpr (congrArg (Replacement setup pid changes s) hrun)
      (.taken hp hdraft hgrader htaken)
  · have hrun := run_mapFailure_call_of_ok hcall (takenIfStored draft.name)
      fun _ => .done (.ok (Problem.ofDraft pid draft))
    exact Eq.mpr (congrArg (Replacement setup pid changes s) hrun)
      (.replaced hp hdraft hgrader hname)

/-- What is stored is found, so the store refuses a replacement for its name only. -/
theorem replacement {s : Store} (hs : s.WellKeyed) (setup : Setup) (pid : String)
    (changes : Document) :
    Replacement setup pid changes s ((update setup pid changes).run .none s) := by
  unfold update
  simp only [bind_eq, lift_eq, pure_eq]
  rcases run_find s pid with ⟨hnone, hrun⟩ | ⟨p, hp, hrun⟩
  · rw [run_bind_of_error hrun]
    exact .missing hnone
  rw [run_bind_of_ok hrun]
  obtain rfl := hs pid p hp
  cases hdraft : Draft.ofDocument (merge p changes) with
  | error e => exact .rejected hp hdraft
  | ok draft =>
    rw [done_ok_bind]
    -- the name is looked up or not, and then the store is asked
    have hend (hgrader : draft.grader ≠ p.grader → checkGrader setup draft.grader = .ok ()) :
        Replacement setup p.pid changes s (Program.run .none
          (if (Problem.ofDraft p.pid draft).name ≠ p.name then
            (checkName (Problem.ofDraft p.pid draft)).bind fun _ => do
              (Program.call (.replaceProblem (Problem.ofDraft p.pid draft))).mapFailure
                (takenIfStored draft.name)
              pure (Problem.ofDraft p.pid draft)
          else do
            (Program.call (.replaceProblem (Problem.ofDraft p.pid draft))).mapFailure
              (takenIfStored draft.name)
            pure (Problem.ofDraft p.pid draft)) s) := by
      split
      · rcases run_checkName (Problem.ofDraft p.pid draft) s with ⟨htaken, hrun⟩ | hrun
        · rw [run_bind_of_error hrun]
          exact .taken hp hdraft hgrader htaken
        · rw [run_bind_of_ok hrun]
          exact replacement_of_checked hp hdraft hgrader
      · exact replacement_of_checked hp hdraft hgrader
    by_cases hne : draft.grader = p.grader
    case pos =>
      rw [if_neg (not_not.2 hne)]
      exact hend fun h => absurd hne h
    rw [if_pos hne]
    cases hgrader : checkGrader setup draft.grader with
    | error e => exact .unregistered hp hdraft hne hgrader
    | ok u => exact hend fun _ => hgrader

/-- **When an update succeeds**: the merged document makes a draft, a grader that changes may be used,
and nobody else has the name. -/
theorem run_update_eq_ok_iff {s s' : Store} (hs : s.WellKeyed) {setup : Setup} {pid : String}
    {changes : Document} {v : Problem} :
    (update setup pid changes).run .none s = (.ok v, s') ↔
      ∃ p draft, s.problem? pid = some p ∧ draft.IsOf (merge p changes) ∧
        (draft.grader ≠ p.grader → checkGrader setup draft.grader = .ok ()) ∧
        (∀ q ∈ s.problems.values, q.name = draft.name → q.pid = pid) ∧
        v = Problem.ofDraft pid draft ∧
        s' = { s with problems := s.problems.insert pid (Problem.ofDraft pid draft) } := by
  have hreplacement := replacement hs setup pid changes
  constructor
  · intro h
    rw [h] at hreplacement
    cases hreplacement with
    | replaced hp hdraft hgrader hname =>
      exact ⟨_, _, hp, Draft.ofDocument_eq_ok_iff.1 hdraft, hgrader, hname, rfl, rfl⟩
  · rintro ⟨p, draft, hp, hdraft, hgrader, hname, rfl, rfl⟩
    -- what is stored and what it makes are the same in all cases
    have hread : ∀ p' r, s.problem? pid = some p' → Draft.ofDocument (merge p' changes) = r →
        p' = p ∧ r = .ok draft := by
      intro p' r hp' hr
      obtain rfl := Option.some.inj (hp.symm.trans hp')
      exact ⟨rfl, hr.symm.trans (Draft.ofDocument_eq_ok_iff.2 hdraft)⟩
    generalize (update setup pid changes).run .none s = out at hreplacement ⊢
    cases hreplacement with
    | missing hnone =>
      rw [hp] at hnone
      cases hnone
    | rejected hp' hrejected => cases (hread _ _ hp' hrejected).2
    | unregistered hp' hdraft' hne hrefused =>
      obtain ⟨rfl, hsame⟩ := hread _ _ hp' hdraft'
      obtain rfl := Except.ok.inj hsame
      rw [hgrader hne] at hrefused
      cases hrefused
    | taken hp' hdraft' _ htaken =>
      obtain ⟨rfl, hsame⟩ := hread _ _ hp' hdraft'
      obtain rfl := Except.ok.inj hsame
      obtain ⟨q, hq, hqname, hqpid⟩ := htaken
      exact absurd (hname q hq hqname) hqpid
    | replaced hp' hdraft' _ _ =>
      obtain ⟨rfl, hsame⟩ := hread _ _ hp' hdraft'
      obtain rfl := Except.ok.inj hsame
      rfl

/-! ## Removals -/

theorem run_remove (s : Store) (pid : String) :
    s.problem? pid = none ∧ (remove pid).run .none s = (.error (.problemNotFound pid), s) ∨
      ∃ p, s.problem? pid = some p ∧
        (remove pid).run .none s = (.ok p, (s.deleteProblem pid).2) := by
  unfold remove
  rw [bind_eq]
  rcases run_find s pid with ⟨hnone, hrun⟩ | ⟨p, hp, hrun⟩
  · rw [run_bind_of_error hrun]
    exact Or.inl ⟨hnone, rfl⟩
  · have hfound : Call.perform (.deleteProblem pid) s = (.ok true, (s.deleteProblem pid).2) := by
      show (Except.ok (s.problems.contains pid), _) = _
      rw [(KeyMap.contains_iff _ _).2 ⟨p, hp⟩]
      rfl
    refine Or.inr ⟨p, hp, ?_⟩
    rw [run_bind_of_ok hrun]
    exact run_bind_of_ok ((run_call _ s).trans hfound) _

/-! ## What can happen to the problems -/

variable (setup : Setup)

/-- A problem comes in.  Its document breaks no rule, and its identifier and its name are new. -/
inductive Enters (m : KeyMap Problem) : KeyMap Problem → Prop where
  | intro {doc : Document} {draft : Draft} (hdraft : draft.IsOf doc)
      (hgrader : checkGrader setup draft.grader = .ok ())
      (hpid : m.get? (Problem.pidOf draft.name) = none)
      (hname : ∀ q ∈ m.values, q.name ≠ draft.name) :
      Enters m (m.insert (Problem.pidOf draft.name) (Problem.create draft))

/-- What an operation can do to the problems: some come in, or one gets new values for some fields,
or one goes. -/
inductive Change (m : KeyMap Problem) : KeyMap Problem → Prop where
  | entered {m' : KeyMap Problem} (h : Relation.ReflTransGen (Enters setup) m m') : Change m m'
  | replaced {pid : String} {p : Problem} {changes : Document} {draft : Draft}
      (hp : m.get? pid = some p) (hdraft : draft.IsOf (merge p changes))
      (hgrader : draft.grader ≠ p.grader → checkGrader setup draft.grader = .ok ())
      (hname : ∀ q ∈ m.values, q.name = draft.name → q.pid = pid) :
      Change m (m.insert pid (Problem.ofDraft pid draft))
  | removed (pid : String) : Change m (m.erase pid)

variable {setup}

theorem Change.refl (m : KeyMap Problem) : Change setup m m := .entered .refl

/-- A property of the problems that nothing breaks which can happen to them is kept by an
operation. -/
theorem Change.preserves {I : KeyMap Problem → Prop}
    (hentered : ∀ m m', Enters setup m m' → I m → I m')
    (hreplaced : ∀ (m : KeyMap Problem) (pid : String) (p : Problem) (changes : Document)
      (draft : Draft), m.get? pid = some p → draft.IsOf (merge p changes) →
      (draft.grader ≠ p.grader → checkGrader setup draft.grader = .ok ()) →
      (∀ q ∈ m.values, q.name = draft.name → q.pid = pid) → I m →
      I (m.insert pid (Problem.ofDraft pid draft)))
    (hremoved : ∀ (m : KeyMap Problem) (pid : String), I m → I (m.erase pid))
    {m m' : KeyMap Problem} (h : Change setup m m') (hm : I m) : I m' := by
  cases h with
  | entered h =>
    induction h with
    | refl => exact hm
    | tail _ henters ih => exact hentered _ _ henters ih
  | replaced hp hdraft hgrader hname => exact hreplaced _ _ _ _ _ hp hdraft hgrader hname hm
  | removed pid => exact hremoved _ pid hm

/-- The problems of one store have become those of another by some that have come in. -/
def Entered (setup : Setup) (s s' : Store) : Prop :=
  Relation.ReflTransGen (Enters setup) s.problems s'.problems

/-- What comes in by two programs one after the other. -/
theorem entered_bind {α β : Type} {p : Program α} {f : α → Program β} {s : Store}
    (hp : Entered setup s (p.run .none s).2) (hf : ∀ a t, Entered setup t ((f a).run .none t).2) :
    Entered setup s ((p.bind f).run .none s).2 :=
  snd_run_bind (R := Entered setup) Relation.ReflTransGen.trans hp hf

theorem entered_insert (setup : Setup) (doc : Document) (s : Store) :
    Entered setup s ((insert setup doc).run .none s).2 := by
  have hinsertion := insertion setup doc s
  generalize (insert setup doc).run .none s = out at hinsertion ⊢
  cases hinsertion with
  | stored hdraft hgrader hpid hname =>
    exact .single (.intro (Draft.ofDocument_eq_ok_iff.1 hdraft) hgrader hpid hname)
  | _ => exact .refl

/-- Items come in one after another.  The induction is on the items. -/
theorem entered_insertAll (setup : Setup) (items : List Json) (s : Store) :
    Entered setup s ((insertAll setup items).run .none s).2 := by
  induction items generalizing s with
  | nil => exact .refl
  | cons item r ih =>
    unfold insertAll
    split
    · exact .refl
    · refine entered_bind (entered_insert setup _ s) fun pid s' => ?_
      exact entered_bind (ih s') fun pids s'' => .refl

theorem entered_importText (setup : Setup) (text : String) (s : Store) :
    Entered setup s ((importText setup text).run .none s).2 := by
  unfold importText
  split
  · exact .refl
  · exact entered_bind (entered_insertAll setup _ s) fun pids s' => .refl
  · split
    · exact .refl
    · exact entered_bind (entered_insert setup _ s) fun pid s' => .refl

theorem change_update {s : Store} (hs : s.WellKeyed) (setup : Setup) (pid : String)
    (changes : Document) :
    Change setup s.problems ((update setup pid changes).run .none s).2.problems := by
  have hreplacement := replacement hs setup pid changes
  generalize (update setup pid changes).run .none s = out at hreplacement ⊢
  cases hreplacement with
  | replaced hp hdraft hgrader hname =>
    exact .replaced hp (Draft.ofDocument_eq_ok_iff.1 hdraft) hgrader hname
  | _ => exact .refl _

theorem change_remove (setup : Setup) (pid : String) (s : Store) :
    Change setup s.problems ((remove pid).run .none s).2.problems := by
  rcases run_remove s pid with ⟨-, hrun⟩ | ⟨p, -, hrun⟩
  · rw [hrun]
    exact .refl _
  · rw [hrun]
    exact .removed pid

end Lifecycle

namespace Operation

/-- The operation is about the life of a problem. -/
def EditsProblems : Operation → Prop
  | .insert _ | .importText _ | .update _ _ | .setDisabled _ _ | .remove _ => True
  | _ => False

/-- Only such an operation may change the problems. -/
theorem editsProblems_of_makes {setup : Setup} {o : Operation} {c : Call}
    (hc : o.Makes setup c) (hw : c.WritesProblems) : o.EditsProblems := by
  cases c with
  | insertProblem p =>
    obtain ⟨⟨doc, rfl⟩ | ⟨text, rfl⟩, -⟩ := hc <;> exact trivial
  | replaceProblem p =>
    obtain ⟨⟨pid, changes, rfl⟩ | ⟨pid, disabled, rfl⟩, -⟩ := hc <;> exact trivial
  | deleteProblem pid =>
    change o = .remove pid at hc
    rw [hc]
    exact trivial
  | _ => exact hw.elim

theorem problems_program {o : Operation} (ho : ¬o.EditsProblems) (setup : Setup) (s : Store) :
    ((o.program setup).run .none s).2.problems = s.problems := by
  refine run_preserves (I := fun t => t.problems = s.problems) (fun c t hc ht => ?_) .none
    (o.calls_program setup) rfl
  rw [Call.problems_perform (fun hw => ho (editsProblems_of_makes hc hw)) t]
  exact ht

/-- **What an operation can do to the problems**: nothing, or what belongs to the life of a problem.
It runs alone, on a store in which every problem lies under its own identifier. -/
theorem change_program {s : Store} (hs : s.WellKeyed) (setup : Setup) (o : Operation) :
    Lifecycle.Change setup s.problems ((o.program setup).run .none s).2.problems := by
  by_cases ho : o.EditsProblems
  · cases o with
    | insert doc => exact .entered (Lifecycle.entered_insert setup doc s)
    | importText text => exact .entered (Lifecycle.entered_importText setup text s)
    | update pid changes => exact Lifecycle.change_update hs setup pid changes
    | setDisabled pid disabled => exact Lifecycle.change_update hs setup pid _
    | remove pid => exact Lifecycle.change_remove setup pid s
    | _ => exact ho.elim
  · rw [problems_program ho]
    exact .refl _

end Operation

end CaptureTheFlag
