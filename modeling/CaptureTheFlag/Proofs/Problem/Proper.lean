import CaptureTheFlag.Proofs.Problem.Lifecycle

/-!
# Stored problems are proper and keep their identifiers

Every stored problem has a name to show, no negative points and no negative threshold, and weights
by identifiers.  It lies under its own identifier, and no other has its name.  Its identifier is
that of the name under which it came in, whatever it is called by now.

* `Problem.IsProper`: a problem is as the rules on documents want it.
* `ProperProblems`: all are, each lies under its own identifier, and no two have one name.
* `ProperProblems.of_change`: no operation breaks this.
* `Store.ServedWith`: the stores that operations lead to one after another, with the names under
  which their problems came in.
* `properProblems_of_served`: what holds of them.

## Names that are gone

The store forgets the name under which a problem came in as soon as the problem gets another one.
So these names are kept beside the store (`Store.namesAfter`): a problem that was not there before
an operation has the name that it has behind it, and any other has the name that it had.  No
operation looks at these names, and they are there for every store that operations lead to.
-/

namespace CaptureTheFlag

/-! ## Proper problems -/

/-- The problem is as the rules on documents want it, with weights by identifiers. -/
structure Problem.IsProper (p : Problem) : Prop where
  trim_name_ne : Text.trim p.name ≠ ""
  score_nonneg : 0 ≤ p.score
  threshold_nonneg : 0 ≤ p.threshold
  isPid_of_mem : ∀ pid ∈ p.weightmap.keys, Problem.IsPid pid

theorem Schema.nonneg_of_has {d : Document} {field : String} {n : Int64}
    (h : Has d field nonNegative? n) : 0 ≤ n := by
  obtain ⟨v, -, hv⟩ := h
  exact of_decide_eq_true (Option.filter_eq_some_iff.1 hv).2

/-- A document that breaks no rule makes a proper problem. -/
theorem Draft.IsOf.isProper_create {doc : Document} {draft : Draft} (h : draft.IsOf doc) :
    (Problem.create draft).IsProper where
  trim_name_ne := h.trim_name_ne
  score_nonneg := Schema.nonneg_of_has h.score
  threshold_nonneg := Schema.nonneg_of_has h.threshold
  isPid_of_mem _ hpid := Problem.isPid_of_mem_rekey hpid

/-- A proper problem stays proper when it gets new values for some fields. -/
theorem Draft.IsOf.isProper_ofDraft {p : Problem} {changes : Document} {draft : Draft}
    (h : draft.IsOf (Lifecycle.merge p changes)) (hp : p.IsProper) (pid : String) :
    (Problem.ofDraft pid draft).IsProper where
  trim_name_ne := h.trim_name_ne
  score_nonneg := Schema.nonneg_of_has h.score
  threshold_nonneg := Schema.nonneg_of_has h.threshold
  isPid_of_mem pid' hpid' := by
    change pid' ∈ (draft.weightmap.getD .empty).keys at hpid'
    cases hw : draft.weightmap with
    | none =>
      rw [hw] at hpid'
      cases hpid'
    | some w =>
      rw [hw] at hpid'
      exact h.isPid_of_merge hp.isPid_of_mem hw hpid'

/-! ## All problems -/

/-- Every problem lies under its own identifier, no two have one name, and all are proper. -/
structure ProperProblems (m : KeyMap Problem) : Prop where
  pid_eq : ∀ pid p, m.get? pid = some p → p.pid = pid
  eq_of_name_eq : ∀ pid pid' p p', m.get? pid = some p → m.get? pid' = some p' →
    p.name = p'.name → pid = pid'
  proper : ∀ pid p, m.get? pid = some p → p.IsProper

namespace ProperProblems

variable {m m' : KeyMap Problem}

theorem empty : ProperProblems .empty where
  pid_eq _ _ h := by cases h
  eq_of_name_eq _ _ _ _ h := by cases h
  proper _ _ h := by cases h

/-- A proper problem is put where it belongs, and no problem in another place has its name. -/
theorem insert (hm : ProperProblems m) {p : Problem} (hp : p.IsProper)
    (hname : ∀ q ∈ m.values, q.name = p.name → q.pid = p.pid) :
    ProperProblems (m.insert p.pid p) := by
  have hget : ∀ pid q, (m.insert p.pid p).get? pid = some q →
      pid = p.pid ∧ q = p ∨ m.get? pid = some q := by
    intro pid q hq
    rw [KeyMap.get?_insert] at hq
    by_cases hpid : pid = p.pid
    · rw [if_pos hpid] at hq
      exact Or.inl ⟨hpid, (Option.some.inj hq).symm⟩
    · rw [if_neg hpid] at hq
      exact Or.inr hq
  -- what is there already under the name is the problem's predecessor
  have hold : ∀ pid q, m.get? pid = some q → q.name = p.name → pid = p.pid := by
    intro pid q hq hsame
    rw [← hname q ((m.mem_values_iff q).2 ⟨pid, hq⟩) hsame, hm.pid_eq pid q hq]
  refine ⟨fun pid q hq => ?_, fun pid pid' q q' hq hq' hsame => ?_, fun pid q hq => ?_⟩
  · rcases hget pid q hq with ⟨rfl, rfl⟩ | hq
    · rfl
    · exact hm.pid_eq pid q hq
  · rcases hget pid q hq with ⟨rfl, rfl⟩ | hm₁ <;> rcases hget pid' q' hq' with ⟨rfl, rfl⟩ | hm₂
    · rfl
    · exact (hold pid' q' hm₂ hsame.symm).symm
    · exact hold pid q hm₁ hsame
    · exact hm.eq_of_name_eq pid pid' q q' hm₁ hm₂ hsame
  · rcases hget pid q hq with ⟨rfl, rfl⟩ | hq
    · exact hp
    · exact hm.proper pid q hq

theorem erase (hm : ProperProblems m) (pid : String) : ProperProblems (m.erase pid) := by
  have hget : ∀ pid' q, (m.erase pid).get? pid' = some q → m.get? pid' = some q := by
    intro pid' q hq
    rw [KeyMap.get?_erase] at hq
    split at hq
    · cases hq
    · exact hq
  exact ⟨fun pid' q hq => hm.pid_eq pid' q (hget pid' q hq),
    fun _ _ _ _ hq hq' => hm.eq_of_name_eq _ _ _ _ (hget _ _ hq) (hget _ _ hq'),
    fun pid' q hq => hm.proper pid' q (hget pid' q hq)⟩

/-- **No operation breaks what holds of the problems.** -/
theorem of_change {setup : Setup} (h : Lifecycle.Change setup m m') (hm : ProperProblems m) :
    ProperProblems m' := by
  refine h.preserves (fun m m' henters hm => ?_)
    (fun m pid p changes draft hp hdraft _ hname hm => ?_) (fun m pid hm => hm.erase pid) hm
  · cases henters with
    | @intro doc draft hdraft _ _ hname =>
      exact hm.insert hdraft.isProper_create fun q hq hsame => absurd hsame (hname q hq)
  · have hproper := hdraft.isProper_ofDraft (hm.proper pid p hp) pid
    exact hm.insert hproper hname

end ProperProblems

/-! ## The names that problems come in under -/

/-- A problem that an operation brings in has the identifier of its name. -/
theorem Lifecycle.Change.pid_of_new {setup : Setup} {m m' : KeyMap Problem}
    (h : Change setup m m') {pid : String} {p : Problem} (hnew : m.get? pid = none)
    (hp : m'.get? pid = some p) : pid = Problem.pidOf p.name := by
  cases h with
  | entered h =>
    have hentered : m.get? pid = some p ∨ pid = Problem.pidOf p.name := by
      induction h with
      | refl => exact Or.inl hp
      | tail _ henters ih =>
        cases henters with
        | @intro doc draft _ _ _ _ =>
          rw [KeyMap.get?_insert] at hp
          by_cases hpid : pid = Problem.pidOf draft.name
          · rw [if_pos hpid] at hp
            rw [← Option.some.inj hp]
            exact Or.inr hpid
          · rw [if_neg hpid] at hp
            exact ih hp
    rcases hentered with hstored | hpid
    · rw [hnew] at hstored
      cases hstored
    · exact hpid
  | @replaced pid' p' changes draft hp' _ _ _ =>
    rw [KeyMap.get?_insert] at hp
    by_cases hpid : pid = pid'
    · rw [← hpid, hnew] at hp'
      cases hp'
    · rw [if_neg hpid, hnew] at hp
      cases hp
  | removed pid' =>
    rw [KeyMap.get?_erase, hnew, ite_self] at hp
    cases hp

namespace Store

/-- The names under which problems came in, after an operation has led from one store to another. -/
def namesAfter (names : String → Option String) (s s' : Store) (pid : String) : Option String :=
  match s.problem? pid, s'.problem? pid with
  | _, none => none
  | none, some p => some p.name
  | some _, some _ => names pid

/-- The stores that operations lead to one after another, each with the names under which its
problems came in. -/
inductive ServedWith : (String → Option String) → Store → Prop where
  | empty : ServedWith (fun _ => none) .empty
  | addUser {names : String → Option String} {s : Store} (u : User) (hs : ServedWith names s) :
      ServedWith names (s.addUser u)
  | operation {names : String → Option String} {s : Store} (setup : Setup) (o : Operation)
      (hs : ServedWith names s) :
      ServedWith (namesAfter names s ((o.program setup).run .none s).2)
        ((o.program setup).run .none s).2

/-- The names can be kept whatever is done. -/
theorem Served.exists_names {s : Store} (hs : s.Served) : ∃ names, s.ServedWith names := by
  induction hs with
  | empty => exact ⟨_, .empty⟩
  | addUser u _ ih =>
    obtain ⟨names, h⟩ := ih
    exact ⟨_, h.addUser u⟩
  | operation setup o _ ih =>
    obtain ⟨names, h⟩ := ih
    exact ⟨_, h.operation setup o⟩

theorem ServedWith.properProblems {names : String → Option String} {s : Store}
    (hs : s.ServedWith names) : ProperProblems s.problems := by
  induction hs with
  | empty => exact .empty
  | addUser u _ ih => exact ih
  | operation setup o _ ih => exact ih.of_change (o.change_program ih.pid_eq setup)

theorem ServedWith.pid_eq {names : String → Option String} {s : Store} (hs : s.ServedWith names)
    {pid : String} {p : Problem} (hp : s.problem? pid = some p) :
    ∃ name, names pid = some name ∧ pid = Problem.pidOf name := by
  induction hs generalizing p with
  | empty => cases hp
  | addUser u _ ih => exact ih hp
  | @operation names s setup o hs ih =>
    unfold namesAfter
    rw [hp]
    cases hbefore : s.problem? pid with
    | none =>
      have hchange := o.change_program hs.properProblems.pid_eq setup
      exact ⟨p.name, rfl, hchange.pid_of_new hbefore hp⟩
    | some q => exact ih hbefore

end Store

/-- **Stored problems are proper and keep their identifiers**: in every store that operations lead
to one after another, whether they succeed or fail, every problem lies under its own identifier, no
two problems have one name, and all are proper.  The identifier of each is that of the name under
which it came in. -/
theorem properProblems_of_served :
    (∀ s : Store, s.Served → ∃ names, s.ServedWith names) ∧
      ∀ (names : String → Option String) (s : Store), s.ServedWith names →
        ProperProblems s.problems ∧
          ∀ pid p, s.problem? pid = some p →
            ∃ name, names pid = some name ∧ pid = Problem.pidOf name :=
  ⟨fun _ hs => hs.exists_names, fun _ _ hs => ⟨hs.properProblems, fun _ _ hp => hs.pid_eq hp⟩⟩

/-- A problem gets another name and weights by names.  Its identifier is still that of its first
name, and the weights are by identifiers. -/
theorem properProblems_of_renamed :
    let changes : Document := KeyMap.ofList [
      ("name", .string "Start"),
      ("weightmap", .ofFields [("Warmup", .integer 3)])]
    let pid := Problem.pidOf "Warmup"
    let s := ((Operation.update pid changes).program Sample.setup |>.run .none Sample.store).2
    (s.Served ∧ ∃ names, s.ServedWith names) ∧
      (∃ names, s.ServedWith names ∧ ProperProblems s.problems ∧
        (∃ name, names pid = some name ∧ pid = Problem.pidOf name) ∧ names pid = some "Warmup") ∧
      (s.problem? pid).map (fun p => (p.name, p.weightmap.keys)) = some ("Start", [pid]) := by
  intro changes pid s
  have hserved : s.Served := Sample.served_store.operation Sample.setup (.update pid changes)
  have hnames := Store.ServedWith.operation Sample.setup (.update pid changes)
    (.operation Sample.setup (.insert Sample.document) (.addUser Sample.user .empty))
  obtain ⟨hproper, hpid⟩ := properProblems_of_served.2 _ s hnames
  have hstored : (s.problem? pid).map (fun p => (p.name, p.weightmap.keys)) =
      some ("Start", [pid]) := by decide +kernel
  obtain ⟨p, hp, -⟩ := Option.map_eq_some_iff.1 hstored
  exact ⟨⟨hserved, properProblems_of_served.1 s hserved⟩,
    ⟨_, hnames, hproper, hpid pid p hp, by decide +kernel⟩, hstored⟩

end CaptureTheFlag
