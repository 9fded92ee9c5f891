import CaptureTheFlag.Proofs.Problem.Proper

/-!
# Stored problems have registered graders

Where graders are checked, no problem is ever stored without a registered one, and so the integrity
of the problems is never reported to suffer from a grader that is missing.

* `Store.ServedUnder`: the stores that operations lead to one after another, all under one setup.
* `Registry.Grades`: every problem has a registered grader.
* `Registry.Grades.of_change`: no operation breaks this.
* `Lifecycle.exists_missingGrader_mem_issues_iff`: when a problem is reported for its grader.
* `graded_of_servedUnder`: together.

## Why an update may leave out the check

An update checks the grader only if it changes.  If it stays, what it has to be is what it was, so
the step from one store to the next is sound only where the grader was registered already.  The check
at an insertion starts this off, and the registry stays the same throughout.  Under another registry,
or where a problem was stored while graders were not checked, an update would keep a grader that is
not registered.  This is why all operations here are under one setup.
-/

namespace CaptureTheFlag

open Program

/-! ## Operations under one setup -/

/-- The stores that operations lead to, one after another, from the empty store and under one setup.
The operations may fail, and users are added from outside. -/
inductive Store.ServedUnder (setup : Setup) : Store → Prop where
  | empty : ServedUnder setup .empty
  | addUser {s : Store} (u : User) (hs : ServedUnder setup s) : ServedUnder setup (s.addUser u)
  | operation {s : Store} (o : Operation) (hs : ServedUnder setup s) :
      ServedUnder setup ((o.program setup).run .none s).2

theorem Store.ServedUnder.served {setup : Setup} {s : Store} (hs : s.ServedUnder setup) :
    s.Served := by
  induction hs with
  | empty => exact .empty
  | addUser u _ ih => exact ih.addUser u
  | operation o _ ih => exact ih.operation setup o

/-! ## Registered graders -/

/-- What passes the check is registered, where graders are checked. -/
theorem Lifecycle.contains_of_checkGrader {setup : Setup} (hcheck : setup.checkGraders = true)
    {grader : String} (h : checkGrader setup grader = .ok ()) :
    setup.registry.contains grader = true := by
  unfold checkGrader at h
  split at h
  · cases h
  · next hpassed =>
    rw [hcheck, Bool.true_and, Bool.not_eq_true', Bool.not_eq_false] at hpassed
    exact hpassed

/-- Every problem has a registered grader. -/
def Registry.Grades (r : Registry) (m : KeyMap Problem) : Prop :=
  ∀ pid p, m.get? pid = some p → r.contains p.grader = true

namespace Registry.Grades

variable {r : Registry} {m m' : KeyMap Problem}

theorem empty : r.Grades .empty := by
  intro pid p hp
  cases hp

theorem insert (hm : r.Grades m) (pid : String) {p : Problem} (hp : r.contains p.grader = true) :
    r.Grades (m.insert pid p) := by
  intro pid' q hq
  rw [KeyMap.get?_insert] at hq
  by_cases hpid : pid' = pid
  · rw [if_pos hpid] at hq
    obtain rfl := Option.some.inj hq
    exact hp
  · rw [if_neg hpid] at hq
    exact hm pid' q hq

theorem erase (hm : r.Grades m) (pid : String) : r.Grades (m.erase pid) := by
  intro pid' q hq
  rw [KeyMap.get?_erase] at hq
  split at hq
  · cases hq
  · exact hm pid' q hq

/-- **No operation leaves a problem without a registered grader.**  A new problem passes the check.
A problem that gets another grader passes it too, and one that keeps its grader has a registered one
already. -/
theorem of_change {setup : Setup} (hcheck : setup.checkGraders = true)
    (h : Lifecycle.Change setup m m') (hm : setup.registry.Grades m) :
    setup.registry.Grades m' := by
  refine h.preserves (fun m m' henters hm => ?_)
    (fun m pid p changes draft hp _ hgrader _ hm => ?_) (fun m pid hm => hm.erase pid) hm
  · cases henters with
    | @intro doc draft _ hgrader _ _ =>
      have hregistered : setup.registry.contains draft.grader = true :=
        Lifecycle.contains_of_checkGrader hcheck hgrader
      exact hm.insert _ hregistered
  · refine hm.insert pid ?_
    show setup.registry.contains draft.grader = true
    by_cases hsame : draft.grader = p.grader
    · rw [hsame]
      exact hm pid p hp
    · exact Lifecycle.contains_of_checkGrader hcheck (hgrader hsame)

end Registry.Grades

theorem Store.ServedUnder.grades {setup : Setup} (hcheck : setup.checkGraders = true) {s : Store}
    (hs : s.ServedUnder setup) : setup.registry.Grades s.problems := by
  induction hs with
  | empty => exact .empty
  | addUser u _ ih => exact ih
  | operation o hs ih =>
    exact ih.of_change hcheck (o.change_program hs.served.reachable.wellKeyed setup)

/-! ## The report on the integrity of problems -/

namespace Lifecycle

/-- The line on a problem whose grader is not registered. -/
def missingGrader (name grader : String) : String :=
  name ++ ": Missing grader '" ++ grader ++ "'."

/-- A line on a weight differs from every line on a grader.  Names and identifiers may hold anything,
so the two are told apart by how they end. -/
theorem missingGrader_ne_dangling (name grader name' pid : String) :
    missingGrader name grader ≠
      name' ++ ": Has weightmap entry '" ++ pid ++ "' which does not exist." := by
  intro h
  have hends := congrArg (fun line => (line.toList.reverse.take 2)) h
  simp [missingGrader, String.toList_append, List.reverse_append] at hends

/-- A problem is reported for its grader exactly if the grader is not registered. -/
theorem exists_missingGrader_mem_issues_iff (setup : Setup) (pids : TextSet) (p : Problem) :
    (∃ name grader, missingGrader name grader ∈ issues setup pids p) ↔
      setup.registry.contains p.grader = false := by
  unfold issues
  constructor
  · rintro ⟨name, grader, hline⟩
    by_contra hregistered
    rw [if_pos (eq_true_of_ne_false hregistered), List.nil_append, List.mem_map] at hline
    obtain ⟨pid, -, hline⟩ := hline
    exact missingGrader_ne_dangling name grader p.name pid hline.symm
  · intro hmissing
    refine ⟨p.name, p.grader, List.mem_append_left _ ?_⟩
    rw [hmissing, if_neg Bool.false_ne_true]
    exact List.mem_singleton.2 rfl

theorem run_integrity (setup : Setup) (s : Store) :
    (integrity setup).run .none s =
      (.ok ((s.problemsWhere {}).flatMap
        (issues setup (TextSet.ofList ((s.problemsWhere {}).map (·.pid))))), s) := by
  unfold integrity
  rw [bind_eq, run_bind_of_ok (run_call (.listProblems {}) s)]
  rfl

end Lifecycle

/-- **Where graders are checked, no problem ever loses its grader.**  For every registry, and in
every store that operations lead to from the empty one while graders are checked, every stored
problem has a registered grader.  The report on the integrity of the problems comes out, and none of
its lines is about a grader that is missing. -/
theorem graded_of_servedUnder {setup : Setup} (hcheck : setup.checkGraders = true) {s : Store}
    (hs : s.ServedUnder setup) :
    (∀ p ∈ s.problems.values, setup.registry.contains p.grader = true) ∧
      ∃ lines, (Lifecycle.integrity setup).run .none s = (.ok lines, s) ∧
        ∀ name grader, Lifecycle.missingGrader name grader ∉ lines := by
  have hgrades : ∀ p ∈ s.problems.values, setup.registry.contains p.grader = true := by
    intro p hp
    obtain ⟨pid, hpid⟩ := (s.problems.mem_values_iff p).1 hp
    exact hs.grades hcheck pid p hpid
  refine ⟨hgrades, _, Lifecycle.run_integrity setup s, fun name grader hline => ?_⟩
  obtain ⟨p, hp, hissue⟩ := List.mem_flatMap.1 hline
  have hmissing := (Lifecycle.exists_missingGrader_mem_issues_iff setup _ p).1
    ⟨name, grader, hissue⟩
  rw [hgrades p ((s.mem_problemsWhere {} p).1 hp).1] at hmissing
  cases hmissing

namespace Sample

/-- A problem is inserted.  Its grader is to become one that is not registered, and then none, and
both are refused.  Then its description changes, and its grader is not checked again. -/
def keptStore : Store :=
  let insert (s : Store) : Store := ((Operation.insert document).program setup |>.run .none s).2
  let update (field : String) (value : Json) (s : Store) : Store :=
    ((Operation.update (Problem.pidOf "Warmup") (KeyMap.empty.insert field value)).program setup
      |>.run .none s).2
  Store.empty |> insert |> update "grader" (.string "nobody") |> update "grader" .null
    |> update "description" (.string "Look around once more.")

theorem servedUnder_keptStore : keptStore.ServedUnder setup :=
  .operation _ (.operation _ (.operation _ (.operation _ .empty)))

end Sample

/-- The grader stays what it was at the insertion, and nothing is reported. -/
theorem graded_of_refused_graders :
    (Sample.setup.checkGraders = true ∧ Sample.keptStore.ServedUnder Sample.setup) ∧
      ((∀ p ∈ Sample.keptStore.problems.values,
          Sample.setup.registry.contains p.grader = true) ∧
        ∃ lines, (Lifecycle.integrity Sample.setup).run .none Sample.keptStore =
            (.ok lines, Sample.keptStore) ∧
          ∀ name grader, Lifecycle.missingGrader name grader ∉ lines) ∧
      Sample.keptStore.problems.values.map (fun p => (p.grader, p.description)) =
        [("hidden", "Look around once more.")] :=
  ⟨⟨rfl, Sample.servedUnder_keptStore⟩,
    graded_of_servedUnder rfl Sample.servedUnder_keptStore, by decide +kernel⟩

end CaptureTheFlag
