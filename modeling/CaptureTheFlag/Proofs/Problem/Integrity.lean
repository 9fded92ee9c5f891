import CaptureTheFlag.Proofs.Problem.Graded
import CaptureTheFlag.Proofs.Team.Locality

/-!
# The report on the integrity of problems is sound and complete

A stored problem refers to its grader, and to the problems that it has weights for.  The report has
a line for each of these references that is in vain, and no other lines.

* `Reference`: what a problem refers to; `Reference.IsInVain`: it is not there.
* `Store.isListing_references`: all references of all stored problems, in the order of the report.
* `Lifecycle.isListing_integrity`: the report lists those that are in vain.
* `Store.mem_references_without_and_isInVain_iff`: what changes when a problem is removed.
* `integrity_of_reachable`: together.

## One order for two walks

The report is made by a walk through the problems, and by one through the weights of each.  The two
make one strict order of references: by their problems, as problems are listed, then the grader
before all weights, then the weights by the identifiers that they are for.  So the report is a
listing like those of problems, and what it has is said by membership alone.  Its lines are not
compared with one another: names may hold anything, and two problems may have lines that read the
same.
-/

namespace CaptureTheFlag

open Program

/-! ## References -/

/-- What a problem refers to: its grader, and a problem that it has a weight for. -/
inductive Reference where
  | grader (p : Problem)
  | weight (p : Problem) (pid : String)

namespace Reference

/-- The problem that refers. -/
def problem : Reference → Problem
  | .grader p | .weight p _ => p

/-- The line of the report. -/
def line : Reference → String
  | .grader p => p.name ++ ": Missing grader '" ++ p.grader ++ "'."
  | .weight p pid => p.name ++ ": Has weightmap entry '" ++ pid ++ "' which does not exist."

/-- What is referred to is not there: the grader is not registered, or no stored problem has the
identifier. -/
def IsInVain (setup : Setup) (s : Store) : Reference → Prop
  | .grader p => setup.registry.contains p.grader = false
  | .weight _ pid => ∀ q ∈ s.problems.values, q.pid ≠ pid

instance (setup : Setup) (s : Store) (r : Reference) : Decidable (r.IsInVain setup s) :=
  match r with
  | .grader _ => inferInstanceAs (Decidable (_ = false))
  | .weight _ pid => inferInstanceAs (Decidable (∀ q ∈ s.problems.values, q.pid ≠ pid))

/-- The order of the report. -/
inductive Precedes : Reference → Reference → Prop where
  | problem {r r' : Reference} (h : r.problem.Precedes r'.problem) : Precedes r r'
  | grader (p : Problem) (pid : String) : Precedes (.grader p) (.weight p pid)
  | weight (p : Problem) {pid pid' : String} (h : pid < pid') :
      Precedes (.weight p pid) (.weight p pid')

theorem not_precedes_self (p : Problem) : ¬p.Precedes p := fun h => Std.Asymm.asymm p p h h

instance : Std.Asymm Precedes where
  asymm r r' h h' := by
    cases h with
    | problem h =>
      cases h' with
      | problem h' => exact Std.Asymm.asymm _ _ h h'
      | grader p pid => exact not_precedes_self p h
      | weight p _ => exact not_precedes_self p h
    | grader p pid =>
      cases h' with
      | problem h' => exact not_precedes_self p h'
    | weight p hlt =>
      cases h' with
      | problem h' => exact not_precedes_self p h'
      | weight _ hlt' => exact String.lt_irrefl _ (String.lt_trans hlt hlt')

end Reference

/-! ## Listing references -/

/-- What a problem refers to, its grader first and then by its weights. -/
def Problem.references (p : Problem) : List Reference :=
  .grader p :: p.weightmap.keys.map (.weight p)

namespace Problem

theorem mem_references_iff {p : Problem} {r : Reference} : r ∈ p.references ↔
    r = .grader p ∨ ∃ pid ∈ p.weightmap.keys, r = .weight p pid := by
  unfold references
  rw [List.mem_cons, List.mem_map]
  simp only [eq_comm]

theorem problem_of_mem_references {p : Problem} {r : Reference} (h : r ∈ p.references) :
    r.problem = p := by
  rcases mem_references_iff.1 h with rfl | ⟨pid, -, rfl⟩ <;> rfl

theorem weight_mem_references_iff {p : Problem} {pid : String} :
    .weight p pid ∈ p.references ↔ pid ∈ p.weightmap.keys := by
  rw [mem_references_iff]
  constructor
  · rintro (h | ⟨pid', hpid, h⟩)
    · cases h
    · rwa [(Reference.weight.inj h).2]
  · exact fun h => Or.inr ⟨pid, h, rfl⟩

theorem pairwise_references (p : Problem) : p.references.Pairwise Reference.Precedes := by
  have hweights : (p.weightmap.keys.map (Reference.weight p)).Pairwise Reference.Precedes :=
    List.pairwise_map.2 (p.weightmap.keys_ascending.imp fun hlt => .weight p hlt)
  refine List.pairwise_cons.2 ⟨fun r hr => ?_, hweights⟩
  obtain ⟨pid, -, rfl⟩ := List.mem_map.1 hr
  exact .grader p pid

end Problem

namespace Store

/-- What the stored problems refer to. -/
def references (s : Store) : List Reference := s.problems.values.flatMap Problem.references

theorem mem_references_iff {s : Store} {r : Reference} :
    r ∈ s.references ↔ r.problem ∈ s.problems.values ∧ r ∈ r.problem.references := by
  unfold references
  rw [List.mem_flatMap]
  constructor
  · rintro ⟨p, hp, hr⟩
    rw [Problem.problem_of_mem_references hr]
    exact ⟨hp, hr⟩
  · rintro ⟨hp, hr⟩
    exact ⟨_, hp, hr⟩

/-- Nothing is in vain exactly if all graders are registered, and all problems that have weights are
stored. -/
theorem forall_not_isInVain_iff {s : Store} {setup : Setup} :
    (∀ r, ¬(r ∈ s.references ∧ r.IsInVain setup s)) ↔ ∀ p ∈ s.problems.values,
      setup.registry.contains p.grader = true ∧
        ∀ pid ∈ p.weightmap.keys, ∃ q ∈ s.problems.values, q.pid = pid := by
  constructor
  · intro h p hp
    refine ⟨?_, fun pid hpid => ?_⟩
    · by_contra hgrader
      exact h (.grader p)
        ⟨mem_references_iff.2 ⟨hp, List.mem_cons_self⟩, eq_false_of_ne_true hgrader⟩
    · by_contra hnone
      exact h (.weight p pid)
        ⟨mem_references_iff.2 ⟨hp, Problem.weight_mem_references_iff.2 hpid⟩,
          fun q hq hsame => hnone ⟨q, hq, hsame⟩⟩
  · rintro h r ⟨hr, hvain⟩
    obtain ⟨hp, hr⟩ := mem_references_iff.1 hr
    obtain ⟨hgrader, hweights⟩ := h _ hp
    cases r with
    | grader p => exact Bool.false_ne_true (hvain.symm.trans hgrader)
    | weight p pid =>
      obtain ⟨q, hq, hpid⟩ := hweights pid (Problem.weight_mem_references_iff.1 hr)
      exact hvain q hq hpid

/-- **The references are listed by two walks**, one through the problems and one through each. -/
theorem isListing_references {s : Store} (hs : s.HasReadableProblems) :
    IsListing Reference.Precedes s.references (fun _ => True)
      ((s.problemsWhere {}).flatMap Problem.references) := by
  have hproblems := isListing_problemsWhere hs {}
  have hinOrder : ((s.problemsWhere {}).flatMap Problem.references).Pairwise
      Reference.Precedes := by
    refine List.pairwise_flatMap.2 ⟨fun p _ => p.pairwise_references, ?_⟩
    refine hproblems.inOrder.imp fun {p q} hpq r hr r' hr' => .problem ?_
    rw [Problem.problem_of_mem_references hr, Problem.problem_of_mem_references hr']
    exact hpq
  refine ⟨fun r => ?_, hinOrder.imp fun {r r'} h => ?_, hinOrder⟩
  · unfold references
    simp only [List.mem_flatMap, hproblems.mem_iff, and_true]
    exact exists_congr fun p => and_congr_left fun _ => and_iff_left rfl
  · rintro rfl
    exact Std.Asymm.asymm r r h h

end Store

/-! ## The report -/

namespace Lifecycle

/-- The set of all identifiers has no identifier that is referred to in vain. -/
theorem contains_pids_iff (s : Store) (pid : String) :
    (TextSet.ofList ((s.problemsWhere {}).map (·.pid))).contains pid = true ↔
      ¬∀ q ∈ s.problems.values, q.pid ≠ pid := by
  rw [TextSet.contains_ofList, decide_eq_true_eq, List.mem_map]
  simp only [s.mem_problemsWhere]
  constructor
  · rintro ⟨q, ⟨hq, -⟩, hpid⟩ h
    exact h q hq hpid
  · intro h
    by_contra hnone
    exact h fun q hq hpid => hnone ⟨q, ⟨hq, rfl⟩, hpid⟩

/-- The lines on a problem are those of its references that are in vain. -/
theorem issues_eq_map_line (setup : Setup) (s : Store) (p : Problem) :
    issues setup (TextSet.ofList ((s.problemsWhere {}).map (·.pid))) p =
      (p.references.filter fun r => r.IsInVain setup s).map Reference.line := by
  unfold issues Problem.references
  have hweights : p.weightmap.keys.filter (fun pid =>
        !(TextSet.ofList ((s.problemsWhere {}).map (·.pid))).contains pid) =
      p.weightmap.keys.filter fun pid => (Reference.weight p pid).IsInVain setup s := by
    refine List.filter_congr fun pid _ => Bool.eq_iff_iff.2 ?_
    rw [Bool.not_eq_true', ← Bool.not_eq_true, contains_pids_iff, not_not, decide_eq_true_eq]
    rfl
  rw [hweights, List.filter_cons, List.filter_map]
  by_cases hgrader : setup.registry.contains p.grader = true
  · rw [if_pos hgrader, if_neg]
    · rw [List.nil_append, List.map_map]
      rfl
    · rw [decide_eq_true_eq]
      exact fun h => Bool.false_ne_true (h.symm.trans hgrader)
  · rw [if_neg hgrader, if_pos]
    · rw [List.map_cons, List.map_map]
      rfl
    · exact decide_eq_true (eq_false_of_ne_true hgrader)

theorem problem?_of_remove {s s' : Store} {pid : String} {p : Problem}
    (h : (remove pid).run .none s = (.ok p, s')) : s.problem? pid = some p := by
  rcases run_remove s pid with ⟨-, hrun⟩ | ⟨q, hq, hrun⟩
  · rw [h] at hrun
    cases hrun
  · rw [h] at hrun
    rw [hq, Except.ok.inj (Prod.mk.inj hrun).1]

/-- **The report lists the references that are in vain.** -/
theorem isListing_integrity {s : Store} (hs : s.HasReadableProblems) (setup : Setup) :
    ∃ found, (integrity setup).run .none s = (.ok (found.map Reference.line), s) ∧
      IsListing Reference.Precedes s.references (·.IsInVain setup s) found := by
  have hlisted := (Store.isListing_references hs).filter fun r => r.IsInVain setup s
  refine ⟨_, ?_, hlisted.congr fun r => (and_iff_right trivial).trans decide_eq_true_iff⟩
  rw [run_integrity, funext (issues_eq_map_line setup s), List.filter_flatMap, List.map_flatMap]

end Lifecycle

/-! ## After a removal -/

namespace Store

/-- What the other problems refer to. -/
theorem mem_references_without_iff {s : Store} (hs : s.WellKeyed) (pid : String) {r : Reference} :
    r ∈ (s.without pid).references ↔ r ∈ s.references ∧ r.problem.pid ≠ pid := by
  rw [mem_references_iff, mem_references_iff, ← filter_values hs, List.mem_filter,
    decide_eq_true_eq, and_right_comm]

/-- What is in vain for them: what was so before, and their weights for the problem that is gone. -/
theorem isInVain_without_iff {s : Store} (hs : s.WellKeyed) (setup : Setup) (pid : String)
    {r : Reference} :
    r.IsInVain setup (s.without pid) ↔ r.IsInVain setup s ∨ ∃ p, r = .weight p pid := by
  cases r with
  | grader p => exact (or_iff_left fun ⟨_, h⟩ => nomatch h).symm
  | weight p pid' =>
    have hgone : (∀ q ∈ (s.without pid).problems.values, q.pid ≠ pid') ↔
        (∀ q ∈ s.problems.values, q.pid ≠ pid') ∨ pid' = pid := by
      rw [← filter_values hs]
      simp only [List.mem_filter, decide_eq_true_eq]
      constructor
      · intro h
        by_cases hsame : pid' = pid
        · exact Or.inr hsame
        · exact Or.inl fun q hq hpid => h q ⟨hq, fun h' => hsame (hpid ▸ h')⟩ hpid
      · rintro (h | rfl) q ⟨hq, hpid⟩
        · exact h q hq
        · exact hpid
    refine hgone.trans (or_congr_right ⟨?_, ?_⟩)
    · rintro rfl
      exact ⟨p, rfl⟩
    · rintro ⟨_, h⟩
      exact (Reference.weight.inj h).2

/-- The problem that is gone refers to nothing any more.  What the others refer to in vain is what
was so before, and the problem that is gone if they have weights for it. -/
theorem mem_references_without_and_isInVain_iff {s : Store} (hs : s.WellKeyed) (setup : Setup)
    {pid : String} {p : Problem} (hp : s.problem? pid = some p) (r : Reference) :
    r ∈ (s.without pid).references ∧ r.IsInVain setup (s.without pid) ↔
      r.problem ≠ p ∧ (r ∈ s.references ∧ r.IsInVain setup s ∨
        ∃ q ∈ (s.without pid).problems.values, pid ∈ q.weightmap.keys ∧ r = .weight q pid) := by
  have hother : r ∈ s.references → (r.problem.pid ≠ pid ↔ r.problem ≠ p) := by
    intro hr
    obtain ⟨pid', hstored⟩ := (s.problems.mem_values_iff _).1 (mem_references_iff.1 hr).1
    refine not_congr ⟨?_, ?_⟩
    · intro hpid
      rw [← hs pid' _ hstored, hpid] at hstored
      exact Option.some.inj (hstored.symm.trans hp)
    · rintro rfl
      exact hs pid _ hp
  rw [isInVain_without_iff hs, mem_references_without_iff hs]
  constructor
  · rintro ⟨⟨hr, hpid⟩, hvain | ⟨q, rfl⟩⟩
    · exact ⟨(hother hr).1 hpid, Or.inl ⟨hr, hvain⟩⟩
    · refine ⟨(hother hr).1 hpid, Or.inr ⟨q, ?_, ?_, rfl⟩⟩
      · rw [← filter_values hs]
        exact List.mem_filter.2 ⟨(mem_references_iff.1 hr).1, decide_eq_true hpid⟩
      · exact Problem.weight_mem_references_iff.1 (mem_references_iff.1 hr).2
  · rintro ⟨hne, ⟨hr, hvain⟩ | ⟨q, hq, hweight, rfl⟩⟩
    · exact ⟨⟨hr, (hother hr).2 hne⟩, Or.inl hvain⟩
    · rw [← filter_values hs] at hq
      obtain ⟨hstored, hpid⟩ := List.mem_filter.1 hq
      have hr : Reference.weight q pid ∈ s.references :=
        mem_references_iff.2 ⟨hstored, Problem.weight_mem_references_iff.2 hweight⟩
      exact ⟨⟨hr, of_decide_eq_true hpid⟩, Or.inr ⟨q, rfl⟩⟩

end Store

/-! ## Together -/

/-- **The report on the integrity of problems is sound and complete.**  In every store that
operations lead to, one after another or at once, and for every registry, the report has one line
for each reference of a stored problem that is in vain, and no other lines.  The lines come by
problem, as problems are listed, disabled or not; first a line on the grader if it is not
registered, and then one for each identifier that no stored problem has among those that have
weights, in ascending order.  So nothing is reported exactly if all graders are registered and all
these problems are stored.  When a problem is removed, the lines on it are gone, those on other
problems stay, and each other problem that has a weight for it has a line that says so. -/
theorem integrity_of_reachable {s : Store} {threads : List Thread}
    (hw : World.Reachable ⟨s, threads⟩) (setup : Setup) :
    ∃ found, (Lifecycle.integrity setup).run .none s = (.ok (found.map Reference.line), s) ∧
      IsListing Reference.Precedes s.references (·.IsInVain setup s) found ∧
      (found.map Reference.line = [] ↔ ∀ p ∈ s.problems.values,
        setup.registry.contains p.grader = true ∧
          ∀ pid ∈ p.weightmap.keys, ∃ q ∈ s.problems.values, q.pid = pid) ∧
      ∀ pid p s', (Lifecycle.remove pid).run .none s = (.ok p, s') →
        ∃ found', (Lifecycle.integrity setup).run .none s' =
            (.ok (found'.map Reference.line), s') ∧
          IsListing Reference.Precedes s'.references (·.IsInVain setup s') found' ∧
          ∀ r, r ∈ found' ↔ r.problem ≠ p ∧ (r ∈ found ∨
            ∃ q ∈ s'.problems.values, pid ∈ q.weightmap.keys ∧ r = .weight q pid) := by
  have hs : s.HasReadableProblems := Store.isInvariant_hasReadableProblems.of_reachable hw
  obtain ⟨found, hrun, hfound⟩ := Lifecycle.isListing_integrity hs setup
  refine ⟨found, hrun, hfound, ?_, fun pid p s' hremove => ?_⟩
  · rw [List.map_eq_nil_iff, List.eq_nil_iff_forall_not_mem]
    simp only [hfound.mem_iff]
    exact Store.forall_not_isInVain_iff
  · have hp : s.problem? pid = some p := Lifecycle.problem?_of_remove hremove
    obtain rfl : s' = s.without pid := Lifecycle.eq_without_of_remove hremove
    obtain ⟨found', hrun', hfound'⟩ :=
      Lifecycle.isListing_integrity (hs.deleteProblem pid) setup
    refine ⟨found', hrun', hfound', fun r => ?_⟩
    rw [hfound.mem_iff]
    exact (hfound'.mem_iff r).trans
      (Store.mem_references_without_and_isInVain_iff hs.wellKeyed setup hp r)

/-- No grader is registered, so two problems are reported.  When the one that helps the other is
removed, the line on it is gone, and the other has a line more. -/
theorem integrity_of_removed_helper :
    let s := Sample.vaultStore
    let setup : Setup := ⟨Registry.empty 1000, false⟩
    let pid := Problem.pidOf "Warmup"
    (∃ threads, World.Reachable ⟨s, threads⟩) ∧
      ∃ found : List Reference,
        (Lifecycle.integrity setup).run .none s = (.ok (found.map Reference.line), s) ∧
        found.map Reference.line ≠ [] ∧
        ∃ (p : Problem) (s' : Store) (found' : List Reference),
          (Lifecycle.remove pid).run .none s = (.ok p, s') ∧
          Reference.grader p ∈ found ∧ Reference.grader p ∉ found' ∧
          (Lifecycle.integrity setup).run .none s' = (.ok (found'.map Reference.line), s') ∧
          found'.map Reference.line = ["Vault: Missing grader 'hidden'.",
            "Vault: Has weightmap entry '" ++ pid ++ "' which does not exist."] := by
  intro s setup pid
  obtain ⟨threads, hw⟩ := Sample.served_vaultStore.exists_world
  obtain ⟨found, hrun, hfound, hempty, hremoved⟩ := integrity_of_reachable hw setup
  rcases Lifecycle.run_remove s pid with ⟨hnone, -⟩ | ⟨p, hp, hremove⟩
  · exact absurd hnone (by decide +kernel)
  have hstored : p ∈ s.problems.values := (s.problems.mem_values_iff p).2 ⟨pid, hp⟩
  have hmissing : Reference.grader p ∈ found :=
    (hfound.mem_iff _).2 ⟨Store.mem_references_iff.2 ⟨hstored, List.mem_cons_self⟩, rfl⟩
  obtain ⟨found', hrun', -, hmem⟩ := hremoved pid p _ hremove
  refine ⟨⟨threads, hw⟩, found, hrun, fun h => ?_, p, _, found', hremove, hmissing,
    fun h => ((hmem (.grader p)).1 h).1 rfl, hrun', ?_⟩
  · exact Bool.false_ne_true (hempty.1 h p hstored).1
  · have hlines : ((Lifecycle.integrity setup).run .none (s.deleteProblem pid).2).1.toOption =
        some ["Vault: Missing grader 'hidden'.",
          "Vault: Has weightmap entry '" ++ pid ++ "' which does not exist."] := by
      decide +kernel
    rw [hrun'] at hlines
    exact Option.some.inj hlines

end CaptureTheFlag
