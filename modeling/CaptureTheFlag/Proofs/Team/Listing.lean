import CaptureTheFlag.Proofs.Team.Locality
import CaptureTheFlag.Proofs.Team.Resolution

/-!
# Lists of problems are complete, and a category narrows what is listed

Problems are listed for everybody, searched, and listed for a team.  Each list has all problems that
it is to have, each once and in strictly increasing order, by score and then by name.

* `Lifecycle.isListing_list`, `Lifecycle.isListing_search`: what is listed and what is searched.
* `Store.isListing_openTo`: what is listed for a team.
* `Store.entriesTo_some`: with a category, a team is given a part of what it is given without.
* `Progress.solvedProblems_complete`: when a team is given the problems that it has solved, and which
  these are.
* `listings_of_reachable`: together.

## Two categories

What is open to a team is narrowed by the category that a problem has.  What a team has solved is
narrowed by the category that the problem had at the time, as the submission has it.  The second never
gets into the first: the solved problems that open others are those of all categories.  So whether a
problem is open, and whether it is marked as solved, is said without a category
(`Store.Opens`, `Store.HasSolved`), and the list for a category is the part of one list for all.
-/

namespace CaptureTheFlag

open Program

/-! ## For everybody -/

namespace Lifecycle

variable {s : Store}

/-- The problems that are disabled, or those that are not; those of one category if given. -/
theorem isListing_list (hs : s.HasReadableProblems) (category : Option String) (disabled : Bool) :
    ∃ ps, (list category disabled).run .none s = (.ok ps, s) ∧
      IsListing Problem.Precedes s.problems.values
        (fun p => p.disabled = disabled ∧ ∀ c, category = some c → p.category = c) ps := by
  refine ⟨_, rfl, (Store.isListing_problemsWhere hs ⟨category, some disabled⟩).congr fun p => ?_⟩
  unfold Problem.Filter.selects
  rw [Bool.and_eq_true, Submission.Filter.admits_iff, Submission.Filter.admits_some,
    decide_eq_true_eq, and_comm, @eq_comm _ disabled]

/-- The problems that meet any of the conditions, disabled or not. -/
theorem isListing_search (hs : s.HasReadableProblems) (conditions : List Condition) :
    ∃ ps, (search conditions).run .none s = (.ok ps, s) ∧
      IsListing Problem.Precedes s.problems.values
        (fun p => ∃ c ∈ conditions, c.isMetBy p = true) ps := by
  have hall := Store.isListing_problemsWhere hs {}
  refine ⟨_, rfl, (hall.filter fun p => conditions.any (·.isMetBy p)).congr fun p => ?_⟩
  rw [List.any_eq_true]
  exact and_iff_right rfl

end Lifecycle

/-! ## For a team -/

namespace Store

variable {s : Store}

/-- What is open to a team is listed; what is of one category if given. -/
theorem isListing_openTo (hs : s.HasReadableProblems) (tid : String) (category : Option String) :
    IsListing Problem.Precedes s.problems.values
      (fun p => s.Opens tid p ∧ Submission.Filter.admits category p.category = true)
      (s.openTo tid category) := by
  have hlisted := (isListing_problemsWhere hs ⟨category, some false⟩).filter
    (·.isUnlockedBy (s.solvedBy tid))
  refine ⟨fun p => ?_, hlisted.nodup, hlisted.inOrder⟩
  rw [s.mem_openTo, iff_and_self]
  exact fun h => h.1.stored

/-- **With a category, a team sees that part of what it sees without.** -/
theorem entriesTo_some (hs : s.HasReadableProblems) (tid category : String) :
    s.entriesTo tid (some category) =
      (s.entriesTo tid none).filter fun u => u.problem.category = category := by
  have hpart : s.openTo tid (some category) =
      (s.openTo tid none).filter fun p => p.category = category := by
    refine (isListing_openTo hs tid (some category)).unique
      (((isListing_openTo hs tid none).filter _).congr fun p => ?_)
    simp [eq_comm]
  unfold entriesTo
  rw [hpart, List.filter_map]
  rfl

theorem isListing_entriesTo (hs : s.HasReadableProblems) (tid : String) :
    IsListing Problem.Precedes s.problems.values (s.Opens tid)
      ((s.entriesTo tid none).map (·.problem)) := by
  have hproblems : (s.entriesTo tid none).map (·.problem) = s.openTo tid none := by
    unfold entriesTo
    rw [List.map_map]
    exact List.map_id _
  rw [hproblems]
  exact (isListing_openTo hs tid none).congr fun p => and_iff_left rfl

/-- A problem is marked as solved if the team has a correct submission for it, of any category. -/
theorem solved_iff_of_mem_entriesTo {tid : String} {category : Option String} {u : UnlockedProblem}
    (hu : u ∈ s.entriesTo tid category) : u.solved = true ↔ s.HasSolved tid u.problem.pid := by
  obtain ⟨p, -, rfl⟩ := List.mem_map.1 hu
  exact s.contains_solvedBy tid p.pid

end Store

/-! ## What a team has solved -/

/-- The problems that a team has solved, those of one category if given: all that the team has a
correct submission for, as they are stored, in strictly ascending order of their identifiers. -/
structure Store.ListsSolved (s : Store) (tid : String) (category : Option String)
    (ps : List Problem) : Prop where
  stored : ∀ p ∈ ps, s.problem? p.pid = some p
  mem_iff : ∀ pid, pid ∈ ps.map (·.pid) ↔ s.HasSolvedIn tid category pid
  ascending : (ps.map (·.pid)).Pairwise (· < ·)

/-- A team is given the problems that it has solved, or one of them is not stored and the look-up
fails. -/
theorem Progress.solvedProblems_cases {s : Store} (hs : s.WellKeyed) (tid : String)
    (category : Option String) :
    (∃ ps, (solvedProblems tid category).run .none s = (.ok ps, s) ∧
        s.ListsSolved tid category ps) ∨
      ∃ pid, (solvedProblems tid category).run .none s =
          (.error (.solvedProblemMissing pid), s) ∧
        s.HasSolvedIn tid category pid ∧ s.problem? pid = none := by
  obtain ⟨solved, hsolvedPids, hsolved⟩ := run_solvedPids_in s tid category
  have hmem (pid : String) : pid ∈ solved.toList ↔ s.HasSolvedIn tid category pid :=
    (solved.mem_toList_iff pid).trans (hsolved pid)
  have hrun : (solvedProblems tid category).run .none s = (resolve solved.toList).run .none s :=
    run_bind_of_ok hsolvedPids _
  rw [hrun]
  rcases run_resolve s solved.toList with
    ⟨ps, hps, hfound⟩ | ⟨before, pid, after, hpids, -, hpid, hmissing⟩
  · obtain ⟨hpids, hstored⟩ := hs.map_pid hps
    refine Or.inl ⟨ps, hfound, hstored, fun pid => ?_, ?_⟩
    · rw [hpids, hmem]
    · rw [hpids]
      exact solved.toList_ascending
  · refine Or.inr ⟨pid, hmissing, ?_, hpid⟩
    rw [← hmem, hpids]
    exact List.mem_append_cons_self

/-- **A team is given all that it has solved, or nothing**: it is given the list if and only if every
problem in it is stored. -/
theorem Progress.solvedProblems_complete {s : Store} (hs : s.WellKeyed) (tid : String)
    (category : Option String) :
    (∀ ps s', (solvedProblems tid category).run .none s = (.ok ps, s') →
        s' = s ∧ s.ListsSolved tid category ps) ∧
      ((∃ ps s', (solvedProblems tid category).run .none s = (.ok ps, s')) ↔
        ∀ pid, s.HasSolvedIn tid category pid → s.problem? pid ≠ none) := by
  rcases solvedProblems_cases hs tid category with ⟨ps, hrun, hlists⟩ | ⟨pid, hrun, hsolved, hpid⟩
  · rw [hrun]
    refine ⟨fun ps' s' h => ?_, fun _ pid hsolved => ?_, fun _ => ⟨ps, s, rfl⟩⟩
    · cases h
      exact ⟨rfl, hlists⟩
    · obtain ⟨p, hp, rfl⟩ := List.mem_map.1 ((hlists.mem_iff pid).2 hsolved)
      rw [hlists.stored p hp]
      exact Option.some_ne_none p
  · rw [hrun]
    refine ⟨fun ps' s' h => ?_, fun ⟨ps', s', h⟩ => ?_, fun h => absurd hpid (h pid hsolved)⟩
    · cases h
    · cases h

/-! ## Together -/

/-- **Lists of problems are complete, and a category narrows what is listed.**  In every store that
operations lead to, one after another or at once, the problems that are listed for everybody, searched
or listed for a team are all that meet the condition, each once, and in strictly increasing order by
score and then by name.  With a category, a team sees that part of what it sees without, with the same
marks.  The problems that it has solved, when it is given them, are those of its correct submissions,
or of those in the category, in strictly ascending order of their identifiers; and it is given them
unless one is not stored. -/
theorem listings_of_reachable {s : Store} {threads : List Thread}
    (hw : World.Reachable ⟨s, threads⟩) :
    (∀ category disabled, ∃ ps, (Lifecycle.list category disabled).run .none s = (.ok ps, s) ∧
      IsListing Problem.Precedes s.problems.values
        (fun p => p.disabled = disabled ∧ ∀ c, category = some c → p.category = c) ps) ∧
    (∀ conditions, ∃ ps, (Lifecycle.search conditions).run .none s = (.ok ps, s) ∧
      IsListing Problem.Precedes s.problems.values
        (fun p => ∃ c ∈ conditions, c.isMetBy p = true) ps) ∧
    (∀ tid, ∃ entries, (Progress.unlockedProblems tid none).run .none s = (.ok entries, s) ∧
      IsListing Problem.Precedes s.problems.values (s.Opens tid) (entries.map (·.problem)) ∧
      (∀ u ∈ entries, u.solved = true ↔ s.HasSolved tid u.problem.pid) ∧
      ∀ category, (Progress.unlockedProblems tid (some category)).run .none s =
        (.ok (entries.filter fun u => u.problem.category = category), s)) ∧
    ∀ tid category,
      (∀ ps s', (Progress.solvedProblems tid category).run .none s = (.ok ps, s') →
        s' = s ∧ s.ListsSolved tid category ps) ∧
      ((∃ ps s', (Progress.solvedProblems tid category).run .none s = (.ok ps, s')) ↔
        ∀ pid, s.HasSolvedIn tid category pid → s.problem? pid ≠ none) := by
  have hs : s.HasReadableProblems := Store.isInvariant_hasReadableProblems.of_reachable hw
  refine ⟨Lifecycle.isListing_list hs, Lifecycle.isListing_search hs, fun tid => ?_,
    Progress.solvedProblems_complete hs.wellKeyed⟩
  refine ⟨s.entriesTo tid none, Progress.run_unlockedProblems s tid none,
    Store.isListing_entriesTo hs tid, fun u => Store.solved_iff_of_mem_entriesTo, fun category => ?_⟩
  rw [← Store.entriesTo_some hs]
  exact Progress.run_unlockedProblems s tid (some category)

namespace Sample

/-- A problem in one category opens another in a second category, and is then switched off. -/
def crossedStore : Store :=
  let perform (o : Operation) (s : Store) : Store := ((o.program setup).run .none s).2
  store |> perform (.submit 7 attempt)
    |> perform (.insert ((locked "Warmup").insert "category" (.string "crypto")))
    |> perform (.setDisabled (Problem.pidOf "Warmup") true)

theorem served_crossedStore : crossedStore.Served :=
  Store.Served.operation _ _ (.operation _ _ (.operation _ _ served_store))

end Sample

/-- The helper is in another category and switched off, and the problem that it has opened is listed
under its own category.  Under the category of the helper nothing is open, but the helper is still
solved. -/
theorem listings_of_crossed_categories :
    let s := Sample.crossedStore
    (∃ threads, World.Reachable ⟨s, threads⟩) ∧
      (∃ entries, (Progress.unlockedProblems "red" none).run .none s = (.ok entries, s) ∧
        entries.map (fun u => (u.problem.name, u.problem.category, u.solved)) =
          [("Vault", "crypto", false)] ∧
        (Progress.unlockedProblems "red" (some "crypto")).run .none s = (.ok entries, s) ∧
        (Progress.unlockedProblems "red" (some "misc")).run .none s = (.ok [], s)) ∧
      ∃ ps, (Progress.solvedProblems "red" (some "misc")).run .none s = (.ok ps, s) ∧
        s.ListsSolved "red" (some "misc") ps ∧
        ps.map (fun p => (p.name, p.disabled)) = [("Warmup", true)] := by
  intro s
  obtain ⟨threads, hw⟩ := Sample.served_crossedStore.exists_world
  obtain ⟨-, -, hunlocked, hsolved⟩ := listings_of_reachable hw
  have hentries : (s.entriesTo "red" none).map
      (fun u => (u.problem.name, u.problem.category, u.solved)) = [("Vault", "crypto", false)] := by
    decide +kernel
  have hgiven : ((Progress.solvedProblems "red" (some "misc")).run .none s).1.toOption.map
      (List.map fun p => (p.name, p.disabled)) = some [("Warmup", true)] := by decide +kernel
  refine ⟨⟨threads, hw⟩, ?_, ?_⟩
  · obtain ⟨entries, hrun, -, -, hpart⟩ := hunlocked "red"
    obtain rfl : entries = s.entriesTo "red" none := by
      rw [Progress.run_unlockedProblems] at hrun
      exact (Except.ok.inj (Prod.mk.inj hrun).1).symm
    have hcategory : ∀ u ∈ s.entriesTo "red" none, u.problem.category = "crypto" := by
      intro u hu
      have hmem : (u.problem.name, u.problem.category, u.solved) ∈ [("Vault", "crypto", false)] :=
        hentries ▸ List.mem_map.2 ⟨u, hu, rfl⟩
      exact (Prod.mk.inj (Prod.mk.inj (List.mem_singleton.1 hmem)).2).1
    refine ⟨_, hrun, hentries, (hpart "crypto").trans ?_, (hpart "misc").trans ?_⟩
    · rw [List.filter_eq_self.2 fun u hu => decide_eq_true (hcategory u hu)]
    · rw [List.filter_eq_nil_iff.2 fun u hu => ?_]
      rw [hcategory u hu]
      decide
  · obtain ⟨ps, hps, hnames⟩ := Option.map_eq_some_iff.1 hgiven
    have hrun := eq_ok_of_toOption hps
    obtain ⟨hstays, hlists⟩ := (hsolved "red" (some "misc")).1 ps _ hrun
    rw [hstays] at hrun
    exact ⟨ps, hrun, hlists, hnames⟩

end CaptureTheFlag
