import CaptureTheFlag.Proofs.Problem.Document
import CaptureTheFlag.Proofs.Problem.Proper
import CaptureTheFlag.Proofs.Problem.Unlock
import Mathlib.Data.List.Nodup

/-!
# Whom a weight by name is for

A document gives weights by the names of helpers, and they are stored by identifiers.  Every name is
turned into its own identifier, and no helper is looked up.  So a weight is for the problem that came
in under the name, whatever that problem is called by now.

* `Problem.NoCollision`: no two of some names have one identifier.
* `Problem.get?_rekey`: then weights by identifiers are the weights by names.
* `Document.GivesWeights`: a document gives weights by names.
* `Draft.IsOf.get?_create`, `Draft.IsOf.get?_ofDraft`: what is stored of them.
* `Problem.WeighsAsNamed`: a helper weighs what was given for the name under which it came in, and
  once it is solved that is what it adds for the threshold.
* `weighsAsNamed_of_served`: so it is after every insertion and every update that succeeds.
* `not_weighed_of_renamed`: a weight for the name that a helper has by now may miss it.

## What a helper adds

The weights of the solved problems are added one by one, and a sum that leaves the 64-bit integers
stops at the nearest one.  If it is led back from there, a weight may be lost altogether: one that
only leads further out adds nothing.  So what a helper adds is said of the exact sum, and for sets of
solved problems whose sum never turns back (`Problem.NeverTurnsBack`).  For these the exact sum
decides whether the problem opens, as no stored threshold is negative.
-/

namespace CaptureTheFlag

/-! ## Weights by identifiers -/

namespace Problem

/-- No two of the names have one identifier. -/
def NoCollision (names : List String) : Prop :=
  ∀ n ∈ names, ∀ n' ∈ names, pidOf n = pidOf n' → n = n'

theorem NoCollision.of_nodup {names : List String} (h : (names.map pidOf).Nodup) :
    NoCollision names :=
  fun _ hn _ hn' => List.inj_on_of_nodup_map h hn hn'

theorem NoCollision.mono {names names' : List String} (h : NoCollision names)
    (hsubset : names' ⊆ names) : NoCollision names' :=
  fun n hn n' hn' => h n (hsubset hn) n' (hsubset hn')

/-- **A weight by identifier is the weight by name**, whether the name has a weight or not, if no two
of the names have one identifier. -/
theorem get?_rekey {α : Type} {byName : KeyMap α} {name : String}
    (h : NoCollision (name :: byName.keys)) :
    (rekey byName).get? (pidOf name) = byName.get? name := by
  have hsame : ∀ e ∈ byName.entries, pidOf e.1 = pidOf name → e.1 = name := fun e he =>
    h e.1 (List.mem_cons_of_mem _ (List.mem_map_of_mem he)) name List.mem_cons_self
  have hget := KeyMap.get?_foldl_insert_image pidOf (fun _ v => v) .empty byName.ascending hsame
  rw [KeyMap.get?_empty, Option.or_none, Option.map_id'] at hget
  unfold rekey KeyMap.ofList
  rw [List.foldl_map]
  exact hget

end Problem

/-! ## Documents with weights -/

/-- The document gives these weights by names. -/
def Document.GivesWeights (d byName : Document) : Prop :=
  ∃ v, d.get? "weightmap" = some v ∧ v.document? = some byName

/-- The weight beside a key. -/
def Document.weight? (d : Document) (key : String) : Option Int64 := (d.get? key).bind Json.int64?

/-- A value that is no null is read. -/
theorem Schema.HasOptional.exists_reading {α : Type} {d : Document} {field : String}
    {reading : Json → Option α} {x? : Option α} (h : HasOptional d field reading x?) {v : Json}
    (hget : d.get? field = some v) (hne : v ≠ .null) : ∃ x, x? = some x ∧ reading v = some x := by
  cases h with
  | absent habsent =>
    rw [habsent] at hget
    cases hget
  | null hnull =>
    rw [hnull] at hget
    exact absurd (Option.some.inj hget).symm hne
  | @present x hhas =>
    obtain ⟨v', hget', hx⟩ := hhas
    rw [hget] at hget'
    cases hget'
    exact ⟨x, rfl, hx⟩

namespace Draft.IsOf

variable {d byName : Document} {draft : Draft}

/-- The weights of a draft are those that its document gives. -/
theorem exists_weightmap (h : draft.IsOf d) (hgiven : Document.GivesWeights d byName) :
    ∃ w, draft.weightmap = some w ∧ w.keys = byName.keys ∧
      ∀ key, w.get? key = Document.weight? byName key := by
  obtain ⟨v, hget, hv⟩ := hgiven
  have hne : v ≠ .null := by
    rintro rfl
    cases hv
  obtain ⟨w, hw, hread⟩ := h.weightmap.exists_reading hget hne
  have hsame : Schema.integers? v = Schema.integers? (.ofDocument byName) := by
    unfold Schema.integers?
    rw [hv, Json.document?_ofDocument]
  rw [hsame] at hread
  refine ⟨w, hw, Schema.keys_of_integers? hread, fun key => ?_⟩
  rw [Schema.eq_map_of_integers? hread]
  unfold Document.weight?
  rw [KeyMap.get?_map]
  cases w.get? key with
  | none => rfl
  | some n => exact (Json.int64?_ofInt64 n).symm

/-- The weights of a new problem, by identifiers. -/
theorem get?_create (h : draft.IsOf d) (hgiven : Document.GivesWeights d byName) {name : String}
    (hname : Problem.NoCollision (name :: byName.keys)) :
    (Problem.create draft).weightmap.get? (Problem.pidOf name) =
      Document.weight? byName name := by
  obtain ⟨w, hw, hkeys, hget⟩ := h.exists_weightmap hgiven
  show (Problem.rekey (draft.weightmap.getD .empty)).get? _ = _
  rw [← hkeys] at hname
  rw [hw, Option.getD_some, Problem.get?_rekey hname, hget]

/-- New weights of a stored problem, by identifiers. -/
theorem get?_ofDraft {p : Problem} {changes : Document}
    (h : draft.IsOf (Lifecycle.merge p changes)) (hgiven : Document.GivesWeights changes byName)
    (pid : String) {name : String} (hname : Problem.NoCollision (name :: byName.keys)) :
    (Problem.ofDraft pid draft).weightmap.get? (Problem.pidOf name) =
      Document.weight? byName name := by
  have hmerged : Document.GivesWeights (Lifecycle.merge p changes) (Problem.rekey byName) := by
    obtain ⟨v, hget, hv⟩ := hgiven
    refine ⟨.ofDocument (Problem.rekey byName), ?_, Json.document?_ofDocument _⟩
    rw [Lifecycle.get?_merge, hget]
    unfold Lifecycle.mergedValue
    rw [Option.map_some, if_pos rfl, hv, Option.some_or]
  obtain ⟨w, hw, -, hget⟩ := h.exists_weightmap hmerged
  show (draft.weightmap.getD .empty).get? _ = _
  rw [hw, Option.getD_some, hget]
  unfold Document.weight?
  rw [Problem.get?_rekey hname]

end Draft.IsOf

/-! ## Helpers and their weights -/

namespace Problem

/-- A solved helper adds its weight to the exact sum. -/
theorem exactSum_eq_add_erase (p : Problem) {helper : String} {solved : TextSet}
    (h : solved.contains helper = true) :
    p.exactSum solved.toList =
      ((p.weightmap.get? helper).getD 0).toInt + p.exactSum (solved.toList.erase helper) :=
  p.exactSum_perm (List.perm_cons_erase ((solved.mem_toList_iff helper).2 h))

/-- The problem weighs a helper as the document says of the name under which the helper came in.
Among solved problems whose sum never turns back the helper counts for this weight: the problem opens
exactly when the weight and the exact sum of the others reach the threshold together.  A weight for
the helper's current name, if that is another one, is for an identifier that is not the helper's. -/
structure WeighsAsNamed (p : Problem) (byName : Document) (helper first current : String) :
    Prop where
  weight_eq : p.weightmap.get? helper = Document.weight? byName first
  counts : ∀ solved : TextSet, solved.contains helper = true →
    NeverTurnsBack 0 (p.weightsOf solved.toList) →
    (p.isUnlockedBy solved = true ↔ p.weightmap.isEmpty = true ∨
      p.threshold.toInt ≤
        ((Document.weight? byName first).getD 0).toInt + p.exactSum (solved.toList.erase helper))
  misses : current ≠ first → pidOf current ≠ helper ∧
    p.weightmap.get? (pidOf current) = Document.weight? byName current

/-- It is enough that both names have their weights under their identifiers, and that the threshold is
not negative. -/
theorem weighsAsNamed_of_get? {p : Problem} {byName : Document} {first current : String}
    (hthreshold : 0 ≤ p.threshold) (hnames : NoCollision (first :: current :: byName.keys))
    (hget : ∀ name, NoCollision (name :: byName.keys) →
      p.weightmap.get? (pidOf name) = Document.weight? byName name) :
    p.WeighsAsNamed byName (pidOf first) first current := by
  have hfirst : p.weightmap.get? (pidOf first) = Document.weight? byName first :=
    hget first (hnames.mono (List.cons_subset_cons _ (List.subset_cons_self _ _)))
  refine { weight_eq := hfirst, counts := fun solved hsolved hsum => ?_, misses := fun hne => ?_ }
  · rw [isUnlockedBy_iff_le_exactSum (Or.inl (minValue_lt_of_nonneg hthreshold)) hsum,
      p.exactSum_eq_add_erase hsolved, hfirst]
  · refine ⟨fun hpid => ?_, hget current (hnames.mono (List.subset_cons_self _ _))⟩
    exact hne (hnames current (by simp) first (by simp) hpid)

end Problem

/-- **A weight is for the problem that came in under the name**: after operations carried out one
after another, let a problem be stored that came in under one name and has that or another one by
now.  Whenever a document with weights is inserted or updates a problem, and that succeeds, the
stored problem weighs the first one as the document says of the name under which it came in, and
opens accordingly.  No two of the names have one identifier. -/
theorem weighsAsNamed_of_served {names : String → Option String} {s : Store}
    (hs : s.ServedWith names) {helper : String} {q : Problem}
    (hq : s.problem? helper = some q) :
    ∃ first, names helper = some first ∧ helper = Problem.pidOf first ∧
      ∀ (setup : Setup) (doc byName : Document), Document.GivesWeights doc byName →
        Problem.NoCollision (first :: q.name :: byName.keys) →
        (∀ pid s', (Lifecycle.insert setup doc).run .none s = (.ok pid, s') →
          ∃ p, s'.problem? pid = some p ∧ p.WeighsAsNamed byName helper first q.name) ∧
        ∀ pid p s', (Lifecycle.update setup pid doc).run .none s = (.ok p, s') →
          s'.problem? pid = some p ∧ p.WeighsAsNamed byName helper first q.name := by
  obtain ⟨first, hfirst, hpid⟩ := hs.pid_eq hq
  refine ⟨first, hfirst, hpid, fun setup doc byName hgiven hnames => ⟨?_, ?_⟩⟩
  · intro pid s' hrun
    have hinsertion := Lifecycle.insertion setup doc s
    rw [hrun] at hinsertion
    cases hinsertion with
    | @stored draft hdraft hgrader hpid' hname =>
      refine ⟨Problem.create draft, ?_, ?_⟩
      · show (s.problems.insert _ _).get? _ = _
        rw [KeyMap.get?_insert, if_pos rfl]
      · have hof := Draft.ofDocument_eq_ok_iff.1 hdraft
        rw [hpid]
        exact Problem.weighsAsNamed_of_get? (Schema.nonneg_of_has hof.threshold) hnames
          fun name hname => hof.get?_create hgiven hname
  · intro pid p s' hrun
    have hreplacement := Lifecycle.replacement hs.properProblems.pid_eq setup pid doc
    rw [hrun] at hreplacement
    cases hreplacement with
    | @replaced p' draft hp hdraft hgrader hname =>
      refine ⟨?_, ?_⟩
      · show (s.problems.insert _ _).get? _ = _
        rw [KeyMap.get?_insert, if_pos rfl]
      · have hof := Draft.ofDocument_eq_ok_iff.1 hdraft
        rw [hpid]
        exact Problem.weighsAsNamed_of_get? (Schema.nonneg_of_has hof.threshold) hnames
          fun name hname => hof.get?_ofDraft hgiven pid hname

/-- A run that gives a result has succeeded with it. -/
theorem eq_ok_of_toOption {α : Type} {out : Except Failure α × Store} {x : α}
    (h : out.1.toOption = some x) : out = (.ok x, out.2) := by
  obtain ⟨result, s⟩ := out
  cases result with
  | error e => cases h
  | ok y => rw [Option.some.inj h]

namespace Sample

/-- The problem has another name by now. -/
def renamed : Store :=
  ((Operation.update (Problem.pidOf "Warmup")
    (KeyMap.empty.insert "name" (.string "Start"))).program setup |>.run .none store).2

theorem servedWith_renamed : ∃ names, renamed.ServedWith names ∧
    names (Problem.pidOf "Warmup") = some "Warmup" :=
  ⟨_, .operation setup _ (.operation setup (.insert document) (.addUser user .empty)),
    by decide +kernel⟩

/-- One helper is given a weight by a name. -/
def weights (helper : String) : Document := KeyMap.empty.insert helper (.integer 5)

/-- A problem that opens once its helper is solved. -/
def locked (helper : String) : Document :=
  (((document.insert "name" (.string "Vault")).insert "threshold" (.integer 5)).insert "weightmap"
    (.ofDocument (weights helper)))

theorem givesWeights_locked (helper : String) :
    Document.GivesWeights (locked helper) (weights helper) :=
  ⟨.ofDocument (weights helper), by simp [locked], Json.document?_ofDocument _⟩

theorem noCollision : Problem.NoCollision ["Warmup", "Start", "Vault"] :=
  .of_nodup (by decide +kernel)

end Sample

/-- The helper is called "Start" by now, and the document gives a weight to "Start".  The stored
problem has no weight for the helper, and does not open once it is solved. -/
theorem not_weighed_of_renamed :
    let helper := Problem.pidOf "Warmup"
    let run := (Lifecycle.insert Sample.setup (Sample.locked "Start")).run .none Sample.renamed
    Sample.renamed.Served ∧ (Sample.renamed.problem? helper).map (·.name) = some "Start" ∧
      Document.GivesWeights (Sample.locked "Start") (Sample.weights "Start") ∧
      Document.weight? (Sample.weights "Start") "Start" = some 5 ∧
      Problem.NoCollision ["Warmup", "Start", "Vault"] ∧
      run.1.toOption = some (Problem.pidOf "Vault") ∧
      ∃ p, run.2.problem? (Problem.pidOf "Vault") = some p ∧ p.weightmap.get? helper = none ∧
        p.isUnlockedBy (TextSet.ofList [helper]) = false := by
  intro helper run
  obtain ⟨hname, hweight, hrun, hstored⟩ :
      (Sample.renamed.problem? helper).map (·.name) = some "Start" ∧
        Document.weight? (Sample.weights "Start") "Start" = some 5 ∧
        run.1.toOption = some (Problem.pidOf "Vault") ∧
        (run.2.problem? (Problem.pidOf "Vault")).map (fun p =>
          (p.weightmap.get? helper, p.isUnlockedBy (TextSet.ofList [helper]))) =
            some (none, false) := by decide +kernel
  obtain ⟨p, hp, hlocked⟩ := Option.map_eq_some_iff.1 hstored
  obtain ⟨hget, hunlocked⟩ := Prod.mk.inj hlocked
  exact ⟨Sample.served_store.operation _ _, hname, Sample.givesWeights_locked _, hweight,
    Sample.noCollision, hrun, p, hp, hget, hunlocked⟩

/-- The document gives the weight to "Warmup", the name under which the helper came in.  Then the
stored problem has the weight for the helper, and opens once the helper is solved. -/
theorem weighed_of_first_name :
    let helper := Problem.pidOf "Warmup"
    let solved := TextSet.ofList [helper]
    let run := (Lifecycle.insert Sample.setup (Sample.locked "Warmup")).run .none Sample.renamed
    (∃ names, Sample.renamed.ServedWith names) ∧
      (∃ q, Sample.renamed.problem? helper = some q ∧ q.name = "Start") ∧
      Document.GivesWeights (Sample.locked "Warmup") (Sample.weights "Warmup") ∧
      Problem.NoCollision ("Warmup" :: "Start" :: (Sample.weights "Warmup").keys) ∧
      run.1.toOption = some (Problem.pidOf "Vault") ∧
      ∃ p, run.2.problem? (Problem.pidOf "Vault") = some p ∧
        p.weightmap.get? helper = some 5 ∧
        p.WeighsAsNamed (Sample.weights "Warmup") helper "Warmup" "Start" ∧
        solved.contains helper = true ∧ Problem.NeverTurnsBack 0 (p.weightsOf solved.toList) ∧
        p.isUnlockedBy solved = true := by
  intro helper solved run
  obtain ⟨names, hs, hfirst⟩ := Sample.servedWith_renamed
  have hnames : Problem.NoCollision ("Warmup" :: "Start" :: (Sample.weights "Warmup").keys) :=
    Sample.noCollision.mono (by decide)
  -- the stored problem reaches its threshold by this weight alone
  obtain ⟨hname, hweight, hsolved, hrun, hstored⟩ :
      (Sample.renamed.problem? helper).map (·.name) = some "Start" ∧
        Document.weight? (Sample.weights "Warmup") "Warmup" = some 5 ∧
        solved.contains helper = true ∧ run.1.toOption = some (Problem.pidOf "Vault") ∧
        (run.2.problem? (Problem.pidOf "Vault")).map (fun p =>
          (p.weightsOf solved.toList, p.threshold, p.exactSum (solved.toList.erase helper))) =
            some ([5], 5, 0) := by decide +kernel
  obtain ⟨q, hq, hqname⟩ := Option.map_eq_some_iff.1 hname
  obtain ⟨first, hfirst', -, hweighs⟩ := weighsAsNamed_of_served hs hq
  obtain rfl : "Warmup" = first := Option.some.inj (hfirst.symm.trans hfirst')
  rw [hqname] at hweighs
  obtain ⟨p, hp, hpweighs⟩ := (hweighs Sample.setup (Sample.locked "Warmup") _
    (Sample.givesWeights_locked _) hnames).1 _ run.2 (eq_ok_of_toOption hrun)
  rw [hp] at hstored
  obtain ⟨hsum, hthreshold, hothers⟩ :
      p.weightsOf solved.toList = [5] ∧ p.threshold = 5 ∧
        p.exactSum (solved.toList.erase helper) = 0 := by simpa using hstored
  have hturns : Problem.NeverTurnsBack 0 (p.weightsOf solved.toList) := by
    rw [hsum]
    decide
  have hunlocked : p.isUnlockedBy solved = true := by
    refine (hpweighs.counts solved hsolved hturns).2 (Or.inr ?_)
    rw [hweight, hthreshold, hothers]
    decide
  exact ⟨⟨names, hs⟩, ⟨q, hq, hqname⟩, Sample.givesWeights_locked _, hnames, hrun, p, hp,
    hpweighs.weight_eq.trans hweight, hpweighs, hsolved, hturns, hunlocked⟩

end CaptureTheFlag
