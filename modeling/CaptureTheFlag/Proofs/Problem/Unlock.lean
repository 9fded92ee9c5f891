import CaptureTheFlag.Problem.Basic

/-!
# When weights add up

A problem opens once the weights of its solved helpers add up to its threshold.  The weights are
added one by one, and a sum that leaves the 64-bit integers stops at the nearest one.  Here this is
compared with the sum as it is.

* `Problem.exactSum`: the weights of some problems, added up without a bound.
* `Problem.NeverTurnsBack`: a sum that has left the 64-bit integers is not led back by later
  weights.
* `Problem.neverTurnsBack_of_nonneg`, `Problem.neverTurnsBack_of_inRange`: what does not turn back
  for sure.
* `Problem.toInt_addAll`: then adding one by one comes to the integer nearest to the exact sum.
* `Problem.isUnlockedBy_iff_le_exactSum`: then the problem opens exactly when the exact sum reaches
  the threshold, if the threshold is not the least 64-bit integer.
* `Problem.isUnlockedBy_iff_of_neverTurnsBack`: and the order of the weights does not matter.
* `Problem.isUnlockedBy_of_turning_back`: otherwise it may stay shut.

## What is lost on the way

A sum that stops at a bound forgets how far it would have gone.  As long as what follows leads it
further out, or nothing follows, this does no harm: the bound is as good as the sum for the
comparison with a threshold.  But if weights of the other sign follow, they lead away from the bound
and not from the sum.  So weights of both signs can come to different ends in different orders, and
the order is that of the identifiers, which are digests of names.

## The least threshold

The least 64-bit integer is as good as a sum below it for the comparison with every threshold but
itself: this one is reached by what stops there, and not by a sum that lies below.  So a problem with
this threshold may open although the exact sum does not reach it, even where all weights are
negative and the sum never turns back.  The laws below ask for a threshold above the least integer,
or for an exact sum that does not lie below it.  Every threshold that is stored is above it, since
none is negative.
-/

namespace CaptureTheFlag.Problem

/-! ## Sums -/

/-- The weights of some problems in their order.  A problem that is no helper has none. -/
def weightsOf (p : Problem) (order : List String) : List Int64 := order.filterMap p.weightmap.get?

/-- Weights added one by one, starting from zero. -/
def addAll (ws : List Int64) : Int64 := ws.foldl addSaturating 0

theorem weightSum_eq_addAll (p : Problem) (solved : TextSet) :
    p.weightSum solved = addAll (p.weightsOf solved.toList) := rfl

/-- Weights added up without a bound. -/
def total (ws : List Int64) : Int := ws.foldr (fun w n => w.toInt + n) 0

theorem total_cons (w : Int64) (ws : List Int64) : total (w :: ws) = w.toInt + total ws := rfl

/-- The exact sum does not depend on the order. -/
theorem total_perm {ws ws' : List Int64} (h : ws.Perm ws') : total ws = total ws' := by
  induction h with
  | nil => rfl
  | cons w _ ih => rw [total_cons, total_cons, ih]
  | swap w w' r =>
    rw [total_cons, total_cons, total_cons, total_cons]
    omega
  | trans _ _ ih ih' => exact ih.trans ih'

/-- The weights of some problems added up without a bound.  A problem that is no helper weighs
nothing. -/
def exactSum (p : Problem) (order : List String) : Int :=
  total (order.map fun pid => (p.weightmap.get? pid).getD 0)

theorem exactSum_eq_total (p : Problem) (order : List String) :
    p.exactSum order = total (p.weightsOf order) := by
  unfold exactSum weightsOf
  induction order with
  | nil => rfl
  | cons pid r ih =>
    rw [List.map_cons, total_cons, ih]
    cases hw : p.weightmap.get? pid with
    | none =>
      rw [List.filterMap_cons_none hw]
      exact Int.zero_add _
    | some w =>
      rw [List.filterMap_cons_some hw, total_cons]
      rfl

theorem exactSum_perm (p : Problem) {order order' : List String} (h : order.Perm order') :
    p.exactSum order = p.exactSum order' :=
  total_perm (h.map _)

/-! ## The nearest integer -/

/-- The 64-bit integer nearest to an integer. -/
def clamp (n : Int) : Int := max Int64.minValue.toInt (min n Int64.maxValue.toInt)

theorem minValue_le_maxValue : Int64.minValue.toInt ≤ Int64.maxValue.toInt :=
  Int64.toInt_le Int64.minValue

theorem toInt_addSaturating (a b : Int64) :
    (addSaturating a b).toInt = clamp (a.toInt + b.toInt) := by
  unfold addSaturating clamp Int64.ofIntClamp
  have hbounds := minValue_le_maxValue
  split
  · split
    · rw [Int64.toInt_ofIntLE]
      omega
    · omega
  · omega

/-- Whatever is in range and not the least integer compares with the nearest integer as with the
integer itself. -/
theorem toInt_le_clamp_iff {t : Int64} {n : Int}
    (h : Int64.minValue < t ∨ Int64.minValue.toInt ≤ n) : t.toInt ≤ clamp n ↔ t.toInt ≤ n := by
  rw [Int64.lt_iff_toInt_lt] at h
  have hmax := Int64.toInt_le t
  unfold clamp
  omega

/-- A threshold that is not negative is above the least 64-bit integer. -/
theorem minValue_lt_of_nonneg {t : Int64} (h : 0 ≤ t) : Int64.minValue < t :=
  Int64.lt_of_lt_of_le (by decide) h

/-! ## Sums that do not turn back -/

/-- Starting from a sum, every weight that comes when the sum is beyond the 64-bit integers leads
further out or leaves it where it is. -/
def NeverTurnsBack : Int → List Int64 → Prop
  | _, [] => True
  | n, w :: r =>
    (Int64.maxValue.toInt < n → 0 ≤ w.toInt) ∧ (n < Int64.minValue.toInt → w.toInt ≤ 0) ∧
      NeverTurnsBack (n + w.toInt) r

instance decidableNeverTurnsBack : (n : Int) → (ws : List Int64) → Decidable (NeverTurnsBack n ws)
  | _, [] => inferInstanceAs (Decidable True)
  | n, w :: r =>
    have := decidableNeverTurnsBack (n + w.toInt) r
    inferInstanceAs (Decidable (_ ∧ _ ∧ _))

/-- Weights that are not negative never lead a sum back. -/
theorem neverTurnsBack_of_nonneg {ws : List Int64} (h : ∀ w ∈ ws, 0 ≤ w.toInt) {n : Int}
    (hn : Int64.minValue.toInt ≤ n) : NeverTurnsBack n ws := by
  induction ws generalizing n with
  | nil => exact trivial
  | cons w r ih =>
    have hw := h w List.mem_cons_self
    refine ⟨fun _ => hw, fun hlow => absurd hlow (by omega), ih (fun v hv => ?_) (by omega)⟩
    exact h v (List.mem_cons_of_mem _ hv)

/-- A sum that never leaves the 64-bit integers need not be led back. -/
theorem neverTurnsBack_of_inRange {ws : List Int64} {n : Int}
    (h : ∀ u v, ws = u ++ v →
      Int64.minValue.toInt ≤ n + total u ∧ n + total u ≤ Int64.maxValue.toInt) :
    NeverTurnsBack n ws := by
  induction ws generalizing n with
  | nil => exact trivial
  | cons w r ih =>
    have hstart : Int64.minValue.toInt ≤ n + 0 ∧ n + 0 ≤ Int64.maxValue.toInt := h [] (w :: r) rfl
    refine ⟨fun hhigh => by omega, fun hlow => by omega, ih fun u v huv => ?_⟩
    have hnext := h (w :: u) v (by rw [huv, List.cons_append])
    rw [total_cons] at hnext
    omega

/-- **Adding one by one comes to the integer nearest to the exact sum**, if the sum never turns
back.  The induction is on the weights; what is carried along is that the sum so far is the integer
nearest to the exact sum so far. -/
theorem toInt_foldl_addSaturating {ws : List Int64} {n : Int} {a : Int64}
    (ha : a.toInt = clamp n) (h : NeverTurnsBack n ws) :
    (ws.foldl addSaturating a).toInt = clamp (n + total ws) := by
  induction ws generalizing n a with
  | nil =>
    rw [List.foldl_nil, ha]
    exact congrArg clamp (Int.add_zero n).symm
  | cons w r ih =>
    obtain ⟨hhigh, hlow, hr⟩ := h
    have hstep : (addSaturating a w).toInt = clamp (n + w.toInt) := by
      have hbounds := minValue_le_maxValue
      rw [toInt_addSaturating, ha]
      unfold clamp
      omega
    rw [List.foldl_cons, ih hstep hr, total_cons, Int.add_assoc]

theorem toInt_addAll {ws : List Int64} (h : NeverTurnsBack 0 ws) :
    (addAll ws).toInt = clamp (total ws) := by
  have hzero : (0 : Int64).toInt = clamp 0 := by decide
  rw [addAll, toInt_foldl_addSaturating hzero h, Int.zero_add]

/-! ## Thresholds -/

/-- What is reached by adding one by one is what the exact sum reaches.  If the threshold is the least
64-bit integer, the exact sum must not lie below it. -/
theorem le_addAll_iff (p : Problem) {order : List String}
    (hthreshold : Int64.minValue < p.threshold ∨ Int64.minValue.toInt ≤ p.exactSum order)
    (h : NeverTurnsBack 0 (p.weightsOf order)) :
    p.threshold ≤ addAll (p.weightsOf order) ↔ p.threshold.toInt ≤ p.exactSum order := by
  rw [exactSum_eq_total] at hthreshold ⊢
  rw [Int64.le_iff_toInt_le, toInt_addAll h, toInt_le_clamp_iff hthreshold]

/-- **A problem opens when the exact sum reaches the threshold**, if the sum of the weights in
ascending order of the identifiers never turns back, and unless the threshold is the least 64-bit
integer and the exact sum lies below it. -/
theorem isUnlockedBy_iff_le_exactSum {p : Problem} {solved : TextSet}
    (hthreshold : Int64.minValue < p.threshold ∨
      Int64.minValue.toInt ≤ p.exactSum solved.toList)
    (h : NeverTurnsBack 0 (p.weightsOf solved.toList)) :
    p.isUnlockedBy solved = true ↔
      p.weightmap.isEmpty = true ∨ p.threshold.toInt ≤ p.exactSum solved.toList := by
  unfold isUnlockedBy
  rw [Bool.or_eq_true, decide_eq_true_eq, weightSum_eq_addAll, p.le_addAll_iff hthreshold h]

/-- **A problem opens when the exact sum reaches the threshold, whatever the order of the weights**:
for every set of solved problems whose weights, in ascending order of the identifiers, add up to a sum
that never turns back, it opens exactly then; and any other order of the problems in which the sum
never turns back would open it as well or keep it shut as well.  The threshold must not be the least
64-bit integer, or the exact sum must not lie below it. -/
theorem isUnlockedBy_iff_of_neverTurnsBack {p : Problem} {solved : TextSet}
    (hthreshold : Int64.minValue < p.threshold ∨
      Int64.minValue.toInt ≤ p.exactSum solved.toList)
    (h : NeverTurnsBack 0 (p.weightsOf solved.toList)) :
    (p.isUnlockedBy solved = true ↔
        p.weightmap.isEmpty = true ∨ p.threshold.toInt ≤ p.exactSum solved.toList) ∧
      ∀ order : List String, order.Perm solved.toList → NeverTurnsBack 0 (p.weightsOf order) →
        (p.isUnlockedBy solved = true ↔
          p.weightmap.isEmpty = true ∨ p.threshold ≤ addAll (p.weightsOf order)) := by
  have hunlocked := isUnlockedBy_iff_le_exactSum hthreshold h
  refine ⟨hunlocked, fun order horder horder' => ?_⟩
  rw [← p.exactSum_perm horder] at hthreshold hunlocked
  rw [hunlocked, p.le_addAll_iff hthreshold horder']

end CaptureTheFlag.Problem

namespace CaptureTheFlag

namespace Sample

/-- A problem with a helper that weighs as much as can be, one that weighs a little, and one that
weighs a little less than nothing. -/
def vault : Problem where
  pid := "vault"
  name := "Vault"
  score := 90
  category := "misc"
  grader := "hidden"
  description := "Open it."
  threshold := Int64.maxValue
  disabled := false
  autogen := false
  tags := []
  hint := none
  relatedProblems := []
  weightmap := KeyMap.ofList [("a", Int64.maxValue), ("b", 1), ("c", -1)]

end Sample

/-- Two helpers weigh more than can be counted, and nothing follows.  The problem opens. -/
theorem Problem.isUnlockedBy_of_sum_out_of_range :
    let solved := TextSet.ofList ["a", "b"]
    (Int64.minValue < Sample.vault.threshold ∧
      NeverTurnsBack 0 (Sample.vault.weightsOf solved.toList)) ∧
    Sample.vault.isUnlockedBy solved = true ∧
    (Sample.vault.isUnlockedBy solved = true ↔ Sample.vault.weightmap.isEmpty = true ∨
      Sample.vault.threshold ≤ addAll (Sample.vault.weightsOf ["b", "a"])) := by
  intro solved
  have hthreshold : Int64.minValue < Sample.vault.threshold := by decide +kernel
  have hsum : NeverTurnsBack 0 (Sample.vault.weightsOf solved.toList) := by decide +kernel
  have hunlocked := isUnlockedBy_iff_of_neverTurnsBack (Or.inl hthreshold) hsum
  refine ⟨⟨hthreshold, hsum⟩, hunlocked.1.2 (by decide +kernel), ?_⟩
  exact hunlocked.2 ["b", "a"] (by decide +kernel) (by decide +kernel)

/-- The weights of three helpers add up to the threshold, and the problem stays shut: on the way
their sum leaves the 64-bit integers, and the last weight leads it back.  In another order it does
not leave them, and reaches the threshold. -/
theorem Problem.isUnlockedBy_of_turning_back :
    let solved := TextSet.ofList ["a", "b", "c"]
    Sample.vault.isUnlockedBy solved = false ∧ Sample.vault.weightmap.isEmpty = false ∧
      Sample.vault.exactSum solved.toList = Sample.vault.threshold.toInt ∧
      ["a", "c", "b"].Perm solved.toList ∧
      Sample.vault.threshold ≤ addAll (Sample.vault.weightsOf ["a", "c", "b"]) := by
  decide +kernel

end CaptureTheFlag
