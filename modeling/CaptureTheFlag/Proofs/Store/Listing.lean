import CaptureTheFlag.Proofs.Problem.ReadBack
import Mathlib.Data.List.Basic

/-!
# What the store lists

The store finds problems and submissions for a filter, and sorts what it has found.  What it returns
is a listing: it has all that is stored and selected, each once, and in an order without ties.

* `IsListing`: a list has all that is stored of a kind, each once, in a strict order.
* `IsListing.unique`: there is one such list.
* `Problem.Precedes`: problems are listed by score and then by name.
* `Submission.Precedes`: submissions are listed by time and then as they came in.
* `Store.isListing_problemsWhere`, `Store.isListing_submissionsWhere`: what the store returns.

## Where ties are broken

Sorting alone leaves ties.  Two problems with one score have different names, because no two stored
problems have one name; this is an invariant of the service, and holds at all times.  Two submissions
of one time are told apart by their places in the store, and they keep their order because sorting is
stable.  From here on neither sorting nor stability is needed: a list is what it is listed to be.
-/

namespace CaptureTheFlag

/-! ## Listings -/

section Listings

variable {α : Type} {precedes : α → α → Prop} {stored stored' found found' : List α}
  {P P' : α → Prop}

/-- The list has all that is stored of a kind, each once, in this order. -/
structure IsListing (precedes : α → α → Prop) (stored : List α) (P : α → Prop) (found : List α) :
    Prop where
  mem_iff : ∀ x, x ∈ found ↔ x ∈ stored ∧ P x
  nodup : found.Nodup
  inOrder : found.Pairwise precedes

namespace IsListing

/-- Listings in a strict order are told from what they have. -/
theorem eq_of_mem_iff [Std.Asymm precedes] (h : IsListing precedes stored P found)
    (h' : IsListing precedes stored' P' found') (hmem : ∀ x, x ∈ found ↔ x ∈ found') :
    found = found' :=
  ((List.perm_ext_iff_of_nodup h.nodup h'.nodup).2 hmem).eq_of_pairwise
    (fun x y _ _ hxy hyx => absurd hyx (Std.Asymm.asymm x y hxy)) h.inOrder h'.inOrder

/-- **There is one listing** of what is stored of a kind. -/
theorem unique [Std.Asymm precedes] (h : IsListing precedes stored P found)
    (h' : IsListing precedes stored P found') : found = found' :=
  h.eq_of_mem_iff h' fun x => (h.mem_iff x).trans (h'.mem_iff x).symm

theorem congr (h : IsListing precedes stored P found) (hP : ∀ x, P x ↔ P' x) :
    IsListing precedes stored P' found :=
  ⟨fun x => (h.mem_iff x).trans (and_congr_right fun _ => hP x), h.nodup, h.inOrder⟩

/-- A part of a listing is the listing of a part. -/
theorem filter (h : IsListing precedes stored P found) (keep : α → Bool) :
    IsListing precedes stored (fun x => P x ∧ keep x = true) (found.filter keep) where
  mem_iff x := by rw [List.mem_filter, h.mem_iff, and_assoc]
  nodup := h.nodup.filter keep
  inOrder := h.inOrder.filter keep

end IsListing

end Listings

/-! ## Problems -/

namespace Problem

/-- A problem is listed before another: it is worth less, or as much and its name comes first. -/
def Precedes (p q : Problem) : Prop := p.score < q.score ∨ p.score = q.score ∧ p.name < q.name

theorem before_iff (p q : Problem) :
    p.before q = true ↔ p.score < q.score ∨ p.score = q.score ∧ p.name ≤ q.name := by
  unfold before
  rw [Bool.or_eq_true, Bool.and_eq_true, decide_eq_true_eq, decide_eq_true_eq, decide_eq_true_eq]

theorem before_trans (p q r : Problem) (hpq : p.before q = true) (hqr : q.before r = true) :
    p.before r = true := by
  rw [before_iff] at *
  rcases hpq with hpq | ⟨hpq, hname⟩
  · rcases hqr with hqr | ⟨hqr, -⟩
    · exact Or.inl (Int64.lt_trans hpq hqr)
    · exact Or.inl (hqr ▸ hpq)
  · rcases hqr with hqr | ⟨hqr, hname'⟩
    · exact Or.inl (hpq ▸ hqr)
    · exact Or.inr ⟨hpq.trans hqr, String.le_trans hname hname'⟩

theorem before_total (p q : Problem) : (p.before q || q.before p) = true := by
  rw [Bool.or_eq_true, before_iff, before_iff]
  by_cases hlt : p.score < q.score
  · exact Or.inl (Or.inl hlt)
  by_cases hgt : q.score < p.score
  · exact Or.inr (Or.inl hgt)
  have hsame : p.score = q.score := by
    rw [Int64.lt_iff_toInt_lt] at hlt hgt
    exact Int64.toInt_inj.1 (by omega)
  rcases String.le_total p.name q.name with hname | hname
  · exact Or.inl (Or.inr ⟨hsame, hname⟩)
  · exact Or.inr (Or.inr ⟨hsame.symm, hname⟩)

/-- The order is strict where names are different. -/
theorem precedes_of_before {p q : Problem} (h : p.before q = true) (hname : p.name ≠ q.name) :
    p.Precedes q :=
  ((before_iff p q).1 h).imp_right fun ⟨hscore, hle⟩ =>
    ⟨hscore, String.not_le.1 fun hge => hname (String.le_antisymm hle hge)⟩

instance : Std.Asymm Precedes where
  asymm p q hpq hqp := by
    unfold Precedes at hpq hqp
    rw [Int64.lt_iff_toInt_lt] at hpq hqp
    rcases hpq with hpq | ⟨hscore, hpq⟩
    · rcases hqp with hqp | ⟨hscore, -⟩
      · omega
      · rw [hscore] at hpq
        exact Int.lt_irrefl _ hpq
    · rcases hqp with hqp | ⟨-, hqp⟩
      · rw [hscore] at hqp
        exact Int.lt_irrefl _ hqp
      · exact String.lt_irrefl _ (String.lt_trans hpq hqp)

end Problem

namespace Store

/-- No problem is stored twice. -/
theorem WellKeyed.nodup_values {s : Store} (hs : s.WellKeyed) : s.problems.values.Nodup := by
  have hpid : ∀ e ∈ s.problems.entries, e.2.pid = e.1 := fun e he =>
    hs e.1 e.2 ((s.problems.mem_entries_iff e.1 e.2).1 he)
  refine List.pairwise_map.2 (s.problems.ascending.imp_of_mem fun {e e'} he he' hlt hsame => ?_)
  rw [← hpid e he, ← hpid e' he', hsame] at hlt
  exact String.lt_irrefl _ hlt

/-- **What the store finds is the listing of the problems that the filter selects.** -/
theorem isListing_problemsWhere {s : Store} (hs : s.HasReadableProblems) (f : Problem.Filter) :
    IsListing Problem.Precedes s.problems.values (fun p => f.selects p = true)
      (s.problemsWhere f) := by
  have hsorted : (s.problemsWhere f).Pairwise fun p q => p.before q = true :=
    List.pairwise_mergeSort Problem.before_trans Problem.before_total _
  have hnodup : (s.problemsWhere f).Nodup :=
    (List.mergeSort_perm _ _).nodup_iff.2 (hs.wellKeyed.nodup_values.filter f.selects)
  refine ⟨s.mem_problemsWhere f, hnodup, ?_⟩
  refine (hsorted.and hnodup).imp_of_mem fun {p q} hp hq hpq => ?_
  refine Problem.precedes_of_before hpq.1 fun hname => hpq.2 ?_
  exact hs.eq_of_name_eq p ((s.mem_problemsWhere f p).1 hp).1 q ((s.mem_problemsWhere f q).1 hq).1
    hname

end Store

/-! ## Pairs in a list -/

section Pairs

variable {α : Type} [BEq α] [LawfulBEq α] {l : List α} {x y : α}

/-- What stands before something else has the smaller index. -/
theorem idxOf_lt_of_sublist (hl : l.Nodup) (h : [x, y].Sublist l) : l.idxOf x < l.idxOf y := by
  induction l with
  | nil => cases h
  | cons z r ih =>
    obtain ⟨hz, hr⟩ := List.nodup_cons.1 hl
    rcases List.cons_sublist_cons'.1 h with hrest | ⟨rfl, hy⟩
    · have hx : z ≠ x := fun hsame => hz (hsame ▸ hrest.subset (by simp))
      have hy : z ≠ y := fun hsame => hz (hsame ▸ hrest.subset (by simp))
      rw [List.idxOf_cons_ne _ hx, List.idxOf_cons_ne _ hy]
      exact Nat.succ_lt_succ (ih hr hrest)
    · have hy : x ≠ y := fun hsame => hz (hsame ▸ List.singleton_sublist.1 hy)
      rw [List.idxOf_cons_self, List.idxOf_cons_ne _ hy]
      exact Nat.succ_pos _

theorem sublist_of_idxOf_lt (hx : x ∈ l) (hy : y ∈ l) (h : l.idxOf x < l.idxOf y) :
    [x, y].Sublist l := by
  induction l with
  | nil => cases hx
  | cons z r ih =>
    have hne : z ≠ y := by
      rintro rfl
      rw [List.idxOf_cons_self] at h
      exact Nat.not_lt_zero _ h
    have hy' : y ∈ r := (List.mem_cons.1 hy).resolve_left hne.symm
    by_cases hsame : z = x
    · rw [hsame]
      exact (List.singleton_sublist.2 hy').cons_cons x
    · have hx' : x ∈ r := (List.mem_cons.1 hx).resolve_left (Ne.symm hsame)
      rw [List.idxOf_cons_ne _ hsame, List.idxOf_cons_ne _ hne] at h
      exact (ih hx' hy' (Nat.lt_of_succ_lt_succ h)).cons z

end Pairs

/-! ## Submissions -/

namespace Submission

variable {stored : List Submission}

/-- A submission is listed before another: it is earlier, or it came in first at the same time. -/
def Precedes (stored : List Submission) (x y : Submission) : Prop :=
  x.time < y.time ∨ x.time = y.time ∧ stored.idxOf x < stored.idxOf y

instance (x y : Submission) : Decidable (Precedes stored x y) :=
  inferInstanceAs (Decidable (_ ∨ _ ∧ _))

instance : Std.Asymm (Precedes stored) where
  asymm x y hxy hyx := by
    unfold Precedes at hxy hyx
    omega

theorem before_trans (x y z : Submission) (hxy : x.before y = true) (hyz : y.before z = true) :
    x.before z = true :=
  decide_eq_true (Int.le_trans (of_decide_eq_true hxy) (of_decide_eq_true hyz))

theorem before_total (x y : Submission) : (x.before y || y.before x) = true := by
  rw [Bool.or_eq_true]
  exact (Int.le_total x.time y.time).imp decide_eq_true decide_eq_true

end Submission

/-- **What the store finds is the listing of the submissions that the filter selects**, if none is
stored twice.  Two submissions of one time stay in their order because sorting is stable. -/
theorem Store.isListing_submissionsWhere {s : Store} (hs : s.submissions.Nodup)
    (f : Submission.Filter) :
    IsListing (Submission.Precedes s.submissions) s.submissions (fun x => f.selects x = true)
      (s.submissionsWhere f) := by
  have hsorted : (s.submissionsWhere f).Pairwise fun x y => x.before y = true :=
    List.pairwise_mergeSort Submission.before_trans Submission.before_total _
  have hnodup : (s.submissionsWhere f).Nodup :=
    (List.mergeSort_perm _ _).nodup_iff.2 (hs.filter f.selects)
  refine ⟨s.mem_submissionsWhere f, hnodup, List.pairwise_iff_forall_sublist.2 fun {x y} hxy => ?_⟩
  have hindex := idxOf_lt_of_sublist hnodup hxy
  have htime : x.time ≤ y.time :=
    of_decide_eq_true (List.pairwise_iff_forall_sublist.1 hsorted hxy)
  refine (Int.lt_or_eq_of_le htime).imp_right fun hsame => ⟨hsame, ?_⟩
  by_contra hlate
  obtain ⟨hx, hfx⟩ := (s.mem_submissionsWhere f x).1 (hxy.subset (by simp))
  obtain ⟨hy, hfy⟩ := (s.mem_submissionsWhere f y).1 (hxy.subset (by simp))
  -- if the later one had come in first, it would have stayed first
  have hne : s.submissions.idxOf x ≠ s.submissions.idxOf y := by
    rw [Ne, List.idxOf_inj hx]
    rintro rfl
    exact Nat.lt_irrefl _ hindex
  have hstored : [y, x].Sublist s.submissions := sublist_of_idxOf_lt hy hx (by omega)
  have hselected : [y, x].Sublist (s.submissions.filter f.selects) := by
    have hpair := hstored.filter f.selects
    rwa [List.filter_eq_self.2 (by simp [hfx, hfy])] at hpair
  have hfound : [y, x].Sublist (s.submissionsWhere f) :=
    List.pair_sublist_mergeSort Submission.before_trans Submission.before_total
      (decide_eq_true (Int.le_of_eq hsame.symm)) hselected
  exact Nat.lt_asymm hindex (idxOf_lt_of_sublist hnodup hfound)

end CaptureTheFlag
