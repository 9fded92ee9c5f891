import CaptureTheFlag.Proofs.Service.Frame
import CaptureTheFlag.Proofs.Store.Listing
import CaptureTheFlag.Proofs.Submission.Uniqueness

/-!
# A query means the same wherever it is asked

What a query finds, what is invalidated by it and what is cleared by it are the same submissions.

* `Submission.retracted`: a submission that is not correct any more.
* `Store.retracting`, `Store.clearedOf`: the store with some submissions retracted or removed.
* `Upkeep.run_correctSubmissions`, `Upkeep.run_invalidate`, `Upkeep.run_clear`: what becomes of each
  use of a query, told from what the query finds.
* `selection_of_query`: a query is listed, listed with its correct submissions only, invalidated and
  cleared, and all four go by one list.

## Verdicts are not asked for

A query says nothing about verdicts.  So it finds the same submissions after they have been
invalidated, and it does not matter that only the correct ones are touched: what is not correct is
left as it is by either account.  The correct submissions of a listing are found by a filter of their
own, and that they come in the order of the listing is that there is one listing of them.
-/

namespace CaptureTheFlag

open Program

namespace Submission

variable {x : Submission}

/-- The same submission, not correct. -/
def retracted (x : Submission) : Submission := { x with correct := false }

/-- What a query matches does not depend on verdicts. -/
theorem selects_retracted (q : Query) (x : Submission) :
    q.toFilter.selects x.retracted = q.toFilter.selects x := rfl

theorem retracted_eq_self (h : x.correct = false) : x.retracted = x := by
  unfold retracted
  rw [← h]

theorem map_retracted_mergeSort (l : List Submission) :
    (l.mergeSort before).map retracted = (l.map retracted).mergeSort before :=
  List.map_mergeSort fun _ _ _ _ => rfl

end Submission

namespace Store

open Submission (Query)

variable {s : Store}

/-- No submission is stored twice. -/
theorem HasProperSubmissions.nodup (hs : s.HasProperSubmissions) : s.submissions.Nodup :=
  hs.distinct.imp fun {x y} hxy hsame => hxy (by rw [hsame]; exact ⟨rfl, rfl, rfl⟩)

/-- What a query finds is the listing of what it matches. -/
theorem isListing_of_query (hs : s.submissions.Nodup) (q : Query) :
    IsListing (Submission.Precedes s.submissions) s.submissions q.Matches
      (s.submissionsWhere q.toFilter) :=
  (isListing_submissionsWhere hs _).congr fun _ => Query.selects_toFilter_iff

/-- The store with some of its submissions not correct any more. -/
def retracting (s : Store) (found : List Submission) : Store :=
  { s with submissions := s.submissions.map fun x => if x ∈ found then x.retracted else x }

/-- The store with some of its submissions removed. -/
def clearedOf (s : Store) (found : List Submission) : Store :=
  { s with submissions := s.submissions.filter (· ∉ found) }

/-- The number of submissions that a filter selects is that of the submissions found for it. -/
theorem countP_submissionsWhere (s : Store) (f : Submission.Filter) (keep : Submission → Bool) :
    (s.submissionsWhere f).countP keep =
      s.submissions.countP fun x => keep x && f.selects x :=
  ((List.mergeSort_perm _ _).countP_eq keep).trans List.countP_filter

/-- After the submissions of a query have been made incorrect, the query finds the same, incorrect. -/
theorem submissionsWhere_retracting (s : Store) (q : Query) :
    (s.retracting (s.submissionsWhere q.toFilter)).submissionsWhere q.toFilter =
      (s.submissionsWhere q.toFilter).map Submission.retracted := by
  have hstep : ∀ x ∈ s.submissions,
      (if x ∈ s.submissionsWhere q.toFilter then x.retracted else x) =
        if q.toFilter.selects x then x.retracted else x := by
    intro x hx
    simp only [s.mem_submissionsWhere, hx, true_and]
  have hselects : (q.toFilter.selects ∘ fun x => if q.toFilter.selects x then x.retracted else x) =
      q.toFilter.selects := by
    funext x
    rw [Function.comp_apply]
    split
    · exact Submission.selects_retracted q x
    · rfl
  have hfiltered : (s.retracting (s.submissionsWhere q.toFilter)).submissions.filter
      q.toFilter.selects = (s.submissions.filter q.toFilter.selects).map Submission.retracted := by
    unfold retracting
    rw [List.map_congr_left hstep, List.filter_map, hselects]
    exact List.map_congr_left fun x hx => if_pos (List.mem_filter.1 hx).2
  unfold submissionsWhere at hfiltered ⊢
  rw [hfiltered]
  exact (Submission.map_retracted_mergeSort _).symm

end Store

/-! ## Queries -/

namespace Upkeep

open Submission (Query)

variable {s : Store} {q : Query}

theorem run_submissions (q : Query) (s : Store) :
    (submissions q).run .none s = (.ok (s.submissionsWhere q.toFilter), s) := rfl

/-- Its correct submissions are the correct ones of what the query finds. -/
theorem run_correctSubmissions (hs : s.submissions.Nodup) (hq : q.hasOwner = true) :
    (correctSubmissions q).run .none s =
      (.ok ((s.submissionsWhere q.toFilter).filter (·.correct)), s) := by
  have hlisted : IsListing (Submission.Precedes s.submissions) s.submissions
      (fun x => q.Matches x ∧ x.correct = true)
      (s.submissionsWhere (q.toFilter.withVerdict true)) :=
    (Store.isListing_submissionsWhere hs _).congr fun _ => Query.selects_withVerdict_iff
  have hpart := (s.isListing_of_query hs q).filter (·.correct)
  have hprogram : correctSubmissions q =
      .ask (.findSubmissions (q.toFilter.withVerdict true)) .done := if_pos hq
  rw [hprogram, ← hlisted.unique hpart]
  rfl

/-- The submissions that the query finds are made incorrect; those of them that were correct count. -/
theorem run_invalidate (q : Query) (s : Store) :
    (invalidate q).run .none s = (.ok ((s.submissionsWhere q.toFilter).countP (·.correct)),
      s.retracting (s.submissionsWhere q.toFilter)) := by
  have hcount : s.submissions.countP (q.toFilter.withVerdict true).selects =
      (s.submissionsWhere q.toFilter).countP (·.correct) := by
    rw [s.countP_submissionsWhere]
    refine List.countP_congr fun x _ => ?_
    rw [Query.selects_withVerdict_iff, Bool.and_eq_true, Query.selects_toFilter_iff, and_comm]
  have hverdicts : ∀ x ∈ s.submissions,
      (if (q.toFilter.withVerdict true).selects x then x.retracted else x) =
        if x ∈ s.submissionsWhere q.toFilter then x.retracted else x := by
    intro x hx
    have hfound : x ∈ s.submissionsWhere q.toFilter ↔ q.Matches x := by
      rw [s.mem_submissionsWhere, Query.selects_toFilter_iff]
      exact and_iff_right hx
    by_cases hmatches : q.Matches x
    · rw [if_pos (hfound.2 hmatches)]
      cases hcorrect : x.correct with
      | true => exact if_pos (Query.selects_withVerdict_iff.2 ⟨hmatches, hcorrect⟩)
      | false => rw [Submission.retracted_eq_self hcorrect, ite_self]
    · rw [if_neg (mt hfound.1 hmatches)]
      exact if_neg fun hselects => hmatches (Query.selects_withVerdict_iff.1 hselects).1
  have hsubmissions := List.map_congr_left hverdicts
  show (Except.ok (s.submissions.countP (q.toFilter.withVerdict true).selects),
    (s.setCorrect (q.toFilter.withVerdict true) false).2) = _
  rw [hcount]
  exact congrArg (Prod.mk _) (congrArg (Store.mk s.problems · s.users) hsubmissions)

/-- Nothing is left to be invalidated. -/
theorem run_invalidate_again (q : Query) (s : Store) :
    (invalidate q).run .none (s.retracting (s.submissionsWhere q.toFilter)) =
      (.ok 0, s.retracting (s.submissionsWhere q.toFilter)) := by
  have hcount : ((s.submissionsWhere q.toFilter).map Submission.retracted).countP (·.correct) = 0 := by
    rw [List.countP_map, List.countP_eq_zero]
    exact fun x _ => Bool.false_ne_true
  have hstays : (s.retracting (s.submissionsWhere q.toFilter)).retracting
      ((s.submissionsWhere q.toFilter).map Submission.retracted) =
      s.retracting (s.submissionsWhere q.toFilter) := by
    refine congrArg (Store.mk s.problems · s.users) ?_
    refine (List.map_congr_left fun x _ => ?_).trans (List.map_id _)
    split
    · next hx =>
      obtain ⟨y, -, rfl⟩ := List.mem_map.1 hx
      rfl
    · rfl
  rw [run_invalidate, s.submissionsWhere_retracting, hcount, hstays]

/-- Clearing removes what a query for the same user and team finds. -/
theorem run_clear (uid tid : Option String) (s : Store) :
    let q : Query := { uid, tid }
    (clear uid tid).run .none s =
      if q.hasOwner then
        (.ok (s.submissionsWhere q.toFilter).length, s.clearedOf (s.submissionsWhere q.toFilter))
      else (.error .ownerless, s) := by
  intro q
  have hcleared (f : Submission.Filter) : s.deleteSubmissions f =
      ((s.submissionsWhere f).length, s.clearedOf (s.submissionsWhere f)) := by
    refine Prod.ext ?_ (congrArg (Store.mk s.problems · s.users) (List.filter_congr fun x hx => ?_))
    · show s.submissions.countP f.selects = (List.mergeSort _ _).length
      rw [List.length_mergeSort, List.countP_eq_length_filter]
    · simp [s.mem_submissionsWhere, hx]
  -- the precedence of a user over a team is the same here as in the query
  cases uid with
  | some uid => exact congrArg (fun out => (Except.ok out.1, out.2)) (hcleared (.forUser uid))
  | none =>
    cases tid with
    | some tid => exact congrArg (fun out => (Except.ok out.1, out.2)) (hcleared (.forTeam tid))
    | none => rfl

end Upkeep

/-! ## All uses of a query -/

open Submission (Precedes Query)

/-- **A query means the same wherever it is asked.**  In every store that operations under way at once
lead to, there is one list of the submissions that a query matches, each once and in order.  The query
finds this list, and the correct submissions of it when these are wanted of a user or a team.  When
the query is invalidated, the correct ones of the list are counted; then the query finds the list with
all of it incorrect, the others are as they were, and to invalidate it again changes nothing.  When
the submissions of a user or a team are cleared, the list is counted and removed, and the others stay
in their order. -/
theorem selection_of_query {s : Store} {threads : List Thread} (hw : World.Reachable ⟨s, threads⟩)
    (q : Query) :
    ∃ found, IsListing (Precedes s.submissions) s.submissions q.Matches found ∧
      (Upkeep.submissions q).run .none s = (.ok found, s) ∧
      (Upkeep.correctSubmissions q).run .none s =
        (if q.hasOwner then (.ok (found.filter (·.correct)), s) else (.error .ownerless, s)) ∧
      (Upkeep.invalidate q).run .none s =
        (.ok (found.countP (·.correct)), s.retracting found) ∧
      (Upkeep.submissions q).run .none (s.retracting found) =
        (.ok (found.map Submission.retracted), s.retracting found) ∧
      (Upkeep.invalidate q).run .none (s.retracting found) = (.ok 0, s.retracting found) ∧
      (q.pid = none → q.category = none →
        (Upkeep.clear q.uid q.tid).run .none s =
          if q.hasOwner then (.ok found.length, s.clearedOf found)
          else (.error .ownerless, s)) := by
  have hs : s.submissions.Nodup :=
    (Store.isInvariant_hasProperSubmissions.of_reachable hw).nodup
  refine ⟨s.submissionsWhere q.toFilter,
    Store.isListing_of_query hs q,
    Upkeep.run_submissions q s, ?_, Upkeep.run_invalidate q s, ?_,
    Upkeep.run_invalidate_again q s, ?_⟩
  · cases howner : q.hasOwner with
    | true => exact Upkeep.run_correctSubmissions hs howner
    | false =>
      unfold Upkeep.correctSubmissions
      rw [howner]
      rfl
  · rw [Upkeep.run_submissions, s.submissionsWhere_retracting]
  · obtain ⟨pid, uid, tid, category⟩ := q
    rintro rfl rfl
    exact Upkeep.run_clear uid tid s

namespace Sample

/-- One user has sent in keys for two teams, and the clock has gone back before the last of them. -/
def tiedStore : Store :=
  let submit (now : Int) (tid key : String) (s : Store) : Store :=
    ((Operation.submit now { attempt with tid, key }).program setup |>.run .none s).2
  store |> submit 7 "red" "glaf" |> submit 7 "blue" "flag" |> submit 5 "red" "flag"

theorem served_tiedStore : tiedStore.Served :=
  Store.Served.operation _ _ (.operation _ _ (.operation _ _ served_store))

/-- The submissions in the order of their listing. -/
def ties : List Submission :=
  [⟨"ada", "red", Problem.pidOf "Warmup", "flag", 5, none, "misc", true⟩,
    ⟨"ada", "red", Problem.pidOf "Warmup", "glaf", 7, none, "misc", false⟩,
    ⟨"ada", "blue", Problem.pidOf "Warmup", "flag", 7, none, "misc", true⟩]

end Sample

/-- A query names a user and a team that most of the user's submissions are not of.  It is about all
submissions of the user; two of them are of one time. -/
theorem selection_of_query_of_ties :
    let s := Sample.tiedStore
    let q : Query := ⟨none, some "ada", some "blue", none⟩
    (∃ threads, World.Reachable ⟨s, threads⟩) ∧
      (Upkeep.submissions q).run .none s = (.ok Sample.ties, s) ∧
      ((Upkeep.invalidate q).run .none s).1 = .ok 2 ∧
      (Upkeep.clear (some "ada") (some "blue")).run .none s =
        (.ok 3, s.clearedOf Sample.ties) := by
  intro s q
  obtain ⟨threads, hw⟩ := Sample.served_tiedStore.exists_world
  obtain ⟨found, hlisted, hfound, -, hinvalidated, -, -, hcleared⟩ := selection_of_query hw q
  have hperm : Sample.ties.Perm s.submissions := by decide +kernel
  have hmatches : ∀ x ∈ s.submissions, q.Matches x := by
    have hselected : ∀ x ∈ s.submissions, q.toFilter.selects x = true := by decide +kernel
    exact fun x hx => Query.selects_toFilter_iff.1 (hselected x hx)
  have hties : IsListing (Precedes s.submissions) s.submissions q.Matches Sample.ties :=
    ⟨fun x => hperm.mem_iff.trans (and_iff_left_of_imp (hmatches x)).symm, by decide +kernel,
      by decide +kernel⟩
  obtain rfl := hlisted.unique hties
  exact ⟨⟨threads, hw⟩, hfound, congrArg Prod.fst hinvalidated, hcleared rfl rfl⟩

end CaptureTheFlag
