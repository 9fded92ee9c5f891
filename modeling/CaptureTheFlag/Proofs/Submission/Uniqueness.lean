import CaptureTheFlag.Proofs.Service.World

/-!
# Stored attempts are different and proper

No team has sent in a key twice for one problem, and whatever is stored has passed the check of an
attempt: its key is stripped, not empty and not too long, and neither its team nor its problem has
too long an identifier.

* `Submission.IsProper`: a submission has passed the check.
* `Store.HasProperSubmissions`: all have, and no two are the same attempt.
* `Store.isInvariant_hasProperSubmissions`: this is an invariant of the service.

The two halves come from different places.  That two submissions differ is seen to by the store
itself, which compares and appends within one call.  So it does not matter that several operations
may have found a key untried before any of them inserts it.  That a submission is proper is seen to
before the call, by the only operation that inserts submissions: it strips the key first, checks
what it has stripped, and inserts what it has checked.
-/

namespace CaptureTheFlag

/-! ## Proper submissions -/

/-- The submission's key is stripped, and its parts have a proper length. -/
structure Submission.IsProper (x : Submission) : Prop where
  trim_key : Text.trim x.key = x.key
  one_le_key : 1 ≤ x.key.length
  key_le : x.key.length ≤ Attempt.maxLength
  pid_le : x.pid.length ≤ Attempt.maxLength
  tid_le : x.tid.length ≤ Attempt.maxLength

/-- A stripped attempt that passes the check makes a proper submission. -/
theorem Pipeline.isProper_record {a : Attempt} (h : a.normalized.check = .ok ()) (now : Int)
    (p : Problem) (v : Verdict) : (record now a.normalized p v).IsProper := by
  have hproper : a.normalized.IsProper := a.normalized.check_eq_ok_iff.1 h
  refine ⟨?_, hproper.one_le_key, hproper.key_le, hproper.pid_le, hproper.tid_le⟩
  show Text.trim a.normalized.key = a.normalized.key
  rw [Attempt.normalized_key, Text.trim_trim]

/-- Setting a verdict does not touch what makes a submission proper. -/
theorem Submission.IsProper.setCorrect {x : Submission} (h : x.IsProper) (correct : Bool) :
    ({ x with correct } : Submission).IsProper :=
  ⟨h.trim_key, h.one_le_key, h.key_le, h.pid_le, h.tid_le⟩

/-! ## Different attempts -/

/-- The submissions are different attempts, and all of them are proper. -/
structure Store.HasProperSubmissions (s : Store) : Prop where
  distinct : s.submissions.Pairwise fun x y => ¬(x.tid = y.tid ∧ x.pid = y.pid ∧ x.key = y.key)
  proper : ∀ x ∈ s.submissions, x.IsProper

namespace Store.HasProperSubmissions

variable {s : Store}

theorem of_submissions_eq (hs : s.HasProperSubmissions) {s' : Store}
    (h : s'.submissions = s.submissions) : s'.HasProperSubmissions := by
  refine ⟨?_, ?_⟩
  · rw [h]
    exact hs.distinct
  · rw [h]
    exact hs.proper

/-- The store compares and appends at once, so what it appends is a new attempt. -/
theorem insertSubmission (hs : s.HasProperSubmissions) {x : Submission} (hx : x.IsProper) :
    (Store.insertSubmission x s).2.HasProperSubmissions := by
  rcases Store.insertSubmission_cases x s with ⟨-, hrefused⟩ | ⟨hnew, hstored⟩
  · rw [hrefused]
    exact hs
  · rw [hstored]
    refine ⟨?_, fun y hy => ?_⟩
    · refine List.pairwise_append.2 ⟨hs.distinct, List.pairwise_singleton _ _, ?_⟩
      intro y hy z hz hsame
      rw [List.mem_singleton.1 hz, ← Submission.sameAttempt_iff, hnew y hy] at hsame
      cases hsame
    · rcases List.mem_append.1 hy with hy | hy
      · exact hs.proper y hy
      · rw [List.mem_singleton.1 hy]
        exact hx

/-- A verdict is no part of an attempt. -/
theorem setCorrect (hs : s.HasProperSubmissions) (f : Submission.Filter) (correct : Bool) :
    (Store.setCorrect f correct s).2.HasProperSubmissions := by
  refine ⟨?_, fun y hy => ?_⟩
  · refine List.pairwise_map.2 (hs.distinct.imp fun {x y} hxy => ?_)
    split <;> split <;> exact hxy
  · obtain ⟨x, hx, rfl⟩ := List.mem_map.1 hy
    split
    · exact (hs.proper x hx).setCorrect correct
    · exact hs.proper x hx

theorem deleteSubmissions (hs : s.HasProperSubmissions) (f : Submission.Filter) :
    (Store.deleteSubmissions f s).2.HasProperSubmissions :=
  ⟨hs.distinct.filter _, fun y hy => hs.proper y (List.mem_filter.1 hy).1⟩

/-- A call keeps the submissions different and proper if it inserts none but proper ones. -/
theorem perform (hs : s.HasProperSubmissions) {c : Call}
    (hc : ∀ x, c = .insertSubmission x → x.IsProper) : (c.perform s).2.HasProperSubmissions := by
  by_cases hw : c.WritesSubmissions
  · cases c with
    | insertSubmission x => exact hs.insertSubmission (hc x rfl)
    | setCorrect f correct => exact hs.setCorrect f correct
    | deleteSubmissions f => exact hs.deleteSubmissions f
    | _ => exact hw.elim
  · exact hs.of_submissions_eq (Call.submissions_perform hw s)

end Store.HasProperSubmissions

/-- What is stored of attempts is an invariant of the service. -/
theorem Store.isInvariant_hasProperSubmissions : IsInvariant HasProperSubmissions where
  empty := ⟨List.Pairwise.nil, fun x hx => by cases hx⟩
  addUser _ _ hs := hs.of_submissions_eq rfl
  perform setup o c s hc hs := by
    refine hs.perform fun x hx => ?_
    subst hx
    obtain ⟨now, a, p, v, -, hcheck, rfl⟩ := hc
    exact Pipeline.isProper_record hcheck now p v

/-- **No two stored submissions are the same attempt, and all are proper**: in every store that
operations lead to one after another, and in every store that the calls of operations under way at
once lead to, in whatever order they come. -/
theorem properSubmissions_of_served_or_reachable :
    (∀ s : Store, s.Served → s.HasProperSubmissions) ∧
      ∀ w : World, w.Reachable → w.store.HasProperSubmissions :=
  ⟨fun _ hs => Store.isInvariant_hasProperSubmissions.of_served hs,
    fun _ hw => Store.isInvariant_hasProperSubmissions.of_reachable hw⟩

/-- One attempt is made twice.  First one way is gone after the other; then both are under way at
once, and the second overtakes the first.  One submission is stored, with its key stripped. -/
theorem properSubmissions_of_attempt_made_twice :
    let attempt := Operation.submit 7 Sample.attempt
    let s := ((attempt.program Sample.setup).run .none
      ((attempt.program Sample.setup).run .none Sample.store).2).2
    s.submissions.map (·.key) = ["flag"] ∧ (s.Served ∧ s.HasProperSubmissions) ∧
      ∃ threads, World.Reachable ⟨s, threads⟩ ∧
        (World.mk s threads).store.HasProperSubmissions := by
  intro attempt s
  have hserved : s.Served := .operation _ attempt (.operation _ attempt Sample.served_store)
  obtain ⟨threads, hw⟩ := Sample.served_store.exists_world
  obtain ⟨threads', hw'⟩ := hw.overtake Sample.setup attempt attempt
  exact ⟨by decide +kernel,
    ⟨hserved, properSubmissions_of_served_or_reachable.1 s hserved⟩,
    threads', hw', properSubmissions_of_served_or_reachable.2 _ hw'⟩

end CaptureTheFlag
