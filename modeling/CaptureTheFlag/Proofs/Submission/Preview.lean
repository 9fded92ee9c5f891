import CaptureTheFlag.Proofs.Submission.Steadiness
import CaptureTheFlag.Proofs.Text.Blank

/-!
# A preview says what an attempt would come to

A preview asks the grader of a problem about a key and stores nothing.  An attempt asks the same
grader, but only once all gates are open, and about a key that has been stripped.

* `Pipeline.run_preview`: a preview is one question to the grader.
* `Pipeline.preview_eq_of_trim_eq`, `Pipeline.submit_eq_of_trim_eq`: the blanks around a key do not
  count.
* `preview_of_submitted`: a preview agrees with the attempt.

## Why the registry must come from definitions

The key of an attempt is stripped before the gates; the key of a preview is not, and each grader
strips it by itself.  A grader that compares keys with all their blanks would tell the two apart
(`Grader.rehearsed` does).  None of the graders that can be defined does so
(`Grader.Definition.grades_eq_of_trim_eq`), whatever it compares the key with.
-/

namespace CaptureTheFlag

open Program

namespace Pipeline

variable {timeout : Nat} {ds : List Grader.Definition} {setup : Setup}

/-! ## The blanks around a key -/

theorem judge_eq_of_trim_eq (hr : Registry.ofDefinitions timeout ds = .ok setup.registry)
    (p : Problem) (uid? : Option String) {key key' : String}
    (hkey : Text.trim key = Text.trim key') : judge setup p uid? key = judge setup p uid? key' := by
  unfold judge
  rw [Registry.grade_eq_of_trim_eq hr p.grader uid? hkey]

/-- A preview does not depend on the blanks around the key. -/
theorem preview_eq_of_trim_eq (hr : Registry.ofDefinitions timeout ds = .ok setup.registry)
    (pid : String) (uid? : Option String) {key key' : String}
    (hkey : Text.trim key = Text.trim key') :
    preview setup pid key uid? = preview setup pid key' uid? := by
  unfold preview
  simp only [judge_eq_of_trim_eq hr _ uid? hkey]

/-- An attempt does not depend on the blanks around the key, whatever the graders are: it goes its
whole way with the key stripped. -/
theorem submit_eq_of_trim_eq (setup : Setup) (now : Int) (a : Attempt) {key : String}
    (hkey : Text.trim key = Text.trim a.key) :
    submit setup now { a with key } = submit setup now a := by
  have hnormalized : { a with key }.normalized = a.normalized := by
    unfold Attempt.normalized
    rw [hkey]
  unfold submit
  rw [hnormalized]

/-! ## One question to the grader -/

/-- A preview of a key for a stored problem is what the problem's grader says about it. -/
theorem run_preview {s : Store} {pid : String} {p : Problem} (hp : s.problem? pid = some p)
    (setup : Setup) (key : String) (uid? : Option String) :
    (preview setup pid key uid?).run .none s = (judge setup p uid? key, s) := by
  unfold preview
  rw [bind_eq]
  rcases Lifecycle.run_find s pid with ⟨hnone, -⟩ | ⟨q, hq, hrun⟩
  · rw [hp] at hnone
    cases hnone
  · obtain rfl : p = q := Option.some.inj (hp.symm.trans hq)
    rw [run_bind_of_ok hrun]
    cases judge setup p uid? key with
    | ok v => rfl
    | error e => rfl

/-- The verdict on the stripped key of an attempt is the verdict on the key as it was sent in. -/
theorem run_preview_normalized (hr : Registry.ofDefinitions timeout ds = .ok setup.registry)
    {s : Store} {a : Attempt} {p : Problem} (hp : s.problem? a.pid = some p) :
    (preview setup a.pid a.key (some a.uid)).run .none s =
      (judge setup p (some a.uid) a.normalized.key, s) := by
  have hkey : Text.trim a.key = Text.trim a.normalized.key := by
    rw [a.normalized_key, Text.trim_trim]
  rw [preview_eq_of_trim_eq hr a.pid (some a.uid) hkey, run_preview hp]

end Pipeline

open Pipeline in
/-- **A preview says what an attempt would come to.**  In a reachable store, under a registry of
definitions, let a key be sent in.  If there is a result, a preview of the key for the user, as it
was sent in, has the same verdict with the same message.  If no grader is available, neither is one
for the preview, and the failure is the same.  In both cases the preview leaves the store as it is.
Blanks around the key make no difference: with any of them, the attempt does just the same, and so
does a preview for any problem and any user. -/
theorem preview_of_submitted {timeout : Nat} {ds : List Grader.Definition} {setup : Setup}
    (hr : Registry.ofDefinitions timeout ds = .ok setup.registry) {s : Store} (hs : s.Reachable)
    (now : Int) (a : Attempt) :
    (∀ result s', (submit setup now a).run .none s = (.ok result, s') →
      (preview setup a.pid a.key (some a.uid)).run .none s =
        (.ok ⟨result.correct, result.message⟩, s)) ∧
    (∀ e s', (submit setup now a).run .none s = (.error e, s') → e.kind = .graderUnavailable →
      (preview setup a.pid a.key (some a.uid)).run .none s = (.error e, s)) ∧
    ∀ u v : String, (∀ c ∈ u.toList, Text.isBlank c = true) →
      (∀ c ∈ v.toList, Text.isBlank c = true) →
      submit setup now { a with key := u ++ a.key ++ v } = submit setup now a ∧
        ∀ pid uid?, preview setup pid (u ++ a.key ++ v) uid? = preview setup pid a.key uid? := by
  have houtcome := outcome_submitNormalized hs setup now a.normalized
  refine ⟨fun result s' hrun => ?_, fun e s' hrun hkind => ?_, fun u v hu hv => ?_⟩
  · unfold submit at hrun
    rw [hrun] at houtcome
    cases houtcome with
    | @judged _ p hopen hpid _ _ _ v hjudges =>
      have hp : s.problem? a.pid = some p := hpid ▸ hs.problem?_of_mem hopen.stored
      rw [run_preview_normalized hr hp]
      unfold judge
      rw [(Registry.grade_eq_ok_iff _ _ (some a.uid) _ v).2 hjudges]
  · unfold submit at hrun
    rw [hrun] at houtcome
    cases houtcome with
    | @offline _ p hopen hpid _ _ _ hsilent =>
      have hp : s.problem? a.pid = some p := hpid ▸ hs.problem?_of_mem hopen.stored
      rw [run_preview_normalized hr hp]
      rcases judge_cases setup p (some a.uid) a.normalized.key with ⟨-, hjudge⟩ | ⟨v, hv, -⟩
      · rw [hjudge]
      · exact absurd hv (hsilent v)
    -- the other failures are of other kinds
    | _ => cases hkind
  · have hkey := Text.trim_append_of_blank a.key hu hv
    exact ⟨submit_eq_of_trim_eq setup now a hkey,
      fun pid uid? => preview_eq_of_trim_eq hr pid uid? hkey⟩

/-- The right flag, between blanks, is judged correct by both; and where no grader is defined, both
fail. -/
theorem preview_of_padded_flag :
    let s := Sample.store
    let a := Sample.attempt
    let offline : Setup := ⟨.empty 1000, true⟩
    (∃ result s', (Pipeline.submit Sample.definedSetup 7 a).run .none s = (.ok result, s') ∧
      (Pipeline.preview Sample.definedSetup a.pid a.key (some a.uid)).run .none s =
        (.ok ⟨result.correct, result.message⟩, s) ∧ result.correct = true) ∧
    (∃ e s', (Pipeline.submit offline 7 a).run .none s = (.error e, s') ∧
      e.kind = .graderUnavailable ∧
      (Pipeline.preview offline a.pid a.key (some a.uid)).run .none s = (.error e, s)) ∧
    Pipeline.submit Sample.definedSetup 7 { a with key := "\u2003" ++ a.key ++ "\t\n" } =
      Pipeline.submit Sample.definedSetup 7 a := by
  intro s a offline
  have hs : s.Reachable := Sample.served_store.reachable
  obtain ⟨hcorrect, -, hblank⟩ := preview_of_submitted Sample.ofDefinitions_definitions hs 7 a
  have hempty : Registry.ofDefinitions 1000 [] = .ok offline.registry := rfl
  obtain ⟨-, hoffline, -⟩ := preview_of_submitted hempty hs 7 a
  have hbefore : ∀ c ∈ "\u2003".toList, Text.isBlank c = true :=
    List.all_eq_true.1 (by decide +kernel)
  have hafter : ∀ c ∈ "\t\n".toList, Text.isBlank c = true :=
    List.all_eq_true.1 (by decide +kernel)
  refine ⟨?_, ?_, (hblank "\u2003" "\t\n" hbefore hafter).1⟩
  · have hresult : ((Pipeline.submit Sample.definedSetup 7 a).run .none s).1.toOption =
        some ⟨true, 50, "Correct!"⟩ := by decide +kernel
    cases hrun : (Pipeline.submit Sample.definedSetup 7 a).run .none s with
    | mk out s' =>
      rw [hrun] at hresult
      cases out with
      | ok result =>
        refine ⟨result, s', rfl, hcorrect result s' hrun, ?_⟩
        rw [Option.some.inj hresult]
      | error e => cases hresult
  · have hfailed : (match ((Pipeline.submit offline 7 a).run .none s).1 with
        | .ok _ => none
        | .error e => some e) = some (.graderOffline "Warmup") := by decide +kernel
    cases hrun : (Pipeline.submit offline 7 a).run .none s with
    | mk out s' =>
      rw [hrun] at hfailed
      cases out with
      | ok result => cases hfailed
      | error e =>
        obtain rfl := Option.some.inj hfailed
        exact ⟨_, s', rfl, rfl, hoffline _ s' hrun rfl⟩

end CaptureTheFlag
