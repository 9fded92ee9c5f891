import CaptureTheFlag.Proofs.Http.Cover
import CaptureTheFlag.Proofs.Json.ReadBack
import CaptureTheFlag.Proofs.Program.Failures
import CaptureTheFlag.Proofs.Text.Blank

/-!
# Which keys are refused

A key may be sent in for a verdict that is not stored, or as an attempt.  Both refuse a key of
improper length in the same words.  But an attempt is stripped of the blanks around its key first,
and a key that is only previewed is not.

* `Failure.SparesInput`: a failure that is not about the input.
* `Pipeline.failsAs_preview`, `Pipeline.failsAs_submit`: behind the check of the lengths nothing is
  said about the input.
* `Http.previewed_eq_keyRefusal_iff`, `Http.submitted_eq_keyRefusal_iff`: when a key is refused.
* `Sample.ofRequest_previewing`, `Sample.ofRequest_sending`: every key can be sent in both ways, if
  the body is not too long.
* `Http.key_refused_alike_iff`: for which keys the two agree.
* `Http.blank_key_refused_once`: for blanks alone they do not.

## Where the answer is decided

The check comes first, and what it refuses does not reach the store.  What it passes may fail in
many ways, in the store, at a gate or at the grader.  None of these failures is one of the input
(`Program.FailsAs`), so no answer to a proper key has the status of a refusal, whatever is stored
and whatever fails on the way.
-/

namespace CaptureTheFlag

open Program

/-! ## Failures behind the check -/

/-- The failure is not about the input. -/
def Failure.SparesInput (e : Failure) : Prop := e.kind ≠ .validation

/-- The status of a refusal is for faults of the input only. -/
theorem Failure.SparesInput.status_ne {e : Failure} (h : e.SparesInput) : e.kind.status ≠ 400 := by
  unfold SparesInput at h
  cases hk : e.kind with
  | validation => exact absurd hk h
  | _ => decide

/-- The store itself never blames the input. -/
theorem Call.sparesInput {c : Call} {s : Store} {e : Failure} (h : (c.perform s).1 = .error e) :
    e.SparesInput := by
  unfold Failure.SparesInput
  rcases Call.alreadyExists_or_notFound h with hk | hk <;>
  · rw [hk]
    decide

namespace Progress

variable {A : Failure → Prop}

theorem failsAs_solvedPids (tid : String) (category : Option String) :
    (solvedPids tid category).FailsAs A :=
  .bind (.call _) fun _ => .pure _

theorem failsAs_unlockedPids (tid : String) (category : Option String) :
    (unlockedPids tid category).FailsAs A := by
  refine .bind (.bind (failsAs_solvedPids tid none) fun solved => ?_) fun _ => .pure _
  exact .bind (.call _) fun _ => .pure _

end Progress

theorem Lifecycle.failsAs_find (pid : String) : (find pid).FailsAs Failure.SparesInput := by
  refine .bind (.call _) fun p? => ?_
  cases p? with
  | some p => exact .pure p
  | none => exact .fail fun h => by cases h

namespace Pipeline

theorem failsAs_judge (setup : Setup) (p : Problem) (uid? : Option String) (key : String) :
    (Program.done (judge setup p uid? key)).FailsAs Failure.SparesInput := by
  unfold judge
  split
  · exact .pure _
  · exact .fail fun h => by cases h

/-- A preview does not say anything about the input. -/
theorem failsAs_preview (setup : Setup) (pid key : String) (uid? : Option String) :
    (preview setup pid key uid?).FailsAs Failure.SparesInput :=
  .bind (Lifecycle.failsAs_find pid) fun p => failsAs_judge setup p uid? key

theorem failsAs_checkUnlocked (tid pid : String) :
    (checkUnlocked tid pid).FailsAs Failure.SparesInput := by
  refine .bind (Progress.failsAs_unlockedPids tid none) fun unlocked => ?_
  split
  · exact .pure _
  · exact .fail fun h => by cases h

theorem failsAs_checkUnsolved (tid pid : String) :
    (checkUnsolved tid pid).FailsAs Failure.SparesInput := by
  refine .bind (Progress.failsAs_solvedPids tid none) fun solved => ?_
  split
  · exact .fail fun h => by cases h
  · exact .pure _

theorem failsAs_resolveUser (uid : String) :
    (resolveUser uid).FailsAs Failure.SparesInput := by
  refine .bind (.call _) fun user? => ?_
  cases user? with
  | some user => exact .pure user
  | none => exact .fail fun h => by cases h

theorem failsAs_checkUntried (a : Attempt) :
    (checkUntried a).FailsAs Failure.SparesInput := by
  refine .bind (.call _) fun earlier => ?_
  split
  · exact .pure _
  · exact .fail fun h => by cases h

theorem sparesInput_triedIfStored {e : Failure} (h : e.SparesInput) :
    (triedIfStored e).SparesInput := by
  unfold triedIfStored
  split
  · exact fun h => by cases h
  · exact h

/-- Behind the check of its lengths an attempt does not meet anything that is about the input. -/
theorem failsAs_submit (setup : Setup) (now : Int) {a : Attempt} (h : a.normalized.IsProper) :
    (submit setup now a).FailsAs Failure.SparesInput := by
  unfold submit submitNormalized
  simp only [bind_eq, lift_eq, pure_eq]
  rw [a.normalized.check_eq_ok_iff.2 h, done_ok_bind]
  refine .bind (failsAs_checkUnlocked _ _) fun _ => .bind (failsAs_checkUnsolved _ _) fun _ => ?_
  refine .bind (failsAs_resolveUser _) fun user => .bind (failsAs_checkUntried _) fun _ => ?_
  refine .bind (Lifecycle.failsAs_find _) fun p => .bind (failsAs_judge setup p _ _) fun v => ?_
  exact .bind (.mapFailure (.call _) fun _ he => sparesInput_triedIfStored he) fun _ => .pure _

end Pipeline

namespace Http

/-! ## From actions to responses -/

/-- The endpoint takes a key. -/
def Endpoint.TakesKey : Endpoint → Prop
  | .gradeKey _ | .createSubmission => True
  | _ => False

/-- The action is about a key. -/
def Action.IsOnKey : Action → Prop
  | .gradeKey _ _ | .submit _ => True
  | _ => False

theorem Action.takesKey_of_ofEndpoint (r : Request) (e : Endpoint) :
    Refusable.Yields (fun a => a.IsOnKey → e.TakesKey) (Action.ofEndpoint r e) := by
  cases e with
  | gradeKey raw => exact .bind fun _ => .bind fun _ => .pure fun _ => trivial
  | createSubmission =>
    unfold Action.ofEndpoint
    dsimp only
    split
    · exact .error 500
    · exact .bind fun _ => .pure fun _ => trivial
  | health | integrity | graders | clearAll => exact .pure False.elim
  | listProblems | listSubmissions => exact .bind fun _ => .bind fun _ => .pure False.elim
  | unlockedProblems raw | solvedProblems raw =>
    exact .bind fun _ => .bind fun _ => .pure False.elim
  | updateProblem raw | setDisabled raw => exact .bind fun _ => .bind fun _ => .pure False.elim
  | getProblem raw => exact .bind fun _ => .bind fun _ => .bind fun _ => .pure False.elim
  | createProblem | importProblems | searchProblems => exact .bind fun _ => .pure False.elim
  | deleteProblem raw | reevaluate raw => exact .bind fun _ => .pure False.elim
  | invalidate | clear => exact .bind fun _ => .pure False.elim

theorem Endpoint.method_of_takesKey {route : Route} {method : String} {e : Endpoint}
    (h : Endpoint.ofRoute? route method = some e) (he : e.TakesKey) : method = "POST" := by
  unfold Endpoint.ofRoute? at h
  split at h <;> cases h <;> first | rfl | exact he.elim

/-- Keys are posted. -/
theorem Action.method_of_isOnKey {r : Request} {a : Action} (h : Action.ofRequest r = .ok a)
    (ha : a.IsOnKey) : r.method = "POST" := by
  unfold Action.ofRequest at h
  split at h
  · cases h
  · split at h
    · cases h
    · next e he =>
      have htakes : e.TakesKey := Action.takesKey_of_ofEndpoint r e a h ha
      exact Request.method_of_effectiveMethod (Endpoint.method_of_takesKey he htakes)

/-! ## Responses about keys -/

/-- What a client is told whose key is refused. -/
def keyRefusal : Response := .ofFailure (.badAttempt [.key])

theorem keyRefusal_eq :
    keyRefusal = ⟨400, some (.ofFields [("error", .ofFields [
      ("code", .string "VALIDATION_ERROR"),
      ("message", .string "key: This does not look like a valid key.")])])⟩ := rfl

section Responses

variable {setup : Setup} {now : Int} {r : Request} {a : Action}

/-- A request on a key gets its response, and not the head of one alone. -/
theorem respond_of_isOnKey (h : Action.ofRequest r = .ok a) (ha : a.IsOnKey) :
    respond setup now r = (answer setup now r).bind fun response => .done (.ok response) := by
  have hmethod : r.method = "POST" := Action.method_of_isOnKey h ha
  have hoptions : r.method ≠ "OPTIONS" := by
    rw [hmethod]
    decide
  have hhead : r.method ≠ "HEAD" := by
    rw [hmethod]
    decide
  unfold respond
  rw [if_neg hoptions]
  simp only [if_neg hhead, bind_eq, pure_eq]

/-- An action that fails at once is answered with its failure. -/
theorem respond_of_error (h : Action.ofRequest r = .ok a) (ha : a.IsOnKey) {e : Failure}
    (hperform : a.perform setup now = .done (.error e)) :
    respond setup now r = .done (.ok (.ofFailure e)) := by
  rw [respond_of_isOnKey h ha]
  unfold answer
  rw [h]
  dsimp only
  rw [hperform]
  rfl

/-- An operation that says nothing about the input is not answered with a refusal. -/
theorem endsAmong_respond (h : Action.ofRequest r = .ok a) (ha : a.IsOnKey) {α : Type}
    {p : Program α} {f : α → Response}
    (hperform : a.perform setup now = p.bind fun v => .done (.ok (f v)))
    (hp : p.FailsAs Failure.SparesInput) (hf : ∀ v, (f v).status ≠ 400) :
    (respond setup now r).EndsAmong Failure.SparesInput
      fun result => ∀ response, result = .ok response → response.status ≠ 400 := by
  have hrendered : (p.bind fun v => .done (.ok (f v))).EndsAmong Failure.SparesInput
      fun result => (∀ response, result = .ok response → response.status ≠ 400) ∧
        ∀ e, result = .error e → e.SparesInput := by
    refine .bind hp (fun v _ => .done ⟨?_, ?_⟩) fun e he => ⟨?_, ?_⟩
    · intro response hresponse
      cases hresponse
      exact hf v
    · intro e he
      cases he
    · intro response hresponse
      cases hresponse
    · intro e' he'
      cases he'
      exact he e rfl
  rw [respond_of_isOnKey h ha]
  unfold answer
  rw [h]
  dsimp only
  rw [hperform]
  refine .bind (Q := fun result => ∀ response, result = .ok response → response.status ≠ 400)
    (.attempt_bind hrendered fun result hresult => ?_) (fun response hresponse => .done ?_) ?_
  · cases result with
    | ok response =>
      refine .done fun response' hsame => ?_
      cases hsame
      exact hresult.1 response rfl
    | error e =>
      refine .done fun response' hsame => ?_
      cases hsame
      exact (hresult.2 e rfl).status_ne
  · exact hresponse
  · intro e _ response hresponse
    cases hresponse

/-- No run of such a request ends with a refusal. -/
theorem ne_keyRefusal_of_endsAmong {is : Nat → Interference} {s : Store} {p : Program Response}
    (hp : p.EndsAmong Failure.SparesInput
      fun result => ∀ response, result = .ok response → response.status ≠ 400)
    (his : ∀ n c e, is n c = some (.error e) → e.SparesInput) :
    (p.runUnder is s).1 ≠ .ok keyRefusal := by
  intro hrefused
  have hstatus := fst_runUnder_of_endsAmong hp his (fun _ _ _ => Call.sparesInput) s
  exact hstatus keyRefusal hrefused rfl

end Responses

section Refusals

variable {is : Nat → Interference} {r : Request} (setup : Setup) (now : Int) (s : Store)

/-- **A preview refuses a key by the length it has.** -/
theorem previewed_eq_keyRefusal_iff
    (his : ∀ n c e, is n c = some (.error e) → e.SparesInput) {pid : String} {preview : KeyPreview}
    (h : Action.ofRequest r = .ok (.gradeKey pid preview)) :
    ((respond setup now r).runUnder is s).1 = .ok keyRefusal ↔
      ¬(1 ≤ preview.key.length ∧ preview.key.length ≤ Attempt.maxLength) := by
  rw [← Attempt.isKey_iff]
  by_cases hkey : Attempt.isKey preview.key = true
  · have hcheck : preview.check = .ok () := if_pos hkey
    have hperform : Action.perform setup now (.gradeKey pid preview) =
        (Pipeline.preview setup pid preview.key preview.uid).bind fun v =>
          .done (.ok (.ok v.toJson)) := by
      unfold Action.perform
      simp only [bind_eq, lift_eq, pure_eq, hcheck, done_ok_bind]
    have hends := endsAmong_respond h trivial hperform
      (Pipeline.failsAs_preview setup pid preview.key preview.uid)
      fun v => Nat.ne_of_lt (Response.status_ok v.toJson)
    exact iff_of_false (ne_keyRefusal_of_endsAmong hends his) (not_not.2 hkey)
  · have hcheck : preview.check = .error (.badAttempt [.key]) := if_neg hkey
    have hperform : Action.perform setup now (.gradeKey pid preview) =
        .done (.error (.badAttempt [.key])) := by
      unfold Action.perform
      simp only [bind_eq, lift_eq, hcheck]
      rfl
    rw [respond_of_error h trivial hperform]
    exact iff_of_true rfl hkey

/-- **An attempt is refused for its key by the length that is left of it.** -/
theorem submitted_eq_keyRefusal_iff
    (his : ∀ n c e, is n c = some (.error e) → e.SparesInput) {a : Attempt}
    (h : Action.ofRequest r = .ok (.submit a)) (htid : a.tid.length ≤ Attempt.maxLength)
    (hpid : a.pid.length ≤ Attempt.maxLength) :
    ((respond setup now r).runUnder is s).1 = .ok keyRefusal ↔
      ¬(1 ≤ (Text.trim a.key).length ∧ (Text.trim a.key).length ≤ Attempt.maxLength) := by
  by_cases hkey : 1 ≤ (Text.trim a.key).length ∧ (Text.trim a.key).length ≤ Attempt.maxLength
  · have hproper : a.normalized.IsProper := ⟨hkey.1, hkey.2, hpid, htid⟩
    have hperform : Action.perform setup now (.submit a) =
        (Pipeline.submit setup now a).bind fun v => .done (.ok (.created v.toJson)) := rfl
    have hends := endsAmong_respond h trivial hperform (Pipeline.failsAs_submit setup now hproper)
      fun v => Nat.ne_of_lt (Response.status_created v.toJson)
    exact iff_of_false (ne_keyRefusal_of_endsAmong hends his) (not_not.2 hkey)
  · have hbad : a.normalized.badFields = [.key] := by
      have hnot : Attempt.isKey (Text.trim a.key) = false := by
        rw [← Bool.not_eq_true, Attempt.isKey_iff]
        exact hkey
      simp [Attempt.badFields, hnot, hpid, htid]
    have hcheck : a.normalized.check = .error (.badAttempt [.key]) := by
      unfold Attempt.check
      rw [hbad]
    have hperform : Action.perform setup now (.submit a) =
        .done (.error (.badAttempt [.key])) := by
      unfold Action.perform Pipeline.submit Pipeline.submitNormalized
      simp only [bind_eq, lift_eq, hcheck]
      rfl
    rw [respond_of_error h trivial hperform]
    exact iff_of_true rfl hkey

end Refusals

/-! ## Requests that carry a key -/

theorem read_keyPreview (key : String) :
    KeyPreview.read (.object ([("key", key)].map Json.Tree.ofText) true) = .ok ⟨key, none⟩ := by
  simp [KeyPreview.read, Json.Tree.readRecord, Json.Tree.readFields, Json.Tree.ofText,
    Json.Tree.readString, Json.Tree.required, KeyMap.contains, Bind.bind, Except.bind, pure,
    Except.pure]

theorem readAttempt_of_texts (client : Address) (tid pid key uid : String) :
    readAttempt client (.object
      ([("tid", tid), ("pid", pid), ("key", key), ("uid", uid)].map Json.Tree.ofText) true) =
      .ok ⟨tid, pid, key, uid, some client.text⟩ := by
  simp [readAttempt, Json.Tree.readRecord, Json.Tree.readFields, Json.Tree.ofText,
    Json.Tree.readString, Json.Tree.required, KeyMap.contains, Bind.bind, Except.bind, pure,
    Except.pure]

/-- A body that is sent as JSON and is an object of texts. -/
theorem jsonBody_of_texts {α : Type} {r : Request} {fields : List (String × String)}
    (hbody : r.body = Json.render (Json.ofTexts fields))
    (htype : r.contentType = some "application/json")
    (hlength : r.body.utf8ByteSize ≤ maxBody) {read : Json.Tree → Except Json.Fault α} {a : α}
    (hread : read (.object (fields.map Json.Tree.ofText) true) = .ok a) :
    jsonBody r read = .ok a := by
  have hjson : r.contentType.any MediaType.isJson = true := by
    rw [htype]
    show MediaType.isJson "application/json" = true
    decide +kernel
  have htext : bodyText r = .ok (Json.render (Json.ofTexts fields)) := by
    rw [← hbody]
    exact if_neg (Nat.not_lt.2 hlength)
  have hvalue : Json.readText read (Json.render (Json.ofTexts fields)) = .ok a := by
    unfold Json.readText
    rw [Json.Tree.read_render_texts]
    dsimp only
    rw [hread]
    rfl
  unfold jsonBody
  simp only [hjson, Bool.not_true, Bool.false_eq_true, if_false, htext, Bind.bind, Except.bind,
    hvalue]
  rfl

end Http

namespace Sample

open Http

/-- A client asks for a verdict on the key. -/
def previewing (key : String) : Request :=
  ⟨"POST", "/api/v1/problems/" ++ warmup ++ "/grade", some "application/json", none,
    Json.render (Json.ofTexts [("key", key)])⟩

def address : Address := .v4 [10, 0, 0, 7]

/-- A client sends the key in. -/
def sending (key : String) : Request :=
  ⟨"POST", "/api/v1/submissions", some "application/json", some address,
    Json.render (Json.ofTexts [("tid", "red"), ("pid", warmup), ("key", key), ("uid", "ada")])⟩

theorem ofRequest_previewing {key : String}
    (h : (previewing key).body.utf8ByteSize ≤ maxBody) :
    Action.ofRequest (previewing key) = .ok (.gradeKey warmup ⟨key, none⟩) := by
  have hroute : Route.ofPath? (previewing key).path = some (.problemGrade warmup) := by
    show Route.ofPath? (Request.splitTarget ("/api/v1/problems/" ++ warmup ++ "/grade")).1 = _
    decide +kernel
  have hendpoint : Endpoint.ofRoute? (.problemGrade warmup) (previewing key).effectiveMethod =
    some (.gradeKey warmup) := rfl
  have hsegment : Percent.segment? warmup = some warmup := by decide +kernel
  have hbody : jsonBody (previewing key) KeyPreview.read = .ok ⟨key, none⟩ :=
    jsonBody_of_texts rfl rfl h (read_keyPreview key)
  unfold Action.ofRequest
  simp only [hroute, hendpoint, Action.ofEndpoint, readParameter, hsegment, hbody]
  rfl

theorem ofRequest_sending {key : String} (h : (sending key).body.utf8ByteSize ≤ maxBody) :
    Action.ofRequest (sending key) =
      .ok (.submit ⟨"red", warmup, key, "ada", some address.text⟩) := by
  have hroute : Route.ofPath? (sending key).path = some .submissions := by
    show Route.ofPath? (Request.splitTarget "/api/v1/submissions").1 = _
    decide +kernel
  have hendpoint : Endpoint.ofRoute? .submissions (sending key).effectiveMethod =
    some .createSubmission := rfl
  have hclient : (sending key).client = some address := rfl
  have hbody : jsonBody (sending key) (readAttempt address) =
      .ok ⟨"red", warmup, key, "ada", some address.text⟩ :=
    jsonBody_of_texts rfl rfl h (readAttempt_of_texts address "red" warmup key "ada")
  unfold Action.ofRequest
  simp only [hroute, hendpoint, Action.ofEndpoint, hclient, hbody]
  rfl

end Sample

namespace Http

/-! ## Agreement -/

/-- Whether the text is a key does not depend on the blanks around it. -/
structure KeepsLength (key : String) : Prop where
  /-- Blanks alone, few enough to pass for a key, are stripped to nothing. -/
  not_blank : ¬((∀ c ∈ key.toList, Text.isBlank c = true) ∧ 1 ≤ key.length ∧
    key.length ≤ Attempt.maxLength)
  /-- A text that is too long may be a key without its blanks. -/
  not_padded : ¬(Attempt.maxLength < key.length ∧ 1 ≤ (Text.trim key).length ∧
    (Text.trim key).length ≤ Attempt.maxLength)

theorem length_trim_eq_zero_iff (key : String) :
    (Text.trim key).length = 0 ↔ ∀ c ∈ key.toList, Text.isBlank c = true := by
  rw [← Text.trim_eq_empty_iff, String.length_eq_zero_iff]

/-- The length before and the length after decide alike for these texts and no others. -/
theorem keepsLength_iff (key : String) :
    KeepsLength key ↔ (¬(1 ≤ key.length ∧ key.length ≤ Attempt.maxLength) ↔
      ¬(1 ≤ (Text.trim key).length ∧ (Text.trim key).length ≤ Attempt.maxLength)) := by
  have hle : (Text.trim key).length ≤ key.length := Text.length_trim_le key
  have hblank := length_trim_eq_zero_iff key
  constructor
  · rintro ⟨hnot_blank, hnot_padded⟩
    rw [← hblank] at hnot_blank
    omega
  · intro h
    refine ⟨?_, ?_⟩
    · rw [← hblank]
      omega
    · omega

/-- **Which keys the two refuse alike.**  The same key is sent in for a preview and in an attempt,
the identifiers of team and problem are not too long, and whatever fails on the way does not blame
the input.  The preview is refused if the key is empty or too long, and the attempt if what is left
of the key is.  So the two agree exactly if the blanks around the key do not matter. -/
theorem key_refused_alike_iff {is is' : Nat → Interference}
    (his : ∀ n c e, is n c = some (.error e) → e.SparesInput)
    (his' : ∀ n c e, is' n c = some (.error e) → e.SparesInput) {r r' : Request}
    {pid tid pid' key uid : String} {uid? ip : Option String}
    (h : Action.ofRequest r = .ok (.gradeKey pid ⟨key, uid?⟩))
    (h' : Action.ofRequest r' = .ok (.submit ⟨tid, pid', key, uid, ip⟩))
    (htid : tid.length ≤ Attempt.maxLength) (hpid : pid'.length ≤ Attempt.maxLength)
    (setup : Setup) (now now' : Int) (s s' : Store) :
    let previewed := ((respond setup now r).runUnder is s).1
    let submitted := ((respond setup now' r').runUnder is' s').1
    (previewed = .ok keyRefusal ↔ ¬(1 ≤ key.length ∧ key.length ≤ Attempt.maxLength)) ∧
    (submitted = .ok keyRefusal ↔
      ¬(1 ≤ (Text.trim key).length ∧ (Text.trim key).length ≤ Attempt.maxLength)) ∧
    ((previewed = .ok keyRefusal ↔ submitted = .ok keyRefusal) ↔ KeepsLength key) := by
  intro previewed submitted
  have hpreviewed := previewed_eq_keyRefusal_iff setup now s his h
  have hsubmitted := submitted_eq_keyRefusal_iff setup now' s' his' h' htid hpid
  exact ⟨hpreviewed, hsubmitted, (iff_congr hpreviewed hsubmitted).trans (keepsLength_iff key).symm⟩

/-- A key with a blank on either side is refused neither time. -/
theorem padded_key_accepted_twice :
    let r := Sample.previewing " flag "
    let r' := Sample.sending " flag "
    Action.ofRequest r = .ok (.gradeKey Sample.warmup ⟨" flag ", none⟩) ∧
      Action.ofRequest r' =
        .ok (.submit ⟨"red", Sample.warmup, " flag ", "ada", some Sample.address.text⟩) ∧
      KeepsLength " flag " ∧
      ((respond Sample.setup 7 r).runUnder (fun _ => .none) Sample.store).1 ≠ .ok keyRefusal ∧
      ((respond Sample.setup 8 r').runUnder (fun _ => .none) Sample.store).1 ≠ .ok keyRefusal := by
  intro r r'
  have hr : Action.ofRequest r = .ok (.gradeKey Sample.warmup ⟨" flag ", none⟩) :=
    Sample.ofRequest_previewing (by decide +kernel)
  have hr' : Action.ofRequest r' =
      .ok (.submit ⟨"red", Sample.warmup, " flag ", "ada", some Sample.address.text⟩) :=
    Sample.ofRequest_sending (by decide +kernel)
  have hnone : ∀ (n : Nat) (c : Call) (e : Failure),
      Interference.none c = some (.error e) → e.SparesInput := by
    intro n c e h
    cases h
  obtain ⟨hpreviewed, hsubmitted, hagree⟩ := key_refused_alike_iff hnone hnone hr hr' (by decide)
    (by decide +kernel) Sample.setup 7 8 Sample.store Sample.store
  have hkey : 1 ≤ (" flag " : String).length ∧ (" flag " : String).length ≤ Attempt.maxLength := by
    decide
  have htrimmed : 1 ≤ (Text.trim " flag ").length ∧
      (Text.trim " flag ").length ≤ Attempt.maxLength := by decide +kernel
  refine ⟨hr, hr', hagree.1 ?_, fun h => hpreviewed.1 h hkey, fun h => hsubmitted.1 h htrimmed⟩
  rw [hpreviewed, hsubmitted]
  exact iff_of_false (not_not.2 hkey) (not_not.2 htrimmed)

/-- A key of one blank has a verdict when it is previewed, and is refused when it is sent in. -/
theorem blank_key_refused_once :
    let r := Sample.previewing " "
    let r' := Sample.sending " "
    let previewed := ((respond Sample.setup 7 r).run .none Sample.store).1
    let submitted := ((respond Sample.setup 8 r').run .none Sample.store).1
    Action.ofRequest r = .ok (.gradeKey Sample.warmup ⟨" ", none⟩) ∧
      Action.ofRequest r' =
        .ok (.submit ⟨"red", Sample.warmup, " ", "ada", some Sample.address.text⟩) ∧
      (previewed.map (·.status)).toOption = some 200 ∧ submitted = .ok keyRefusal ∧
      ¬(previewed = .ok keyRefusal ↔ submitted = .ok keyRefusal) := by
  intro r r' previewed submitted
  have hr : Action.ofRequest r = .ok (.gradeKey Sample.warmup ⟨" ", none⟩) :=
    Sample.ofRequest_previewing (by decide +kernel)
  have hr' : Action.ofRequest r' =
      .ok (.submit ⟨"red", Sample.warmup, " ", "ada", some Sample.address.text⟩) :=
    Sample.ofRequest_sending (by decide +kernel)
  have hpreviewed : (previewed.map (·.status)).toOption = some 200 := by
    show (((respond Sample.setup 7 r).run .none Sample.store).1.map (·.status)).toOption = some 200
    unfold respond answer
    rw [hr]
    decide +kernel
  have hsubmitted : submitted = .ok keyRefusal := by
    show ((respond Sample.setup 8 r').run .none Sample.store).1 = _
    rw [run_eq_runUnder]
    refine (submitted_eq_keyRefusal_iff Sample.setup 8 Sample.store (fun _ _ _ h => by cases h) hr'
      (by decide) (by decide +kernel)).2 ?_
    decide +kernel
  refine ⟨hr, hr', hpreviewed, hsubmitted, fun hiff => ?_⟩
  rw [hiff.2 hsubmitted] at hpreviewed
  cases hpreviewed

end Http

end CaptureTheFlag
