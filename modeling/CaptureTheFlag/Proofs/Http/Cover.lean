import CaptureTheFlag.Proofs.Http.Commit
import CaptureTheFlag.Proofs.Service.Discretion

/-!
# What clients are not told

The texts of failures inside the system stay inside, and so do the reasons why a grader has no
verdict.  A request is made in two worlds that differ in nothing else, and neither the response nor
the store shows in which of the two it was.

* `Setup.Alike.respond_eq`: a request has the same program in both worlds.
* `discreet_respond`: this program does not tell alike failures apart.
* `response_of_alike`: so the response and the store are the same in both worlds.

## Where the texts end

Inside the program of an operation two failures that are alike still differ, and mostly they are
passed on.  They become equal at one place only, where a failure is turned into a response
(`Response.ofFailure_eq`).  There its kind gives the status and the code, and its public message,
which is a fixed text for every private kind, gives the rest.
-/

namespace CaptureTheFlag

open Program Http

/-! ## Two setups -/

namespace Setup.Alike

variable {setup setup' : Setup}

/-- An action has the same program under both setups. -/
theorem perform_eq (h : setup.Alike setup') (now : Int) (a : Action) :
    a.perform setup' now = a.perform setup now := by
  have hprogram : ∀ (o : Operation) (f : o.Result → Program Response),
      (o.program setup').bind f = (o.program setup).bind f := fun o f => by
    rw [h.program_eq o]
  cases a with
  | health | graders => simp only [Action.perform, h.ids]
  | createProblem doc => exact hprogram (.insert doc) _
  | importProblems text => exact hprogram (.importText text) _
  | updateProblem pid changes => exact hprogram (.update pid changes) _
  | setDisabled pid disabled => exact hprogram (.setDisabled pid disabled) _
  | gradeKey pid preview => simp only [Action.perform, h.preview_eq]
  | submit attempt => simp only [Action.perform, Pipeline.submit, h.submitNormalized_eq]
  | integrity => exact hprogram .integrity _
  | reevaluate pid => exact hprogram (.reevaluate pid) _
  | _ => rfl

/-- **A request has the same program under both setups.** -/
theorem respond_eq (h : setup.Alike setup') (now : Int) (r : Request) :
    respond setup' now r = respond setup now r := by
  unfold respond answer
  simp only [h.perform_eq]

end Setup.Alike

namespace Http

/-! ## Two failures -/

/-- A response does not show which of two alike failures it is about. -/
theorem Response.ofFailure_eq {e e' : Failure} (h : e.Alike e') : ofFailure e' = ofFailure e := by
  unfold ofFailure failureBody
  rw [h.kind_eq, h.publicMessage_eq]

/-- What an operation returns is made into a response without a call. -/
theorem discreet_render {α : Type} {p : Program α} {f : α → Response} (hp : p.Discreet) :
    (p.bind fun a => .done (.ok (f a))).Discreet :=
  Discreet.bind hp fun _ => Discreet.done _

theorem Action.discreet_perform (setup : Setup) (now : Int) (a : Action) :
    (a.perform setup now).Discreet := by
  have hdiscreet : ∀ o : Operation, (o.program setup).Discreet := fun o =>
    o.discreet_program setup
  cases a with
  | health | graders => exact Discreet.done _
  | listProblems category showDisabled => exact discreet_render (hdiscreet (.list category _))
  | createProblem doc => exact discreet_render (hdiscreet (.insert doc))
  | importProblems text => exact discreet_render (hdiscreet (.importText text))
  | searchProblems conditions => exact discreet_render (hdiscreet (.search conditions))
  | getProblem pid tid showDisabled =>
    cases tid with
    | some tid => exact discreet_render (hdiscreet (.getForTeam pid tid))
    | none => exact discreet_render (hdiscreet (.get pid showDisabled))
  | updateProblem pid changes => exact discreet_render (hdiscreet (.update pid changes))
  | deleteProblem pid => exact discreet_render (hdiscreet (.remove pid))
  | setDisabled pid disabled => exact discreet_render (hdiscreet (.setDisabled pid disabled))
  | gradeKey pid preview =>
    exact Discreet.done_bind fun _ => discreet_render (hdiscreet (.preview pid preview.key _))
  | unlockedProblems tid category =>
    exact discreet_render (hdiscreet (.unlockedProblems tid category))
  | solvedProblems tid category => exact discreet_render (hdiscreet (.solvedProblems tid category))
  | listSubmissions query correctOnly =>
    cases correctOnly with
    | true => exact discreet_render (hdiscreet (.correctSubmissions query))
    | false => exact discreet_render (hdiscreet (.submissions query))
  | submit attempt => exact discreet_render (hdiscreet (.submit now attempt))
  | integrity => exact discreet_render (hdiscreet .integrity)
  | reevaluate pid => exact discreet_render (hdiscreet (.reevaluate pid))
  | invalidate query => exact discreet_render (hdiscreet (.invalidate query))
  | clear uid tid => exact discreet_render (hdiscreet (.clear uid tid))
  | clearAll => exact discreet_render (hdiscreet .clearAll)

/-- Here a failure is turned into a response, and what was different about it is gone. -/
theorem discreet_answer (setup : Setup) (now : Int) (r : Request) :
    (answer setup now r).Discreet := by
  unfold answer
  split
  · exact Discreet.done _
  · next a _ =>
    refine (Action.discreet_perform setup now a).attempt_bind fun result result' hresult => ?_
    cases hresult with
    | ok response => exact Discreet.done _
    | error h =>
      dsimp only
      rw [Response.ofFailure_eq h]
      exact Discreet.done _

/-- **No request tells alike failures apart.** -/
theorem discreet_respond (setup : Setup) (now : Int) (r : Request) :
    (respond setup now r).Discreet :=
  Discreet.ite (Discreet.done _) (discreet_render (discreet_answer setup now r))

/-! ## Two worlds -/

/-- **What is private to the backend has no part in a response.**  The same request is made at the
same time with the same things stored.  The graders have the same verdicts on the same keys, but where
one has none the reasons may differ.  The same calls are answered in the store's place by the same
answers, but the failures among these may have different private texts.  Then there is a response, it
is the same, and so is the store behind it. -/
theorem response_of_alike {setup setup' : Setup} {is is' : Nat → Interference}
    (hsetup : setup.Alike setup') (his : ∀ n, (is n).Alike (is' n)) (now : Int) (r : Request)
    (s : Store) :
    ∃ response t, (respond setup now r).runUnder is s = (.ok response, t) ∧
      (respond setup' now r).runUnder is' s = (.ok response, t) := by
  obtain ⟨response, hresponse⟩ := fst_runUnder_of_ends (ends_respond setup now r) is s
  obtain ⟨hresults, hstores⟩ := (discreet_respond setup now r).runUnder his s
  rw [hresponse] at hresults
  rw [hsetup.respond_eq]
  refine ⟨response, ((respond setup now r).runUnder is s).2, Prod.ext hresponse rfl, ?_⟩
  -- a response that is alike to a response is the same one
  generalize (respond setup now r).runUnder is' s = out at hresults hstores ⊢
  obtain ⟨result, t⟩ := out
  cases hresults
  exact Prod.ext rfl hstores

end Http

namespace Sample

/-- The grader of the flag, which has no verdict on one key: its answer there comes too late or is a
failure. -/
def hesitant (delay : Nat) (cause : String) : Grader := fun uid? key =>
  if key = "hm" then ⟨delay, .error cause⟩ else Grader.flag {} "flag" false uid? key

def hesitantSetup (delay : Nat) (cause : String) : Setup :=
  ⟨(Registry.empty 1000).register "hidden" (hesitant delay cause), true⟩

/-- The reasons for having no verdict on the key do not count. -/
theorem alike_hesitantSetup (delay delay' : Nat) (cause cause' : String) :
    (hesitantSetup delay cause).Alike (hesitantSetup delay' cause') where
  checkGraders := rfl
  ids := rfl
  judges id uid? key v := by
    unfold Registry.Judges hesitantSetup Registry.register
    simp only [KeyMap.get?_insert]
    by_cases hid : id = "hidden"
    · by_cases hkey : key = "hm"
      · simp [hid, hkey, hesitant]
      · simp [hid, hkey, hesitant, Registry.empty]
    · simp [hid, Registry.empty]

/-- Problems cannot be listed, and the store says why. -/
def unlistable (text : String) : Interference
  | .listProblems _ => some (.error (.reported .database text))
  | _ => none

theorem alike_unlistable (text text' : String) : (unlistable text).Alike (unlistable text') := by
  intro c
  cases c with
  | listProblems _ => exact .some (.error (.covered rfl trivial))
  | _ => exact .none

/-- The identifier of the stored problem. -/
def warmup : String := Problem.pidOf "Warmup"

/-- A client asks for a verdict on that key. -/
def grading : Request :=
  ⟨"POST", "/api/v1/problems/" ++ warmup ++ "/grade", some "application/json", none,
    "\x7b\"key\": \"hm\"\x7d"⟩

theorem jsonBody_grading : jsonBody grading KeyPreview.read = .ok ⟨"hm", none⟩ := by
  have htype : (!grading.contentType.any MediaType.isJson) = false := by decide +kernel
  have hlength : ¬maxBody < grading.body.utf8ByteSize := by decide +kernel
  have htext : bodyText grading = .ok grading.body := if_neg hlength
  have htree : Json.Tree.read grading.body =
      (.object [(some "key", .string (some "hm"))] true, false) := by
    unfold Json.Tree.read Json.Token.scan
    rw [String.foldl_eq_foldl_toList]
    rfl
  have hread : Json.readText KeyPreview.read grading.body = .ok ⟨"hm", none⟩ := by
    unfold Json.readText
    rw [htree]
    rfl
  simp only [jsonBody, htype, htext, Bool.false_eq_true, if_false, Bind.bind, Except.bind, hread]
  rfl

theorem ofRequest_grading : Action.ofRequest grading = .ok (.gradeKey warmup ⟨"hm", none⟩) := by
  have hroute : Route.ofPath? grading.path = some (.problemGrade warmup) := by decide +kernel
  have hendpoint : Endpoint.ofRoute? (.problemGrade warmup) grading.effectiveMethod =
    some (.gradeKey warmup) := rfl
  have hsegment : Percent.segment? warmup = some warmup := by decide +kernel
  unfold Action.ofRequest
  simp only [hroute, hendpoint, Action.ofEndpoint, readParameter, hsegment, jsonBody_grading]
  rfl

end Sample

/-- In one world the grader is late and the store has no room, in the other the grader has lost its
file and the store cannot be reached.  In both a key is turned away with the same words, and so is a
request for the list. -/
theorem Http.response_of_grader_or_list_that_fails :
    let setup := Sample.hesitantSetup 5000 ""
    let setup' := Sample.hesitantSetup 0 "no such file: /etc/flag"
    let is : Nat → Interference := fun _ => Sample.unlistable "no space left on /var/lib"
    let is' : Nat → Interference := fun _ => Sample.unlistable "no route to 10.0.0.5"
    let listing : Request := ⟨"GET", "/api/v1/problems", none, none, ""⟩
    (setup.Alike setup' ∧ ∀ n, (is n).Alike (is' n)) ∧
    (∃ response t, response.status = 503 ∧
      (respond setup 7 Sample.grading).runUnder is Sample.store = (.ok response, t) ∧
      (respond setup' 7 Sample.grading).runUnder is' Sample.store = (.ok response, t)) ∧
    ∃ response t, response.status = 500 ∧
      (respond setup 7 listing).runUnder is Sample.store = (.ok response, t) ∧
      (respond setup' 7 listing).runUnder is' Sample.store = (.ok response, t) := by
  intro setup setup' is is' listing
  have hsetup : setup.Alike setup' := Sample.alike_hesitantSetup _ _ _ _
  have his : ∀ n, (is n).Alike (is' n) := fun _ => Sample.alike_unlistable _ _
  refine ⟨⟨hsetup, his⟩, ?_, ?_⟩
  · have hstatus : (((respond setup 7 Sample.grading).runUnder is Sample.store).1.map
        (·.status)).toOption = some 503 := by
      unfold respond answer
      rw [Sample.ofRequest_grading]
      decide +kernel
    obtain ⟨response, t, hrun, hrun'⟩ := response_of_alike hsetup his 7 Sample.grading Sample.store
    rw [hrun] at hstatus
    exact ⟨response, t, Option.some.inj hstatus, hrun, hrun'⟩
  · have hstatus : (((respond setup 7 listing).runUnder is Sample.store).1.map
        (·.status)).toOption = some 500 := by
      decide +kernel
    obtain ⟨response, t, hrun, hrun'⟩ := response_of_alike hsetup his 7 listing Sample.store
    rw [hrun] at hstatus
    exact ⟨response, t, Option.some.inj hstatus, hrun, hrun'⟩

end CaptureTheFlag
