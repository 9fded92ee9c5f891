import CaptureTheFlag.Http.Api
import CaptureTheFlag.Proofs.Service.Commit
import CaptureTheFlag.Proofs.Service.World
import CaptureTheFlag.Store.Faults

/-!
# Requests that are refused have changed nothing

What holds of operations is carried over to requests.  A request changes the store by way of one
operation, and its status tells whether that operation has succeeded.

* `Action.kind_ofRequest`: a request for a page is turned into an action that only looks things up,
  and no request but one to import is turned into an import.
* `Action.calls_perform`, `Action.commits_perform`: what the two kinds of actions do to the store.
* `commits_respond`: once a request has changed the store its status is that of a success, unless it
  is an import.
* `ends_respond`: there is always a response.

The methods and the paths come in only through `Action.kind_ofRequest`.  A request that has no
action does not reach the store.
-/

namespace CaptureTheFlag.Http

open Program

/-! ## Kinds of requests, endpoints and actions -/

/-- The request is one to import problems. -/
def Request.IsImport (r : Request) : Prop :=
  r.method = "POST" ∧ Route.ofPath? r.path = some .importing

/-- The endpoint only looks things up. -/
def Endpoint.IsRead : Endpoint → Prop
  | .health | .listProblems | .searchProblems | .getProblem _ | .gradeKey _ | .unlockedProblems _
  | .solvedProblems _ | .listSubmissions | .integrity | .graders => True
  | _ => False

/-- The action only looks things up. -/
def Action.IsRead : Action → Prop
  | .health | .listProblems _ _ | .searchProblems _ | .getProblem _ _ _ | .gradeKey _ _
  | .unlockedProblems _ _ | .solvedProblems _ _ | .listSubmissions _ _ | .integrity | .graders =>
    True
  | _ => False

/-- The action is an import of problems. -/
def Action.IsImport : Action → Prop
  | .importProblems _ => True
  | _ => False

/-- What is not refused has the property. -/
def Refusable.Yields {α : Type} (P : α → Prop) (x : Refusable α) : Prop := ∀ a, x = .ok a → P a

namespace Refusable.Yields

variable {α β : Type} {P : α → Prop}

theorem pure {a : α} (h : P a) : Yields P (Pure.pure a : Refusable α) := by
  intro b hb
  rw [← Except.ok.inj hb]
  exact h

theorem error (status : Nat) : Yields P (.error status) := by
  intro b hb
  cases hb

theorem bind {x : Refusable β} {f : β → Refusable α} (hf : ∀ b, Yields P (f b)) :
    Yields P (x >>= f) := by
  cases x with
  | ok b => exact hf b
  | error status => exact error status

end Refusable.Yields

/-! ## From requests to actions -/

/-- An endpoint reads its data, and then it has an action of its own kind. -/
theorem Action.kind_ofEndpoint (r : Request) (e : Endpoint) :
    Refusable.Yields (fun a => (e.IsRead → a.IsRead) ∧ (a.IsImport → e = .importProblems))
      (Action.ofEndpoint r e) := by
  cases e with
  | createSubmission =>
    unfold Action.ofEndpoint
    dsimp only
    split
    · exact .error 500
    · exact .bind fun _ => .pure ⟨False.elim, False.elim⟩
  | importProblems => exact .bind fun _ => .pure ⟨False.elim, fun _ => rfl⟩
  | health | integrity | graders => exact .pure ⟨fun _ => trivial, False.elim⟩
  | searchProblems => exact .bind fun _ => .pure ⟨fun _ => trivial, False.elim⟩
  | gradeKey raw => exact .bind fun _ => .bind fun _ => .pure ⟨fun _ => trivial, False.elim⟩
  | unlockedProblems raw | solvedProblems raw =>
    exact .bind fun _ => .bind fun _ => .pure ⟨fun _ => trivial, False.elim⟩
  | listProblems | listSubmissions =>
    exact .bind fun _ => .bind fun _ => .pure ⟨fun _ => trivial, False.elim⟩
  | getProblem raw =>
    exact .bind fun _ => .bind fun _ => .bind fun _ => .pure ⟨fun _ => trivial, False.elim⟩
  | clearAll => exact .pure ⟨False.elim, False.elim⟩
  | createProblem | deleteProblem raw | reevaluate raw | invalidate | clear =>
    exact .bind fun _ => .pure ⟨False.elim, False.elim⟩
  | updateProblem raw | setDisabled raw =>
    exact .bind fun _ => .bind fun _ => .pure ⟨False.elim, False.elim⟩

/-- On no route does a request for a page come to an endpoint that may write. -/
theorem Endpoint.isRead_of_get {route : Route} {method : String} {e : Endpoint}
    (h : Endpoint.ofRoute? route method = some e) (hget : method = "GET") : e.IsRead := by
  unfold Endpoint.ofRoute? at h
  split at h
  all_goals first
    | exact absurd hget (by decide)
    | cases h <;> exact trivial

/-- Problems are imported on one route and by one method. -/
theorem Endpoint.route_of_import {route : Route} {method : String}
    (h : Endpoint.ofRoute? route method = some .importProblems) :
    route = .importing ∧ method = "POST" := by
  unfold Endpoint.ofRoute? at h
  split at h <;> first | exact ⟨rfl, rfl⟩ | cases h

theorem Request.method_of_effectiveMethod {r : Request} (h : r.effectiveMethod = "POST") :
    r.method = "POST" := by
  unfold effectiveMethod at h
  split at h
  · exact absurd h (by decide)
  · exact h

/-- A request for a page has an action that only looks things up, and an import is the action of no
request but one to import. -/
theorem Action.kind_ofRequest {r : Request} {a : Action} (h : Action.ofRequest r = .ok a) :
    (r.effectiveMethod = "GET" → a.IsRead) ∧ (a.IsImport → r.IsImport) := by
  unfold Action.ofRequest at h
  split at h
  · cases h
  · next route hroute =>
    split at h
    · cases h
    · next e he =>
      obtain ⟨hread, himport⟩ := Action.kind_ofEndpoint r e a h
      refine ⟨fun hget => ?_, fun ha => ?_⟩
      · exact hread (Endpoint.isRead_of_get he hget)
      · rw [himport ha] at he
        obtain ⟨rfl, hpost⟩ := Endpoint.route_of_import he
        exact ⟨Request.method_of_effectiveMethod hpost, hroute⟩

/-! ## From actions to responses -/

/-- The result is a response with the status of a success. -/
def Accepted (r : Except Failure Response) : Prop :=
  ∃ response, r = .ok response ∧ response.status < 400

theorem not_accepted_error (e : Failure) : ¬Accepted (.error e) := by
  rintro ⟨response, h, -⟩
  cases h

/-- What an operation returns makes a response with the status of a success. -/
theorem commits_render {α : Type} {p : Program α} {f : α → Response} (hp : p.CommitsTo Succeeds)
    (hf : ∀ a, (f a).status < 400) : (p.bind fun a => .done (.ok (f a))).CommitsTo Accepted :=
  CommitsTo.bind hp (fun _ => .done _) (fun a _ => .done ⟨f a, rfl, hf a⟩)
    fun e he => absurd he (not_succeeds_error e)

theorem Response.status_ok (body : Json) : (Response.ok body).status < 400 := by
  show 200 < 400
  omega

theorem Response.status_created (body : Json) : (Response.created body).status < 400 := by
  show 201 < 400
  omega

theorem Action.calls_perform {a : Action} (h : a.IsRead) (setup : Setup) (now : Int) :
    (a.perform setup now).Calls Call.IsRead := by
  have hcalls : ∀ o : Operation, o.IsRead → (o.program setup).Calls Call.IsRead :=
    fun o ho => ho.calls setup
  cases a with
  | health | graders => exact Calls.done _
  | listProblems category showDisabled =>
    exact Calls.bind (hcalls (.list category showDisabled) trivial) fun _ => Calls.done _
  | searchProblems conditions =>
    exact Calls.bind (hcalls (.search conditions) trivial) fun _ => Calls.done _
  | getProblem pid tid showDisabled =>
    cases tid with
    | some tid => exact Calls.bind (hcalls (.getForTeam pid tid) trivial) fun _ => Calls.done _
    | none => exact Calls.bind (hcalls (.get pid showDisabled) trivial) fun _ => Calls.done _
  | gradeKey pid preview =>
    refine Calls.done_bind fun _ _ => ?_
    exact Calls.bind (hcalls (.preview pid preview.key preview.uid) trivial) fun _ => Calls.done _
  | unlockedProblems tid category =>
    exact Calls.bind (hcalls (.unlockedProblems tid category) trivial) fun _ => Calls.done _
  | solvedProblems tid category =>
    exact Calls.bind (hcalls (.solvedProblems tid category) trivial) fun _ => Calls.done _
  | listSubmissions query correctOnly =>
    cases correctOnly with
    | true => exact Calls.bind (hcalls (.correctSubmissions query) trivial) fun _ => Calls.done _
    | false => exact Calls.bind (hcalls (.submissions query) trivial) fun _ => Calls.done _
  | integrity => exact Calls.bind (hcalls .integrity trivial) fun _ => Calls.done _
  | _ => exact h.elim

/-- Once an action has changed the store its response has the status of a success. -/
theorem Action.commits_perform {a : Action} (h : ¬a.IsImport) (setup : Setup) (now : Int) :
    (a.perform setup now).CommitsTo Accepted := by
  by_cases hread : a.IsRead
  · exact CommitsTo.of_reads (Action.calls_perform hread setup now)
  · have hcommits : ∀ o : Operation, ¬o.IsImport → (o.program setup).CommitsTo Succeeds :=
      fun o ho => o.commits_program setup ho
    cases a with
    | createProblem doc =>
      exact commits_render (hcommits (.insert doc) id) fun _ => Response.status_created _
    | importProblems text => exact absurd trivial h
    | updateProblem pid changes =>
      exact commits_render (hcommits (.update pid changes) id) fun _ => Response.status_ok _
    | deleteProblem pid =>
      exact commits_render (hcommits (.remove pid) id) fun _ => Response.status_ok _
    | setDisabled pid disabled =>
      exact commits_render (hcommits (.setDisabled pid disabled) id) fun _ => Response.status_ok _
    | submit attempt =>
      exact commits_render (hcommits (.submit now attempt) id) fun _ => Response.status_created _
    | reevaluate pid =>
      exact commits_render (hcommits (.reevaluate pid) id) fun _ => Response.status_ok _
    | invalidate query =>
      exact commits_render (hcommits (.invalidate query) id) fun _ => Response.status_ok _
    | clear uid tid =>
      exact commits_render (hcommits (.clear uid tid) id) fun _ => Response.status_ok _
    | clearAll => exact commits_render (hcommits .clearAll id) fun _ => Response.status_ok _
    | _ => exact absurd trivial hread

/-! ## Responses -/

theorem calls_respond {r : Request} (h : r.effectiveMethod = "GET") (setup : Setup) (now : Int) :
    (respond setup now r).Calls Call.IsRead := by
  refine Calls.ite (fun _ => Calls.done _) fun _ => Calls.bind ?_ fun _ => Calls.done _
  unfold answer
  split
  · exact Calls.done _
  · next a ha =>
    have hread : a.IsRead := (Action.kind_ofRequest ha).1 h
    refine Calls.bind (Calls.attempt (Action.calls_perform hread setup now)) fun result => ?_
    split <;> exact Calls.done _

theorem commits_answer {r : Request} (h : ¬r.IsImport) (setup : Setup) (now : Int) :
    (answer setup now r).CommitsTo Accepted := by
  unfold answer
  split
  · exact CommitsTo.done _
  · next a ha =>
    have hcommits : (a.perform setup now).CommitsTo Accepted :=
      Action.commits_perform (fun ha' => h ((Action.kind_ofRequest ha).2 ha')) setup now
    refine CommitsTo.bind hcommits.attempt (fun result => ?_) (fun result hresult => ?_) ?_
    · split <;> exact CommitsTo.done _
    · obtain ⟨_, hr, response, rfl, hstatus⟩ := hresult
      rw [Except.ok.inj hr]
      exact Ends.done ⟨response, rfl, hstatus⟩
    · rintro e ⟨r', hr', -⟩
      cases hr'

/-- **Once a request has changed the store its status is that of a success**, unless it is a request
to import. -/
theorem commits_respond {r : Request} (h : ¬r.IsImport) (setup : Setup) (now : Int) :
    (respond setup now r).CommitsTo Accepted := by
  unfold respond
  split
  · exact CommitsTo.done _
  · refine CommitsTo.bind (commits_answer h setup now) (fun _ => .done _) (fun response hr => ?_)
      fun e he => absurd he (not_accepted_error e)
    obtain ⟨response', hr, hstatus⟩ := hr
    rw [← Except.ok.inj hr] at hstatus
    refine Ends.done ⟨_, rfl, ?_⟩
    split
    · exact hstatus
    · exact hstatus

/-- Every request is answered. -/
theorem ends_respond (setup : Setup) (now : Int) (r : Request) :
    (respond setup now r).Ends Succeeds := by
  unfold respond
  split
  · exact Ends.done ⟨_, rfl⟩
  · refine Ends.bind (Q := Succeeds) ?_ (fun _ _ => Ends.done ⟨_, rfl⟩)
      fun e he => absurd he (not_succeeds_error e)
    unfold answer
    split
    · exact Ends.done ⟨_, rfl⟩
    · next a _ =>
      have hany : (a.perform setup now).Ends fun _ => True := Ends.of_forall (fun _ => trivial) _
      refine hany.attempt.bind (fun result _ => ?_) ?_
      · split <;> exact Ends.done ⟨_, rfl⟩
      · rintro e ⟨r', hr', -⟩
        cases hr'

/-- **What fails, and what is refused, has changed nothing**, whichever calls are answered in the
store's place.  An operation that fails leaves the store as it was, unless it is an import.  Every
request has a response; if its status is not that of a success, the store is as it was, unless the
request is one to import.  After a request for a page, or for its head, the store is as it was in
any case. -/
theorem unchanged_of_failed_or_refused :
    (∀ (setup : Setup) (o : Operation) (is : Nat → Interference) (s s' : Store) (e : Failure),
      ¬o.IsImport → (o.program setup).runUnder is s = (.error e, s') → s' = s) ∧
    ∀ (setup : Setup) (now : Int) (r : Request) (is : Nat → Interference) (s : Store),
      ∃ response s', (respond setup now r).runUnder is s = (.ok response, s') ∧
        (400 ≤ response.status → ¬r.IsImport → s' = s) ∧
        (r.method = "GET" ∨ r.method = "HEAD" → s' = s) := by
  refine ⟨fun setup o is s s' e ho hrun => (o.commits_program setup ho).snd_of_error hrun, ?_⟩
  intro setup now r is s
  obtain ⟨response, hresponse⟩ := fst_runUnder_of_ends (ends_respond setup now r) is s
  refine ⟨response, ((respond setup now r).runUnder is s).2, ?_, fun hstatus himport => ?_, ?_⟩
  · rw [← hresponse]
  · -- a response that accepts would have another status
    rcases (commits_respond himport setup now).fst_or_snd is s with haccepted | hs
    · obtain ⟨response', hr, hlt⟩ := haccepted
      rw [hresponse] at hr
      rw [← Except.ok.inj hr] at hlt
      omega
    · exact hs
  · intro hmethod
    have heffective : r.effectiveMethod = "GET" := by
      unfold Request.effectiveMethod
      rcases hmethod with hget | hhead
      · rw [hget]
        rfl
      · rw [if_pos hhead]
    -- here the property that every allowed call keeps is to be this one store
    exact runUnder_preserves (I := (· = s)) (fun c s' hc hs' => by rw [hc.snd_perform, hs']) is
      (calls_respond heffective setup now) rfl

/-- The stored problem is to be removed, by the operation and by a request, from a store that does
not find it when it comes to it; and the problems are looked at. -/
theorem unchanged_of_removal_that_misses :
    let is : Nat → Interference := fun _ => Faults.interference { deleteMisses := true }
    let o := Operation.remove (Problem.pidOf "Warmup")
    let removal : Request :=
      ⟨"DELETE", "/api/v1/problems/" ++ Problem.pidOf "Warmup", none, none, ""⟩
    let listing : Request := ⟨"GET", "/api/v1/problems", none, none, ""⟩
    (((o.program Sample.setup).runUnder is Sample.store).1.isOk = false ∧
      ((o.program Sample.setup).runUnder is Sample.store).2 = Sample.store) ∧
    (∃ response, (respond Sample.setup 7 removal).runUnder is Sample.store =
      (.ok response, Sample.store) ∧ response.status = 404) ∧
    ∃ response, (respond Sample.setup 7 listing).runUnder is Sample.store =
      (.ok response, Sample.store) ∧ response.status = 200 := by
  intro is o removal listing
  refine ⟨?_, ?_, ?_⟩
  · have hfails : ((o.program Sample.setup).runUnder is Sample.store).1.isOk = false := by
      decide +kernel
    have hs := fun s' e => unchanged_of_failed_or_refused.1 Sample.setup o is Sample.store s' e id
    generalize (o.program Sample.setup).runUnder is Sample.store = out at hfails hs ⊢
    obtain ⟨result, s'⟩ := out
    cases result with
    | ok p => cases hfails
    | error e => exact ⟨rfl, hs s' e rfl⟩
  · have hstatus : (((respond Sample.setup 7 removal).runUnder is Sample.store).1.map
        (·.status)).toOption = some 404 := by
      decide +kernel
    obtain ⟨response, s', hrun, hunchanged, -⟩ :=
      unchanged_of_failed_or_refused.2 Sample.setup 7 removal is Sample.store
    rw [hrun] at hstatus
    have h404 : response.status = 404 := Option.some.inj hstatus
    have hs : s' = Sample.store :=
      hunchanged (by omega) fun himport => absurd himport.1 (by decide)
    exact ⟨response, by rw [hrun, hs], h404⟩
  · have hstatus : (((respond Sample.setup 7 listing).runUnder is Sample.store).1.map
        (·.status)).toOption = some 200 := by
      decide +kernel
    obtain ⟨response, s', hrun, -, hunchanged⟩ :=
      unchanged_of_failed_or_refused.2 Sample.setup 7 listing is Sample.store
    rw [hrun] at hstatus
    have hs : s' = Sample.store := hunchanged (Or.inl rfl)
    exact ⟨response, by rw [hrun, hs], Option.some.inj hstatus⟩

end CaptureTheFlag.Http
