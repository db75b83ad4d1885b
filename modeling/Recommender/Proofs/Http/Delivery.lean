import Recommender.Http.App
import Recommender.Proofs.Metric.Series

/-!
# How requests are answered

What the handling of a request ends in decides how the request is answered.  A response is sent out,
an error that the service reports is sent out in its form, and any other failure breaks the answer
down, as does a response that cannot be sent.  Of the metrics the handling itself touches health
checks only; the rest is recorded on the way out.  The context names the request while it is handled,
and nothing afterwards.
-/

namespace Recommender.Http

open Collector (Raised)

namespace Arrival

/-- The form in which an error is reported to whoever sent a request. -/
def report (arrival : Arrival) (e : ServiceError) : Response :=
  ⟨e.httpStatus, .json (e.response (some arrival.id))⟩

/-- The response that the end of the handling of a request calls for, if it calls for one. -/
def draft? (arrival : Arrival) : Except Failure Response → Option Response
  | .ok response => some response
  | .error (.service e) => some (arrival.report e)
  | .error _ => none

/-- Whether a response to a request can be sent. -/
def canSend (arrival : Arrival) (response : Response) : Bool :=
  response.content.isSendable && arrival.request.site?.isSome

/-- The response that is sent to a request, if its handling does not break down. -/
def sent? (arrival : Arrival) (ending : Except Failure Response) : Option Response :=
  (arrival.draft? ending).filter arrival.canSend

theorem sent?_of_canSend {arrival : Arrival} {ending : Except Failure Response}
    {response : Response} (hdraft : arrival.draft? ending = some response)
    (hsend : arrival.canSend response = true) : arrival.sent? ending = some response := by
  rw [sent?, hdraft, Option.filter_some_pos hsend]

theorem sent?_eq_none {arrival : Arrival} {ending : Except Failure Response}
    (h : ∀ response, arrival.draft? ending = some response → arrival.canSend response = false) :
    arrival.sent? ending = none :=
  Option.filter_eq_none_iff.mpr fun response hdraft => ne_true_of_eq_false (h response hdraft)

/-- The labels under which a response to a request is counted. -/
def labels (arrival : Arrival) (response : Response) : List String :=
  [arrival.request.method, listedPath arrival.request.path, toString response.status]

/-- The code of the error that is reported, if one is. -/
def reportedCode : Except Failure Response → List String
  | .error (.service e) => [e.code]
  | _ => []

/-- The codes of the errors that are counted for a request: the one that is reported, and another
one if nothing can be sent. -/
def errors (arrival : Arrival) (ending : Except Failure Response) : List String :=
  reportedCode ending ++ (arrival.sent? ending).elim ["INTERNAL_ERROR"] fun _ => []

theorem errors_of_sent {arrival : Arrival} {ending : Except Failure Response} {response : Response}
    (h : arrival.sent? ending = some response) : arrival.errors ending = reportedCode ending := by
  rw [errors, h, Option.elim_some, List.append_nil]

theorem errors_of_not_sent {arrival : Arrival} {ending : Except Failure Response}
    (h : arrival.sent? ending = none) :
    arrival.errors ending = reportedCode ending ++ ["INTERNAL_ERROR"] := by
  rw [errors, h, Option.elim_none]

end Arrival

namespace App

variable {name : String} {arrival : Arrival} {a : App} {response : Response}

/-! ## Handling -/

/-- Metrics that were kept, or count one health check more. -/
def KeptOrChecked (before after : Collector) : Prop :=
  after = before ∨ ∃ status, after = (before.recordHealthCheck (.str status)).2

theorem checkHealth_metrics (a : App) : KeptOrChecked a.metrics a.checkHealth.2.metrics := by
  rw [checkHealth]
  cases a.stores.dependencies a.state with
  | ok dependencies => exact .inr ⟨"ok", rfl⟩
  | error e => exact .inr ⟨"error", rfl⟩

theorem handle_metrics (endpoint : Endpoint) (value : String) (r : Request) (a : App) :
    KeptOrChecked a.metrics (a.handle endpoint value r).2.metrics := by
  rw [handle]
  cases operationOf? Catalog.all endpoint value r with
  | some p => exact .inl rfl
  | none =>
    cases endpoint with
    | health => exact checkHealth_metrics a
    | _ => exact .inl rfl

theorem dispatch_metrics (r : Request) (a : App) :
    KeptOrChecked a.metrics (a.dispatch r).2.metrics := by
  rw [dispatch]
  cases routing a.routes r.method r.path with
  | found endpoint value => exact handle_metrics endpoint value r a
  | _ => exact .inl rfl

theorem handled_metrics (arrival : Arrival) (a : App) :
    KeptOrChecked a.metrics (a.handled arrival).2.metrics := by
  rw [handled]
  cases (a.enter arrival).preflight? arrival.request with
  | some response => exact .inl rfl
  | none => exact dispatch_metrics arrival.request (a.enter arrival)

theorem handled_raised (h : name ≠ "health_check_total") (arrival : Arrival) (a : App) :
    Raised name [] a.metrics (a.handled arrival).2.metrics := by
  rcases handled_metrics arrival a with hkept | ⟨status, hcounted⟩
  · rw [hkept]
    exact .refl name a.metrics
  · have hraised := Collector.raised_recordHealthCheck name status a.metrics
    rwa [if_neg h, ← hcounted] at hraised

theorem handled_service (arrival : Arrival) (a : App) :
    (a.handled arrival).2.metrics.service = a.metrics.service := by
  rcases handled_metrics arrival a with hkept | ⟨status, hcounted⟩
  · rw [hkept]
  · rw [hcounted, Collector.recordHealthCheck_service]

/-! ## The context -/

theorem handle_context (endpoint : Endpoint) (value : String) (r : Request) (a : App) :
    (a.handle endpoint value r).2.context = a.context := by
  rw [handle]
  cases operationOf? Catalog.all endpoint value r with
  | some p => rfl
  | none =>
    cases endpoint with
    | health =>
      show a.checkHealth.2.context = a.context
      rw [checkHealth]
      cases a.stores.dependencies a.state <;> rfl
    | _ => rfl

theorem dispatch_context (r : Request) (a : App) : (a.dispatch r).2.context = a.context := by
  rw [dispatch]
  cases routing a.routes r.method r.path with
  | found endpoint value => exact handle_context endpoint value r a
  | _ => rfl

/-- A request is handled in a context that names it. -/
theorem request?_handled (arrival : Arrival) (a : App) :
    (a.handled arrival).2.context.request? = some arrival.id := by
  rw [handled]
  cases (a.enter arrival).preflight? arrival.request with
  | some response => rfl
  | none => exact congrArg JournalContext.request? (dispatch_context arrival.request _)

/-- An error is reported with the identifier of the request that the context names. -/
theorem report_eq {id : String} (h : a.context.request? = some id) (e : ServiceError) :
    a.report e = (⟨e.httpStatus, .json (e.response (some id))⟩, a.countError e.code) := by
  rw [report, h]

/-! ## Answering -/

/-- Count errors, one after the other. -/
def countErrors : List String → App → App
  | [], a => a
  | code :: rest, a => (a.countError code).countErrors rest

/-- The answer to a request whose handling ended in some way, and the service after it: what can be
sent is sent with the identifier of the request and counted, and what else there is breaks down. -/
def answered (arrival : Arrival) (ending : Except Failure Response) (a : App) : Answer × App :=
  match arrival.sent? ending with
  | some response =>
    (⟨response.forMethod arrival.request.method, some arrival.id⟩,
      (a.countErrors (arrival.errors ending)).countRequest arrival response)
  | none =>
    (⟨brokenDown.forMethod arrival.request.method, none⟩, a.countErrors (arrival.errors ending))

theorem finish_ok (arrival : Arrival) (response : Response) (a : App) :
    a.finish arrival response = a.answered arrival (.ok response) := by
  cases h : arrival.canSend response with
  | true =>
    have hsent : arrival.sent? (.ok response) = some response :=
      Arrival.sent?_of_canSend rfl h
    rw [answered, Arrival.errors_of_sent hsent, hsent]
    exact if_pos h
  | false =>
    have hnone : arrival.sent? (.ok response) = none :=
      Option.filter_some_neg h
    rw [answered, Arrival.errors_of_not_sent hnone, hnone]
    exact if_neg (ne_true_of_eq_false h)

theorem finish_report (arrival : Arrival) (e : ServiceError) (a : App) :
    (a.countError e.code).finish arrival (arrival.report e) =
      a.answered arrival (.error (.service e)) := by
  rw [finish_ok, answered, answered]
  cases hsent : arrival.sent? (.ok (arrival.report e)) with
  | some response =>
    have hreport : arrival.sent? (.error (.service e)) = some response := hsent
    rw [hreport, Arrival.errors_of_sent hsent, Arrival.errors_of_sent hreport]
    rfl
  | none =>
    have hreport : arrival.sent? (.error (.service e)) = none := hsent
    rw [hreport, Arrival.errors_of_not_sent hsent, Arrival.errors_of_not_sent hreport]
    rfl

/-- **How a request is answered** is decided by what its handling ended in. -/
theorem respond_eq (arrival : Arrival) (a : App) :
    a.respond arrival = (a.handled arrival).2.leave.answered arrival (a.handled arrival).1 := by
  have hrequest := request?_handled arrival a
  rw [respond]
  generalize a.handled arrival = ended at hrequest ⊢
  rcases ended with ⟨ending, b⟩
  cases ending with
  | ok response => exact finish_ok arrival response b.leave
  | error failure =>
    cases failure with
    | service e =>
      have hreport : b.report e = (arrival.report e, b.countError e.code) := report_eq hrequest e
      simp only [hreport]
      exact finish_report arrival e b.leave
    | _ => rfl

theorem respond_of_sent (h : arrival.sent? (a.handled arrival).1 = some response) :
    (a.respond arrival).1 =
      ⟨response.forMethod arrival.request.method, some arrival.id⟩ := by
  rw [respond_eq, answered, h]

theorem respond_of_not_sent (h : arrival.sent? (a.handled arrival).1 = none) :
    (a.respond arrival).1 = ⟨brokenDown.forMethod arrival.request.method, none⟩ := by
  rw [respond_eq, answered, h]

theorem countErrors_context (codes : List String) (a : App) :
    (a.countErrors codes).context = a.context := by
  induction codes generalizing a with
  | nil => rfl
  | cons code rest ih => exact ih (a.countError code)

/-- Whatever a request ends in, the service works for nothing after its answer. -/
theorem respond_context (arrival : Arrival) (a : App) : (a.respond arrival).2.context = {} := by
  rw [respond_eq, answered]
  cases arrival.sent? (a.handled arrival).1 with
  | some response => exact countErrors_context _ _
  | none => exact countErrors_context _ _

/-! ## What is recorded -/

/-- The service after it handled a request and counted the errors. -/
def noted (arrival : Arrival) (a : App) : App :=
  (a.handled arrival).2.leave.countErrors (arrival.errors (a.handled arrival).1)

theorem countErrors_raised (name : String) (codes : List String) (a : App) :
    Raised name
      (if name = "errors_total" then codes.map fun code => [code, a.metrics.service.text] else [])
      a.metrics (a.countErrors codes).metrics := by
  induction codes generalizing a with
  | nil => simpa [countErrors] using Raised.refl name a.metrics
  | cons code rest ih =>
    have hfirst := Collector.raised_recordError name code a.metrics
    have hrest := ih (a.countError code)
    have hservice : (a.countError code).metrics.service = a.metrics.service :=
      Collector.recordError_service _ _ _
    rw [hservice] at hrest
    have hboth := hfirst.trans hrest
    rw [countErrors]
    by_cases hname : name = "errors_total"
    · simpa [hname] using hboth
    · simpa [hname] using hboth

theorem countErrors_service (codes : List String) (a : App) :
    (a.countErrors codes).metrics.service = a.metrics.service := by
  induction codes generalizing a with
  | nil => rfl
  | cons code rest ih => exact (ih _).trans (Collector.recordError_service _ _ _)

theorem noted_service (arrival : Arrival) (a : App) :
    (a.noted arrival).metrics.service = a.metrics.service :=
  (countErrors_service _ _).trans (handled_service arrival a)

theorem noted_requests (arrival : Arrival) (a : App) :
    Raised "http_requests_total" [] a.metrics (a.noted arrival).metrics :=
  (handled_raised (by decide) arrival a).trans
    (countErrors_raised "http_requests_total" _ _)

theorem noted_errors (arrival : Arrival) (a : App) :
    Raised "errors_total"
      ((arrival.errors (a.handled arrival).1).map
        fun code => [code, a.metrics.service.text])
      a.metrics (a.noted arrival).metrics := by
  have hcounted := countErrors_raised "errors_total"
    (arrival.errors (a.handled arrival).1) (a.handled arrival).2.leave
  have hservice : (a.handled arrival).2.leave.metrics.service = a.metrics.service :=
    handled_service arrival a
  rw [if_pos rfl, hservice] at hcounted
  exact (handled_raised (by decide) arrival a).trans hcounted

/-- A response that is sent is counted once, under its labels. -/
theorem respond_requests (arrival : Arrival) (a : App) :
    Raised "http_requests_total"
      ((arrival.sent? (a.handled arrival).1).map arrival.labels).toList
      a.metrics (a.respond arrival).2.metrics := by
  have hnoted := noted_requests arrival a
  rw [respond_eq, answered]
  cases arrival.sent? (a.handled arrival).1 with
  | some response =>
    exact hnoted.trans (Collector.raised_recordRequest "http_requests_total" _ _ _ _ _)
  | none => exact hnoted

/-- The errors of a request are counted once each, under their codes and the service. -/
theorem respond_errors (arrival : Arrival) (a : App) :
    Raised "errors_total"
      ((arrival.errors (a.handled arrival).1).map
        fun code => [code, a.metrics.service.text])
      a.metrics (a.respond arrival).2.metrics := by
  have hnoted := noted_errors arrival a
  rw [respond_eq, answered]
  cases arrival.sent? (a.handled arrival).1 with
  | some response =>
    have hall := hnoted.trans (Collector.raised_recordRequest "errors_total"
      arrival.request.method (listedPath arrival.request.path) response.status arrival.seconds _)
    rwa [if_neg (by decide), List.append_nil] at hall
  | none => exact hnoted

theorem respond_service (arrival : Arrival) (a : App) :
    (a.respond arrival).2.metrics.service = a.metrics.service := by
  have hnoted := noted_service arrival a
  rw [respond_eq, answered]
  cases arrival.sent? (a.handled arrival).1 with
  | some response => exact (Collector.recordRequest_service _ _ _ _ _).trans hnoted
  | none => exact hnoted

end App

end Recommender.Http
