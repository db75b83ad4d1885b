import Recommender.Proofs.Http.Conversation

/-!
# Reporting failures

A failure that the service reports is answered with its own status and form and counted under its
code.  Any other failure is answered in one and the same way, whatever it was, and is counted as an
internal error.  A request whose form is refused does not fail: the refusal is its response.
-/

namespace Recommender.Http

open Collector (Raised)

/-! ## Refusals -/

/-- The form of a request at an endpoint is refused: its body or the value of its path. -/
inductive Refused (r : Request) (value : String) : Endpoint → Response → Prop where
  | draft {refusal : Response} (h : r.readDraft = .error refusal) :
    Refused r value .createRule refusal
  | ruleId {refusal : Response} (h : readPathValue "rule_id" value Field.integer = .error refusal) :
    Refused r value .deleteRule refusal
  | userId {refusal : Response}
    (h : readPathValue "user_id" value Field.identifier = .error refusal) :
    Refused r value .recommend refusal

theorem status_of_readPathValue {α : Type} {name value : String} {read : Json → Checked α}
    {refusal : Response} (h : readPathValue name value read = .error refusal) :
    refusal.status = 422 := by
  rw [readPathValue] at h
  split at h
  · cases h
  · cases h
    rfl

theorem status_of_readDraft {r : Request} {refusal : Response} (h : r.readDraft = .error refusal) :
    refusal.status = 422 ∨ refusal = .givenUp := by
  rw [Request.readDraft] at h
  cases hbody : r.readBody with
  | givenUp =>
    rw [hbody] at h
    cases h
    exact .inr rfl
  | json v =>
    cases hdraft : (RuleDraft.ofJson .notObject v).under (.field "body") with
    | ok draft =>
      simp only [hbody, hdraft] at h
      cases h
    | error found =>
      simp only [hbody, hdraft] at h
      cases h
      exact .inl rfl
  | _ =>
    rw [hbody] at h
    cases h
    exact .inl rfl

variable {r : Request} {value : String} {endpoint : Endpoint} {refusal : Response}

theorem Refused.status (h : Refused r value endpoint refusal) :
    refusal.status = 422 ∨ refusal = .givenUp := by
  cases h with
  | draft h => exact status_of_readDraft h
  | ruleId h => exact .inl (status_of_readPathValue h)
  | userId h => exact .inl (status_of_readPathValue h)

/-- A refused request is answered with its refusal, before any collaborator is asked. -/
theorem Refused.handle (h : Refused r value endpoint refusal) (a : App) :
    a.handle endpoint value r = (.ok refusal, a) := by
  cases h with
  | draft h => rw [App.handle, operationOf?, h]; rfl
  | ruleId h => rw [App.handle, operationOf?, h]; rfl
  | userId h => rw [App.handle, operationOf?, h]; rfl

/-- A request that is led to an endpoint and refused there ends in its refusal. -/
theorem Refused.handled {a : App} {arrival : Arrival}
    (h : Refused arrival.request value endpoint refusal)
    (hopen : a.preflight? arrival.request = none)
    (hroute : routing a.routes arrival.request.method arrival.request.path
      = .found endpoint value) :
    a.handled arrival = (.ok refusal, a.enter arrival) := by
  have hstill : (a.enter arrival).preflight? arrival.request = none := hopen
  have hled : routing (a.enter arrival).routes arrival.request.method arrival.request.path
      = .found endpoint value := hroute
  rw [App.handled]
  simp only [hstill, App.dispatch, hled]
  exact h.handle (a.enter arrival)

/-! ## Errors -/

theorem exists_of_reportedCode {ending : Except Failure Response} {code : String}
    (h : Arrival.reportedCode ending = [code]) :
    ∃ e, ending = .error (.service e) ∧ e.code = code := by
  cases ending with
  | ok response => cases h
  | error failure =>
    cases failure with
    | service e => exact ⟨e, rfl, List.singleton_inj.mp h⟩
    | _ => cases h

theorem exists_of_draft?_eq_none {arrival : Arrival} {ending : Except Failure Response}
    (h : arrival.draft? ending = none) :
    ∃ failure, ending = .error failure ∧ ∀ e, failure ≠ .service e := by
  cases ending with
  | ok response => cases h
  | error failure =>
    refine ⟨failure, rfl, fun e hservice => ?_⟩
    rw [hservice] at h
    cases h

/-- The labels of the errors that are counted for a request. -/
def Exchange.errorsOf (service : String) (x : Exchange) : List (List String) :=
  (x.arrival.errors x.ending).map fun code => [code, service]

namespace Conversation

theorem kept_errors (settings : Settings) (stores : Stores) (revision : String)
    (provider : Provider) (events : List ConversationEvent) :
    (run (.start settings stores revision provider) events).Kept "errors_total"
      (Exchange.errorsOf settings.serviceName) (.start settings stores revision provider) := by
  refine kept_run (fun b arrival hservice => ?_) events
  have hraised := b.respond_errors arrival
  rw [hservice] at hraised
  exact hraised

/-- **Every failure is reported in its form or answered without details, and counted once.**  After
any conversation, whatever the collaborators hold and whichever of their operations fail, an error
that the service reports is answered with its status, its code, its message and its details, and
with the identifier of this request in the body and in the header; any other failure is answered in
the same way whatever it was.  Either raises the number of errors under the code of the answer by
one, and no other number; a response raises none, also if it refuses the form of the request.  What
cannot be sent is answered as an internal error, and counted as one besides.  So the numbers of
errors are those of the failures of the conversation. -/
theorem failures_are_reported_and_counted (settings : Settings) (stores : Stores)
    (revision : String) (provider : Provider) (events : List ConversationEvent)
    (arrival : Arrival) :
    let c := run (.start settings stores revision provider) events
    let x := c.app.meets arrival
    let after := (c.app.respond arrival).2
    let method := arrival.request.method
    let CountsErrors (codes : List String) : Prop :=
      Raised "errors_total" (codes.map fun code => [code, settings.serviceName])
        c.app.metrics after.metrics
    (∀ e, x.ending = .error (.service e) → arrival.canSend (arrival.report e) = true →
      x.answer = ⟨Response.forMethod method ⟨e.httpStatus, .json (.obj
        [("request_id", .str arrival.id), ("code", .str e.code), ("message", .str e.message),
          ("details", .obj e.details)])⟩, some arrival.id⟩ ∧ CountsErrors [e.code]) ∧
    (∀ failure, x.ending = .error failure → (∀ e, failure ≠ .service e) →
      x.answer = ⟨App.brokenDown.forMethod method, none⟩ ∧ CountsErrors ["INTERNAL_ERROR"]) ∧
    (∀ response, x.ending = .ok response → arrival.canSend response = true →
      x.answer = ⟨response.forMethod method, some arrival.id⟩ ∧ CountsErrors []) ∧
    (∀ response, arrival.draft? x.ending = some response → arrival.canSend response = false →
      x.answer = ⟨App.brokenDown.forMethod method, none⟩ ∧
      CountsErrors (Arrival.reportedCode x.ending ++ ["INTERNAL_ERROR"])) ∧
    (∀ endpoint value refusal, c.app.preflight? arrival.request = none →
      routing c.app.routes method arrival.request.path = .found endpoint value →
      Refused arrival.request value endpoint refusal →
      x.ending = .ok refusal ∧ (refusal.status = 422 ∨ refusal = .givenUp)) ∧
    ∀ labels,
      (c.log.flatMap (Exchange.errorsOf settings.serviceName)).count labels
        < Binary64.countBound →
      c.app.metrics.series "errors_total" labels =
        .ofInt ((c.log.flatMap (Exchange.errorsOf settings.serviceName)).count labels : Nat) := by
  intro c x after method CountsErrors
  have hkept := kept_errors settings stores revision provider events
  have hraised : CountsErrors (arrival.errors x.ending) := by
    have hlabels := c.app.respond_errors arrival
    rw [hkept.service] at hlabels
    exact hlabels
  have hsent : ∀ response, arrival.draft? x.ending = some response →
      arrival.canSend response = true →
      x.answer = ⟨response.forMethod method, some arrival.id⟩ ∧
        CountsErrors (Arrival.reportedCode x.ending) := by
    intro response hdraft hsend
    have hresponse := Arrival.sent?_of_canSend hdraft hsend
    rw [Arrival.errors_of_sent hresponse] at hraised
    exact ⟨App.respond_of_sent hresponse, hraised⟩
  have hbroken : (∀ response, arrival.draft? x.ending = some response →
        arrival.canSend response = false) →
      x.answer = ⟨App.brokenDown.forMethod method, none⟩ ∧
        CountsErrors (Arrival.reportedCode x.ending ++ ["INTERNAL_ERROR"]) := by
    intro hunsendable
    have hnone := Arrival.sent?_eq_none hunsendable
    rw [Arrival.errors_of_not_sent hnone] at hraised
    exact ⟨App.respond_of_not_sent hnone, hraised⟩
  refine ⟨fun e hending hsend => ?_, fun failure hending hother => ?_,
    fun response hending hsend => ?_, fun response hdraft hsend => ?_,
    fun endpoint value refusal hopen hroute hrefused => ?_, hkept.series_eq⟩
  · rw [hending] at hsent
    exact hsent (arrival.report e) rfl hsend
  · rw [hending] at hbroken
    cases failure with
    | service e => exact absurd rfl (hother e)
    | _ => exact hbroken nofun
  · rw [hending] at hsent
    exact hsent response rfl hsend
  · refine hbroken fun response' hdraft' => ?_
    rw [hdraft] at hdraft'
    cases hdraft'
    exact hsend
  · exact ⟨congrArg Prod.fst (hrefused.handled hopen hroute), hrefused.status⟩

/-- A request that asks for a rule to be deleted, and brings an identifier. -/
def removing : Arrival where
  request := {
    method := "DELETE"
    reference := ⟨⟨"http", "localhost", none⟩, "/rule/42".toList, none⟩
    headers := [("Host", "localhost"), ("X-Request-ID", "req-2")] }
  freshId := "fresh"

/-- A request that creates a rule whose operator is half of a surrogate pair. -/
def garbled : Arrival where
  request := {
    method := "POST"
    reference := ⟨⟨"http", "localhost", none⟩, "/rule".toList, none⟩
    headers := [("Host", "localhost"), ("Content-Type", "application/json")]
    body := "\x7b\"product_id\":\"00000000-0000-0000-0000-00000000000a\",\"product_name\":\"n\"," ++
      "\"product_text\":\"t\",\"rule\":[\x7b\"query\":\"\\ud800\"\x7d]\x7d" }
  freshId := "fresh"

/-- A rule that does not exist is reported, rules that cannot be listed are not, and an operator that
does not exist is reported unless it cannot be sent. -/
theorem failures_are_reported_and_counted_listedOnce :
    let a := (run fresh listedOnce).app
    (a.respond removing).1.requestId = some "req-2" ∧
    Raised "errors_total" [["RULE_NOT_FOUND", "recommendations"]] a.metrics
      (a.respond removing).2.metrics ∧
    (a.respond listing).1.requestId = none ∧
    Raised "errors_total" [["INTERNAL_ERROR", "recommendations"]] a.metrics
      (a.respond listing).2.metrics ∧
    (a.respond garbled).1.requestId = none ∧
    Raised "errors_total"
      [["UNKNOWN_QUERY_TYPE", "recommendations"], ["INTERNAL_ERROR", "recommendations"]] a.metrics
      (a.respond garbled).2.metrics := by
  intro a
  obtain ⟨hreported, -⟩ := failures_are_reported_and_counted
    defaults .memory "unknown" {} listedOnce removing
  obtain ⟨-, hbroken, -⟩ := failures_are_reported_and_counted
    defaults .memory "unknown" {} listedOnce listing
  have hunsent : ∀ response, garbled.draft? (a.meets garbled).ending = some response →
      garbled.canSend response = false →
      (a.meets garbled).answer = ⟨App.brokenDown.forMethod "POST", none⟩ ∧
      Raised "errors_total"
        ((Arrival.reportedCode (a.meets garbled).ending ++ ["INTERNAL_ERROR"]).map
          fun code => [code, "recommendations"])
        a.metrics (a.respond garbled).2.metrics :=
    (failures_are_reported_and_counted defaults .memory "unknown" {} listedOnce garbled).2.2.2.1
  have hmissing : Arrival.reportedCode (a.meets removing).ending = ["RULE_NOT_FOUND"] := by
    decide +kernel
  have hsend : (removing.draft? (a.meets removing).ending).all removing.canSend = true := by
    decide +kernel
  have hnone : listing.draft? (a.meets listing).ending = none :=
    Option.isNone_iff_eq_none.mp (by decide +kernel)
  obtain ⟨hunknown, hlost⟩ : Arrival.reportedCode (a.meets garbled).ending =
      ["UNKNOWN_QUERY_TYPE"] ∧
      (garbled.draft? (a.meets garbled).ending).all (!garbled.canSend ·) = true := by
    decide +kernel
  have hid : removing.id = "req-2" := by decide +kernel
  obtain ⟨e, hending, he⟩ := exists_of_reportedCode hmissing
  obtain ⟨failure, hfailure, hother⟩ := exists_of_draft?_eq_none hnone
  obtain ⟨e', hending', -⟩ := exists_of_reportedCode hunknown
  rw [hending] at hsend
  rw [hending'] at hlost
  rw [hunknown] at hunsent
  obtain ⟨hanswer, hcounted⟩ := hreported e hending hsend
  obtain ⟨hsilent, hinternal⟩ := hbroken failure hfailure hother
  obtain ⟨hanswer', hcounted'⟩ := hunsent (garbled.report e')
    (congrArg garbled.draft? hending') ((Bool.not_eq_true' (garbled.canSend _)).mp hlost)
  rw [he] at hcounted
  exact ⟨(congrArg Answer.requestId hanswer).trans (congrArg some hid), hcounted,
    congrArg Answer.requestId hsilent, hinternal, congrArg Answer.requestId hanswer', hcounted'⟩

end Conversation

end Recommender.Http
