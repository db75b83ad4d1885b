import Recommender.Proofs.Http.Conversation

/-!
# Tracing answers

An answer is traced if it carries the identifier of its request, and counted under the method, the
path and the status.  Both happen on the way out, behind everything that the service answers for:
so they happen to every response of the handling and to every error that the service reports, and to
neither of them if the handling breaks down.
-/

namespace Recommender.Http

open Collector (Raised)

/-- A request that brings an identifier keeps it. -/
theorem Arrival.id_of_header {arrival : Arrival} {value : String}
    (h : arrival.request.header? "x-request-id" = some value) : arrival.id = value := by
  rw [id, h, Option.getD_some]

/-- The labels of an answer that carries the identifier of its request. -/
def Exchange.traced (x : Exchange) : List (List String) :=
  if x.answer.requestId.isSome then [x.arrival.labels x.answer.response] else []

theorem Response.status_forMethod (method : String) (response : Response) :
    (response.forMethod method).status = response.status := by
  rw [forMethod]
  split <;> rfl

theorem Arrival.labels_forMethod (arrival : Arrival) (method : String) (response : Response) :
    arrival.labels (response.forMethod method) = arrival.labels response := by
  rw [labels, labels, Response.status_forMethod]

namespace Conversation

theorem traced_meets (arrival : Arrival) (a : App) :
    (a.meets arrival).traced =
      ((arrival.sent? (a.handled arrival).1).map arrival.labels).toList := by
  cases hsent : arrival.sent? (a.handled arrival).1 with
  | some response =>
    rw [Exchange.traced, App.meets, App.respond_of_sent hsent]
    exact congrArg (fun labels => [labels])
      (arrival.labels_forMethod arrival.request.method response)
  | none =>
    rw [Exchange.traced, App.meets, App.respond_of_not_sent hsent]
    rfl

/-- **Every answer is traced and counted unless its handling breaks down.**  After any conversation,
whatever the collaborators hold and whichever of their operations fail, a response of the handling
and an error that the service reports are answered with the identifier of the request, which is its
own if it brings one, and raise the number of requests with this method, path and status by one and
no other.  If there is neither, or it cannot be sent, the answer carries no identifier and is not
counted.  So the numbers of requests are those of the answers with an identifier.  Between two
requests the context of the service names none. -/
theorem answers_are_traced_unless_broken_down (settings : Settings) (stores : Stores)
    (revision : String) (provider : Provider) (events : List ConversationEvent)
    (arrival : Arrival) :
    let c := run (.start settings stores revision provider) events
    let x := c.app.meets arrival
    let after := (c.app.respond arrival).2
    (∀ value, arrival.request.header? "x-request-id" = some value → arrival.id = value) ∧
    (∀ response, arrival.draft? x.ending = some response → arrival.canSend response = true →
      x.answer = ⟨response.forMethod arrival.request.method, some arrival.id⟩ ∧
      Raised "http_requests_total" [arrival.labels response] c.app.metrics after.metrics) ∧
    ((∀ response, arrival.draft? x.ending = some response → arrival.canSend response = false) →
      x.answer = ⟨App.brokenDown.forMethod arrival.request.method, none⟩ ∧
      Raised "http_requests_total" [] c.app.metrics after.metrics) ∧
    (∀ labels, (c.log.flatMap Exchange.traced).count labels < Binary64.countBound →
      c.app.metrics.series "http_requests_total" labels =
        .ofInt ((c.log.flatMap Exchange.traced).count labels : Nat)) ∧
    c.app.context = {} := by
  intro c x after
  have hraised := c.app.respond_requests arrival
  refine ⟨fun value => Arrival.id_of_header, fun response hdraft hsend => ?_, fun hbroken => ?_,
    fun labels => ?_, run_context rfl events⟩
  · have hsent : arrival.sent? (c.app.handled arrival).1 = some response :=
      Arrival.sent?_of_canSend hdraft hsend
    rw [hsent] at hraised
    exact ⟨App.respond_of_sent hsent, hraised⟩
  · have hsent : arrival.sent? (c.app.handled arrival).1 = none :=
      Arrival.sent?_eq_none hbroken
    rw [hsent] at hraised
    exact ⟨App.respond_of_not_sent hsent, hraised⟩
  · refine Kept.series_eq (kept_run (fun b arrival _ => ?_) events) labels
    rw [traced_meets]
    exact b.respond_requests arrival

/-- The rules are asked for twice: the first answer is traced and counted, the second one breaks
down. -/
theorem answers_are_traced_unless_broken_down_listedOnce :
    (fresh.respond listing).1.requestId = some "req-1" ∧
      ((run fresh listedOnce).app.respond listing).1.requestId = none ∧
      (run fresh listedOnce).app.metrics.series "http_requests_total" ["GET", "/rule", "200"] =
        .ofInt 1 := by
  obtain ⟨hheader, hsent, -, -⟩ := answers_are_traced_unless_broken_down
    defaults .memory "unknown" {} [] listing
  obtain ⟨-, -, hbroken, hcounted, -⟩ := answers_are_traced_unless_broken_down
    defaults .memory "unknown" {} listedOnce listing
  have hid : listing.id = "req-1" := hheader "req-1" (by decide +kernel)
  have hsome : (listing.sent? (fresh.meets listing).ending).isSome = true := by decide +kernel
  have hnone : listing.draft? ((run fresh listedOnce).app.meets listing).ending = none :=
    Option.isNone_iff_eq_none.mp (by decide +kernel)
  have hone : ((run fresh listedOnce).log.flatMap Exchange.traced).count
      ["GET", "/rule", "200"] = 1 := by decide +kernel
  have hbound : 1 < Binary64.countBound := by decide
  obtain ⟨response, hresponse⟩ := Option.isSome_iff_exists.mp hsome
  obtain ⟨hdraft, hsend⟩ := Option.filter_eq_some_iff.mp hresponse
  refine ⟨?_, ?_, ?_⟩
  · exact (congrArg Answer.requestId (hsent response hdraft hsend).1).trans (congrArg some hid)
  · exact congrArg Answer.requestId
      (hbroken fun response hdraft => nomatch hnone.symm.trans hdraft).1
  · exact (hcounted ["GET", "/rule", "200"] (hone.trans_lt hbound)).trans
      (congrArg (fun n : Nat => Binary64.ofInt n) hone)

end Conversation

end Recommender.Http
