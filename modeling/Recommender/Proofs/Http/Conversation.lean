import Recommender.Proofs.Http.Delivery

/-!
# Conversations

A conversation is a service with all requests that came in so far and what became of them.  Between
two requests the state of the service may change in any way: figures and rules are replaced, matches
are counted in the background, and operations are told to fail or no longer to fail.
-/

namespace Recommender.Http

open Collector (Raised)

/-- A request with what became of it. -/
structure Exchange where
  arrival : Arrival
  /-- What its handling ended in. -/
  ending : Except Failure Response
  answer : Answer

/-- A service and the requests that came in so far. -/
structure Conversation where
  app : App
  log : List Exchange := []

/-- Something that happens in a conversation. -/
inductive ConversationEvent where
  /-- A request comes in and is answered. -/
  | request (arrival : Arrival)
  /-- The state of the service changes between two requests. -/
  | change (state : ServiceState)

/-- A request and what becomes of it. -/
def App.meets (arrival : Arrival) (a : App) : Exchange where
  arrival := arrival
  ending := (a.handled arrival).1
  answer := (a.respond arrival).1

namespace Conversation

/-- Let something happen. -/
def step (c : Conversation) : ConversationEvent → Conversation
  | .request arrival =>
    { app := (c.app.respond arrival).2, log := c.log ++ [c.app.meets arrival] }
  | .change state => { c with app := { c.app with state } }

/-- A conversation with a service from its start on. -/
def run (a : App) (events : List ConversationEvent) : Conversation :=
  events.foldl step { app := a }

variable {name : String} {listed : Exchange → List (List String)} {a : App}

/-- A conversation whose log tells how far the series of a counter have gone up since its start. -/
structure Kept (name : String) (listed : Exchange → List (List String)) (a : App)
    (c : Conversation) : Prop where
  service : c.app.metrics.service = a.metrics.service
  raised : Raised name (c.log.flatMap listed) a.metrics c.app.metrics

theorem Kept.step {c : Conversation}
    (hanswer : ∀ (b : App) (arrival : Arrival), b.metrics.service = a.metrics.service →
      Raised name (listed (b.meets arrival)) b.metrics (b.respond arrival).2.metrics)
    (h : c.Kept name listed a) (e : ConversationEvent) : (c.step e).Kept name listed a := by
  cases e with
  | request arrival =>
    refine ⟨(c.app.respond_service arrival).trans h.service, ?_⟩
    have hboth := h.raised.trans (hanswer c.app arrival h.service)
    rw [← List.flatMap_singleton listed, ← List.flatMap_append] at hboth
    exact hboth
  | change state => exact ⟨h.service, h.raised⟩

/-- What every answer records is recorded by every conversation. -/
theorem kept_run
    (hanswer : ∀ (b : App) (arrival : Arrival), b.metrics.service = a.metrics.service →
      Raised name (listed (b.meets arrival)) b.metrics (b.respond arrival).2.metrics)
    (events : List ConversationEvent) : (run a events).Kept name listed a :=
  List.foldlRecOn events step ⟨rfl, .refl name a.metrics⟩ fun _ h e _ => h.step hanswer e

theorem step_context {c : Conversation} (h : c.app.context = {}) (e : ConversationEvent) :
    (c.step e).app.context = {} := by
  cases e with
  | request arrival => exact c.app.respond_context arrival
  | change state => exact h

/-- No request is in the context of another one: between two requests a service works for nothing. -/
theorem run_context (h : a.context = {}) (events : List ConversationEvent) :
    (run a events).app.context = {} :=
  List.foldlRecOn (motive := fun c => c.app.context = {}) events step (b := { app := a }) h
    fun _ h e _ => step_context h e

/-- What is counted since the start of a service is counted exactly below the bound. -/
theorem Kept.series_eq {settings : Settings} {stores : Stores} {revision : String}
    {provider : Provider} {c : Conversation}
    (h : c.Kept name listed (.start settings stores revision provider)) (labels : List String)
    (hbound : (c.log.flatMap listed).count labels < Binary64.countBound) :
    c.app.metrics.series name labels = .ofInt ((c.log.flatMap listed).count labels : Nat) :=
  (h.raised labels).trans (Binary64.raised_zero hbound)

/-! ## A conversation -/

/-- A request for the rules that brings an identifier. -/
def listing : Arrival where
  request := {
    method := "GET"
    reference := ⟨⟨"http", "localhost", none⟩, "/rule".toList, none⟩
    headers := [("Host", "localhost"), ("X-Request-ID", "req-1")] }
  freshId := "fresh"

/-- Settings that leave everything at its default that has one. -/
def defaults : Settings :=
  { serviceName := "recommendations", port := 8080 }

/-- A service with its rules in memory at its start. -/
def fresh : App :=
  .start defaults .memory "unknown" {}

/-- The rules are asked for, and then cannot be listed any longer. -/
def listedOnce : List ConversationEvent :=
  [.request listing, .change (ServiceState.setFaults [(.listRules, .breakdown "down")] {})]

end Conversation

end Recommender.Http
