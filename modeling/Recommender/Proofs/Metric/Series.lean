import Recommender.Metric.Collector
import Recommender.Proofs.Number.Counting

/-!
# Series of counters

A series of a counter is the amount under the name of the counter and the values of its labels.
What a service records adds one to a series and leaves every other series as it is, so that the
series tell how often each thing was recorded.
-/

namespace Recommender

namespace Binary64

/-- An amount after one was added to it a number of times. -/
def raised (x : Binary64) : Nat → Binary64
  | 0 => x
  | n + 1 => x.raised n + ofInt 1

theorem raised_add (x : Binary64) (m n : Nat) : x.raised (m + n) = (x.raised m).raised n := by
  induction n with
  | zero => rfl
  | succ n ih => rw [← Nat.add_assoc, raised, raised, ih]

/-- What starts from zero is the number of times that one was added to it. -/
theorem raised_zero {n : Nat} (h : n < countBound) : (zero false).raised n = ofInt n := by
  induction n with
  | zero => exact ofInt_zero.symm
  | succ n ih => rw [raised, ih (Nat.lt_of_succ_lt h), ← ofInt_add h, Int.natCast_one]

end Binary64

namespace Collector

/-- The amount of a series of a counter. -/
def series (name : String) (labels : List String) (c : Collector) : Binary64 :=
  c.counters.amount (.zero false) (name, labels)

/-- Each series of a counter has gone up by one as often as its labels are listed. -/
def Raised (name : String) (listed : List (List String)) (before after : Collector) : Prop :=
  ∀ labels, after.series name labels = (before.series name labels).raised (listed.count labels)

variable {name other : String} {c c' c'' : Collector}

theorem Raised.of_counters (h : c'.counters = c.counters) : Raised name [] c c' := by
  intro labels
  rw [series, h]
  rfl

theorem Raised.refl (name : String) (c : Collector) : Raised name [] c c :=
  .of_counters rfl

theorem Raised.trans {listed listed' : List (List String)} (h : Raised name listed c c')
    (h' : Raised name listed' c' c'') : Raised name (listed ++ listed') c c'' := by
  intro labels
  rw [h' labels, h labels, ← Binary64.raised_add, List.count_append]

/-! ## What is recorded -/

theorem add_one (name : String) (labels : List String) (c : Collector) :
    c.add name labels (.int 1) =
      (.ok (), { c with counters := c.counters.add (.zero false) (name, labels) (.ofInt 1) }) := by
  have hsign : isBelowZero (.int 1) = .ok false := rfl
  have hone : Binary64.ofInt 1 = .finite false Binary64.leastFull (-52) := by decide +kernel
  have hamount : amount (.int 1) = .ok (.ofInt 1) := by rw [amount, hone]
  rw [add, hsign, hamount]

/-- Adding one to a series raises it and no other. -/
theorem raised_add_one (name other : String) (labels : List String) (c : Collector) :
    Raised name (if name = other then [labels] else []) c (c.add other labels (.int 1)).2 := by
  intro labels'
  rw [add_one]
  by_cases hname : name = other
  · subst hname
    rw [if_pos rfl]
    by_cases hlabels : labels' = labels
    · subst hlabels
      rw [List.count_singleton_self]
      exact Tally.amount_add_self _ _ _ _
    · rw [List.count_singleton, if_neg (by simpa using Ne.symm hlabels)]
      exact Tally.amount_add_ne _ (by simp [hlabels]) _ _
  · rw [if_neg hname]
    exact Tally.amount_add_ne _ (by simp [hname]) _ _

theorem observe_counters (labels : List String) (seconds : Json) (c : Collector) :
    (c.observe labels seconds).2.counters = c.counters := by
  rw [observe]
  split <;> rfl

/-- An answered request is counted under its method, its path and its status. -/
theorem raised_recordRequest (name method path : String) (status : Nat) (seconds : Json)
    (c : Collector) :
    Raised name (if name = "http_requests_total" then [[method, path, toString status]] else []) c
      (c.recordRequest (.str method) (.str path) (.int status) seconds).2 := by
  have hcounted := raised_add_one name "http_requests_total" [method, path, toString status] c
  have hboth := hcounted.trans (.of_counters (observe_counters [method, path] seconds _))
  rw [List.append_nil, add_one] at hboth
  rw [recordRequest]
  simp only [Json.text, Json.display]
  exact hboth

/-- An error is counted under its kind and the service. -/
theorem raised_recordError (name kind : String) (c : Collector) :
    Raised name (if name = "errors_total" then [[kind, c.service.text]] else []) c
      (c.recordError (.str kind) .null).2 :=
  raised_add_one name "errors_total" [kind, c.service.text] c

/-- A health check is counted under what was found. -/
theorem raised_recordHealthCheck (name status : String) (c : Collector) :
    Raised name (if name = "health_check_total" then [[status]] else []) c
      (c.recordHealthCheck (.str status)).2 :=
  raised_add_one name "health_check_total" [status] c

/-! ## Whose metrics they are -/

theorem add_one_service (name : String) (labels : List String) (c : Collector) :
    (c.add name labels (.int 1)).2.service = c.service := by
  rw [add_one]

theorem observe_service (labels : List String) (seconds : Json) (c : Collector) :
    (c.observe labels seconds).2.service = c.service := by
  rw [observe]
  split <;> rfl

theorem recordRequest_service (method path status seconds : Json) (c : Collector) :
    (c.recordRequest method path status seconds).2.service = c.service := by
  rw [recordRequest, add_one]
  exact observe_service [method.text, path.text] seconds _

theorem recordError_service (kind service : Json) (c : Collector) :
    (c.recordError kind service).2.service = c.service :=
  add_one_service _ _ c

theorem recordHealthCheck_service (status : Json) (c : Collector) :
    (c.recordHealthCheck status).2.service = c.service :=
  add_one_service _ _ c

end Collector

end Recommender
