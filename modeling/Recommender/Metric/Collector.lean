import Recommender.Failure
import Recommender.Json.Order
import Recommender.Metric.Sample
import Recommender.Metric.Tally

/-!
# Metrics

A collector holds the metrics of one service: what the service is, counters with labels, and a
histogram of request durations.  A labelled series comes into being when it is first asked for, also
by an increment that is then refused.
-/

namespace Recommender

/-- The kinds of metrics. -/
inductive MetricKind where
  | info
  | counter
  | histogram
  deriving DecidableEq, Repr

/-- The name of a kind of metric. -/
def MetricKind.name : MetricKind → String
  | .info => "Info"
  | .counter => "Counter"
  | .histogram => "Histogram"

/-- A metric: its kind and the names of its labels. -/
structure Metric where
  kind : MetricKind
  labels : List String
  deriving DecidableEq, Repr

/-- Observations by the bound that they fell under, and their sum. -/
structure Histogram where
  sum : Binary64 := Binary64.zero false
  /-- The number of observations per bound. -/
  buckets : List Nat
  deriving DecidableEq, Repr

namespace Histogram

/-- The upper bounds of the buckets. -/
def bounds : List Binary64 :=
  [(5, -3), (10, -3), (25, -3), (50, -3), (75, -3), (1, -1), (25, -2), (5, -1), (75, -2), (1, 0),
    (25, -1), (5, 0), (75, -1), (10, 0)].map (fun (d : Nat × Int) =>
      Binary64.ofDecimal false d.1 d.2) ++ [.infinite false]

/-- The text of a bound. -/
def boundText : Binary64 → String
  | .infinite false => "+Inf"
  | x => x.text

/-- No observations. -/
def empty : Histogram :=
  { buckets := List.replicate bounds.length 0 }

/-- Whether a value is at most a bound. -/
def isWithin (value : Quantity) (bound : Binary64) : Bool :=
  match value.order? (.ofBinary bound) with
  | some o => o != .gt
  | none => false

/-- Count an observation in the first bucket that it falls under; what is no number falls under
none. -/
def countInto (value : Quantity) : List Binary64 → List Nat → List Nat
  | b :: bounds, n :: counts =>
    if isWithin value b then (n + 1) :: counts else n :: countInto value bounds counts
  | _, counts => counts

/-- Observe a value. -/
def observe (value : Quantity) (amount : Binary64) (h : Histogram) : Histogram :=
  { sum := h.sum + amount, buckets := countInto value bounds h.buckets }

/-- The samples of the buckets: the number of observations up to each bound. -/
def bucketSamples (name : String) (labels : List (String × Json)) :
    (before : Nat) → List String → List Nat → List Sample
  | before, bound :: bounds, n :: counts =>
    .ofCount (name ++ "_bucket") (("le", bound) :: labels) (before + n)
      :: bucketSamples name labels (before + n) bounds counts
  | _, _, _ => []

/-- The samples of a histogram. -/
def samples (name : String) (labels : List (String × Json)) (h : Histogram) : List Sample :=
  bucketSamples name labels 0 (bounds.map boundText) h.buckets
  ++ [.ofCount (name ++ "_count") labels (h.buckets.foldl (· + ·) 0), ⟨name ++ "_sum", labels, h.sum.text⟩]

end Histogram

/-- The metrics of a service. -/
structure Collector where
  /-- What the service is called, which should be a text. -/
  service : Json
  /-- The counters, by metric and label values. -/
  counters : Tally (String × List String) Binary64 := []
  /-- The histogram of request durations, by label values. -/
  durations : List (List String × Histogram) := []
  deriving Repr

namespace Collector

/-- The collector of a service, which has to be called something. -/
def start (service : Json) : Except Failure Collector :=
  if service.isNull then .error .unreadable else .ok { service }

/-- The metrics that every service has. -/
def commonMetrics : List (String × Metric) :=
  [("service_info", ⟨.info, []⟩),
    ("http_requests_total", ⟨.counter, ["method", "endpoint", "status_code"]⟩),
    ("http_request_duration_seconds", ⟨.histogram, ["method", "endpoint"]⟩),
    ("health_check_total", ⟨.counter, ["status"]⟩),
    ("errors_total", ⟨.counter, ["error_type", "service"]⟩)]

/-- The metrics that only the recommendation service has. -/
def recommendationMetrics : List (String × Metric) :=
  [("rule_evaluations_total", ⟨.counter, ["verdict"]⟩),
    ("recommendations_served_total", ⟨.counter, ["source"]⟩),
    ("aggregate_cache_requests_total", ⟨.counter, ["cache", "result"]⟩)]

/-- The metrics of a service of a name. -/
def metricsOf (service : Json) : List (String × Metric) :=
  if service == "recommendations" then commonMetrics ++ recommendationMetrics else commonMetrics

/-- The metric of a name. -/
def find? (name : String) (c : Collector) : Option Metric :=
  Assoc.find? name (metricsOf c.service)

/-- The metric that a value names; a list or an object cannot be a name. -/
def named (name : Json) (c : Collector) : Except Failure (Option Metric) :=
  match name with
  | .str s => .ok (c.find? s)
  | .arr _ | .obj _ => .error .mistyped
  | _ => .ok none

/-- The values of a metric's labels, if exactly its labels are given. -/
def labelValues (m : Metric) (given : Details) : Except Failure (List String) :=
  if m.labels.isEmpty || given.length ≠ m.labels.length then .error .unreadable
  else
    match m.labels.mapM fun l => Assoc.find? l given with
    | some values => .ok (values.map Json.text)
    | none => .error .unreadable

/-- The amount that a number denotes. -/
def amount (v : Json) : Except Failure Binary64 :=
  match v with
  | .bool b => .ok (.ofInt (if b then 1 else 0))
  | .int n =>
    match Binary64.ofInt n with
    | .infinite _ => .error .unbounded
    | x => .ok x
  | .float x => .ok x
  | _ => .error .mistyped

/-- Whether a number is below zero. -/
def isBelowZero (v : Json) : Except Failure Bool :=
  match v.order? (.int 0) with
  | some o => .ok (o = some .lt)
  | none => .error .mistyped

/-- The collector with a series of a counter. -/
def touch (name : String) (labels : List String) (c : Collector) : Collector :=
  { c with counters := c.counters.add (.zero false) (name, labels) (.zero false) }

/-- Add to a series of a counter. -/
def add (name : String) (labels : List String) (n : Json) (c : Collector) :
    Except Failure Unit × Collector :=
  let touched := c.touch name labels
  match isBelowZero n with
  | .error e => (.error e, touched)
  | .ok true => (.error .unreadable, touched)
  | .ok false =>
    match amount n with
    | .error e => (.error e, touched)
    | .ok x => (.ok (), { c with counters := c.counters.add (.zero false) (name, labels) x })

/-- The histogram of a series of request durations. -/
def durationsOf (labels : List String) (c : Collector) : Histogram :=
  (Assoc.find? labels c.durations).getD .empty

/-- The collector with a series of request durations. -/
def setDurations (labels : List String) (h : Histogram) (c : Collector) : Collector :=
  { c with durations := Assoc.put labels h c.durations }

/-- Observe the duration of a request. -/
def observe (labels : List String) (seconds : Json) (c : Collector) :
    Except Failure Unit × Collector :=
  let h := c.durationsOf labels
  match amount seconds, seconds.quantity? with
  | .ok x, some value => (.ok (), c.setDurations labels (h.observe value x))
  | .error e, _ => (.error e, c.setDurations labels h)
  | _, none => (.error .mistyped, c.setDurations labels h)

/-- Record an answered request. -/
def recordRequest (method endpoint status seconds : Json) (c : Collector) :
    Except Failure Unit × Collector :=
  let labels := [method.text, endpoint.text]
  match c.add "http_requests_total" (labels ++ [status.text]) (.int 1) with
  | (.ok _, c) => c.observe labels seconds
  | (.error e, c) => (.error e, c)

/-- Record a health check. -/
def recordHealthCheck (status : Json) (c : Collector) : Except Failure Unit × Collector :=
  c.add "health_check_total" [status.text] (.int 1)

/-- Record an error, of this service unless another one is named. -/
def recordError (kind service : Json) (c : Collector) : Except Failure Unit × Collector :=
  let service := if service.truthy then service.text else c.service.text
  c.add "errors_total" [kind.text, service] (.int 1)

/-- Increment a metric by name; a name that the service does not have is passed over. -/
def increment (name n : Json) (given : Details) (c : Collector) :
    Except Failure Unit × Collector :=
  match c.named name with
  | .error e => (.error e, c)
  | .ok none => (.ok (), c)
  | .ok (some m) =>
    match labelValues m given with
    | .error e => (.error e, c)
    | .ok labels =>
      match m.kind with
      | .info => (.error .unreadable, c)
      | .counter => c.add name.text labels n
      | .histogram => (.error .unknownName, c.setDurations labels (c.durationsOf labels))

/-- The names of a metric's labels with their values. -/
def labelPairs (name : String) (values : List String) (c : Collector) : List (String × Json) :=
  match c.find? name with
  | some m => m.labels.zip (values.map .str)
  | none => []

/-- The sample that tells what the service is. -/
def infoSample (service : Json) : Sample :=
  .ofCount "service_info_info" [("service", service), ("version", "1.0.0")] 1

/-- Every sample. -/
def samples (c : Collector) : List Sample :=
  infoSample c.service
  :: (c.counters.map fun e => ⟨e.1.1, c.labelPairs e.1.1 e.1.2, e.2.text⟩)
  ++ c.durations.flatMap fun e =>
    e.2.samples "http_request_duration_seconds"
      (c.labelPairs "http_request_duration_seconds" e.1)

end Collector

end Recommender
