import ExchangeMetrics.Route.Stack
import ExchangeMetrics.Timer.Histogram
import ExchangeMetrics.View

/-!
# The journal of a run

While exchanges run, whatever matters for what can be said about them is written down as a
`Moment`: which thread it happened on, what happened, and how the thread stood afterwards. The
journal is only ever added to.

Some of the events are meant to be read by people or by a metrics backend; they are picked out
of the journal by `Event.log?` and `Event.meter?`. What people read has a level, a target and a
message.
-/

namespace ExchangeMetrics

/-- A thread is known by a number. -/
abbrev ThreadId := Nat

/-- An exchange is known by a number. -/
abbrev ExchangeId := Nat

/-- What belongs to one thread. -/
structure Thread where
  /-- The templates captured on the thread and not yet claimed. -/
  routes : Route.Stack := {}
  /-- The number of exchange scopes open on the thread. -/
  active : Nat := 0
deriving DecidableEq

/-- What is said about the recording of an exchange once it is over. -/
inductive Report where
  /-- The observation was recorded. -/
  | recorded (metric : String) (tags : Nat) (elapsed : Duration)
  /-- It was not, for this reason. -/
  | unrecorded (metric : String) (reason : MetricsError)
deriving DecidableEq

/-- How whoever an exchange handed its request on to was done with it. -/
inductive Departure where
  /-- It gave a result. -/
  | result (r : Result)
  /-- It panicked. -/
  | panicked
  /-- It was dropped before it gave a result. -/
  | dropped

/-- What happens while exchanges run. -/
inductive Event where
  /-- An exchange scope is opened. -/
  | scopeOpened
  /-- An exchange scope is closed, and with the outermost one the route stack is cleared. -/
  | scopeClosed
  /-- A template is pushed, to be expanded. -/
  | captured (token : UInt64) (template : String)
  /-- The expansion of a pushed template gave a URI. -/
  | bound (token : UInt64) (uri : Uri)
  /-- The expansion of a pushed template failed. -/
  | discarded (token : UInt64)
  /-- An exchange asked for the entry of its URI. -/
  | claimed (uri : Uri) (entry : Option Route.Entry)
  /-- The route stack was cleared on demand. -/
  | cleared
  /-- A header offered for propagation was not set. -/
  | headerSkipped (header : String) (reason : MetricsError)
  /-- A clock was read. -/
  | clockRead (reading : Instant)
  /-- The measurement of an exchange has begun. -/
  | started (exchange : ExchangeId) (request : RequestView)
  /-- The request of an exchange was handed on. -/
  | dispatched (exchange : ExchangeId)
  /-- Whoever the request was handed on to is done with it. -/
  | settled (exchange : ExchangeId) (how : Departure)
  /-- The recording of an exchange has begun. -/
  | recording (exchange : ExchangeId) (reply : Reply)
  /-- The tags provider was asked for the tags of an exchange. -/
  | tagged (exchange : ExchangeId) (tags : Except MetricsError Tags)
  /-- A registry was given an observation. -/
  | observed (timer : TimerId) (tags : Tags) (elapsed : Duration)
  /-- A registry was given the observation of an exchange. -/
  | submitted (exchange : ExchangeId)
  /-- The registry took the observation of an exchange, or refused it. -/
  | answered (exchange : ExchangeId) (answer : Except MetricsError Unit)
  /-- The recording of an exchange is over. -/
  | reported (exchange : ExchangeId) (report : Report)
  /-- An exchange is over. -/
  | ended (exchange : ExchangeId)
  /-- A meter was told something. -/
  | metered (event : MeterEvent)

/-- What people read about a run. -/
inductive LogEvent where
  /-- How the recording of an exchange went. -/
  | report (report : Report)
  /-- A header that could not be propagated. -/
  | headerSkipped (header : String) (reason : MetricsError)
deriving DecidableEq

/-- How closely one has to look to read something. -/
inductive LogLevel where
  /-- What is read by whoever follows every step. -/
  | trace
  /-- What is read to find a mistake. -/
  | debug
  /-- What is read as a rule. -/
  | info
deriving DecidableEq

/-- The level as it is written. -/
def LogLevel.text : LogLevel → String
  | trace => "TRACE"
  | debug => "DEBUG"
  | info => "INFO"

namespace LogEvent

/-- The level at which it is read. -/
def level : LogEvent → LogLevel
  | report (.recorded ..) => .trace
  | report (.unrecorded ..) => .info
  | headerSkipped .. => .debug

/-- The part of the program in whose name it is read. -/
def target : LogEvent → String
  | report (.recorded ..) => "modkit_http_metrics::observation"
  | report (.unrecorded ..) => "modkit_http_metrics"
  | headerSkipped .. => "modkit_http_metrics::otel::imp"

/-- What it says, apart from its details. -/
def message : LogEvent → String
  | report (.recorded ..) => "Recorded client exchange"
  | report (.unrecorded ..) => "Failed to record metrics"
  | headerSkipped .. => "Skipping trace context header"

/-- Those who follow every step read of the observations that were recorded. -/
theorem level_report_eq_trace_iff {r : Report} :
    (report r).level = .trace ↔ ∃ metric n d, r = .recorded metric n d := by
  cases r <;> simp [level]

/-- As a rule one reads of the observations that were not recorded. -/
theorem level_report_eq_info_iff {r : Report} :
    (report r).level = .info ↔ ¬ ∃ metric n d, r = .recorded metric n d := by
  cases r <;> simp [level]

end LogEvent

namespace Event

/-- The part of an event that people read, if it has one. -/
def log? : Event → Option LogEvent
  | reported _ report => some (.report report)
  | headerSkipped header reason => some (.headerSkipped header reason)
  | _ => none

/-- The part of an event that a meter was told, if it has one. -/
def meter? : Event → Option MeterEvent
  | metered event => some event
  | _ => none

end Event

/-- One entry of the journal. -/
structure Moment where
  /-- The thread on which the event happened. -/
  thread : ThreadId
  /-- What happened. -/
  event : Event
  /-- How the thread stood right after it. -/
  after : Thread

end ExchangeMetrics
