import ExchangeMetrics.Exchange.Propagation
import ExchangeMetrics.Exchange.Registry
import ExchangeMetrics.Route.Capture
import ExchangeMetrics.Tagging

/-!
# Measuring one exchange

An instrumentation says how exchanges are measured: by which registry, under which timer, with
which tags, and whether headers are propagated. Starting it on a request resolves the route,
takes the view and starts the clock; the `Observation` that results is recorded exactly once,
when the exchange is over.

Recording never disturbs the exchange. If the tags provider or the registry fails or panics,
nothing is recorded and the reason is reported; otherwise the report says what was recorded.

## Main definitions

* `Instrumentation.start`, `Observation.record`: the two ends of a measurement.
* `Observation.stop`, `Observation.abandon`: recording an exchange that has a result, and one
  that has none.
* `Observation.complete`, `Observation.forsake`: settling either, and recording it.
* `Observation.lastly`: what is left to do when an exchange ends.
-/

namespace ExchangeMetrics

variable {σ α ρ π ρ' π' : Type}

/-- Whoever derives the tags of an exchange from what is seen of it. -/
abbrev TagsProvider (σ : Type) : Type :=
  RequestView → Reply → Exec σ (Except MetricsError Tags)

/-- The provider of the standard tags. -/
def TagsProvider.standard (unknown : String) : TagsProvider σ :=
  fun request reply => pure (.ok (standardTags unknown request reply))

/-- How exchanges are measured. -/
structure Instrumentation (ρ π : Type) where
  /-- The registry that observations are given to. -/
  registry : ρ
  /-- The provider of their tags. -/
  provider : π
  /-- The timer under which they are recorded. -/
  timer : TimerId
  /-- Whether headers are propagated. -/
  propagates : Bool

/-- An instrumentation whose registry and provider can be used. -/
abbrev LiveInstrumentation (σ : Type) : Type :=
  Instrumentation (MeterRegistry σ) (TagsProvider σ)

/-- The same instrumentation with its registry and its provider replaced. -/
def Instrumentation.map (i : Instrumentation ρ π) (f : ρ → ρ') (g : π → π') :
    Instrumentation ρ' π' :=
  ⟨f i.registry, g i.provider, i.timer, i.propagates⟩

/-! ### Errors of an exchange -/

/-- Ask for the text of an error. A text that cannot be given is a panic. -/
def Rendering.render : Rendering → Exec σ String
  | text s => pure s
  | fails => Exec.panic "a Display implementation returned an error unexpectedly: Error"
  | panics message => Exec.panic message

/-- Describe an error by the bare name of its type and by its text. -/
def Failure.describe (f : Failure) : Exec σ Fault := do
  pure ⟨Fault.bareTypeName f.typeName, ← f.display.render⟩

/-- How an exchange is described that was dropped while the thread was not unwinding. -/
def Fault.cancelled : Fault := ⟨"Cancelled", "exchange dropped before completion"⟩

/-- How an exchange is described that was dropped while the thread was unwinding. -/
def Fault.delegatePanicked : Fault := ⟨"Panic", "delegate panicked"⟩

/-! ### Observations -/

/-- An exchange that is being measured. -/
structure Observation where
  /-- The number of the exchange. -/
  exchange : ExchangeId
  /-- What is seen of the request. -/
  request : RequestView
  /-- The measurement. -/
  sample : Sample

/-- Begin to measure the exchange of a request: claim its route, propagate headers into it, and
start the clock. The request is given back as it is to be handed on. -/
def Instrumentation.start (i : LiveInstrumentation σ) (request : Request) :
    Exec σ (Observation × Request) := do
  let route ← Route.resolve request
  let view := (RequestView.ofRequest request).withRoute route
  let (view, request) ← if i.propagates then propagate view request else pure (view, request)
  let sample ← Sample.start i.registry
  let exchange ← Exec.newExchange view
  pure (⟨exchange, view, sample⟩, request)

namespace Observation

/-- The tags of an exchange. A provider that panics has failed to derive them. -/
def tags (o : Observation) (i : LiveInstrumentation σ) (reply : Reply) :
    Exec σ (Except MetricsError Tags) := do
  match ← (i.provider o.request reply).guarded with
  | .returned tags => pure tags
  | .panicked _ => pure (.error (.tagDerivation "tags provider panicked"))

/-- Stop the clock and give the registry the observation. A registry that panics has refused
it. -/
def submit (o : Observation) (i : LiveInstrumentation σ) (tags : Tags) :
    Exec σ (Except MetricsError Duration) := do
  match ← (o.sample.stop (i.registry.onBehalfOf o.exchange) i.timer tags).guarded with
  | .returned elapsed => pure elapsed
  | .panicked _ => pure (.error (.registry "meter registry panicked"))

/-- Derive the tags, submit the observation, and say how it went. -/
def attempt (o : Observation) (i : LiveInstrumentation σ) (reply : Reply) : Exec σ Report := do
  let tags ← o.tags i reply
  Exec.note (.tagged o.exchange tags)
  match tags with
  | .error reason => pure (.unrecorded i.timer.name reason)
  | .ok tags => do
      match ← o.submit i tags with
      | .error reason => pure (.unrecorded i.timer.name reason)
      | .ok elapsed => pure (.recorded i.timer.name tags.size elapsed)

/-- Record an exchange of which this came. -/
def record (o : Observation) (i : LiveInstrumentation σ) (reply : Reply) : Exec σ Unit := do
  Exec.note (.recording o.exchange reply)
  let report ← o.attempt i reply
  Exec.note (.reported o.exchange report)

/-- Record an exchange that has a result. An error is asked for its text before anything is
recorded. -/
def stop (o : Observation) (i : LiveInstrumentation σ) : Result → Exec σ Unit
  | .ok response => o.record i (.ofResponse response)
  | .error failure => do
      let fault ← failure.describe
      o.record i (.failed fault)

/-- Record an exchange that was dropped without a result. -/
def abandon (o : Observation) (i : LiveInstrumentation σ) : Exec σ Unit := do
  let c ← Exec.context
  o.record i (.failed (if c.unwinding then .delegatePanicked else .cancelled))

/-- Note that the request of an exchange is handed on. -/
def dispatch (o : Observation) : Exec σ Unit :=
  Exec.note (.dispatched o.exchange)

/-- Note that whoever the request was handed on to is done with it. -/
def settle (o : Observation) (how : Departure) : Exec σ Unit :=
  Exec.note (.settled o.exchange how)

/-- Settle an exchange that has a result, and record it. -/
def complete (o : Observation) (i : LiveInstrumentation σ) (result : Result) : Exec σ Unit := do
  o.settle (.result result)
  o.stop i result

/-- Settle an exchange that was dropped without a result, and record it. -/
def forsake (o : Observation) (i : LiveInstrumentation σ) (how : Departure) : Exec σ Unit := do
  o.settle how
  o.abandon i

/-- Run the last part of an exchange, and note that the exchange is over, whichever way that
part ends. -/
def lastly (o : Observation) (m : Exec σ α) : Exec σ α :=
  m.andThen (Exec.note (.ended o.exchange))

end Observation

end ExchangeMetrics
