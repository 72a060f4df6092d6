import ExchangeMetrics.Timer.Basic

/-!
# Timers exported as histograms

Instead of being summarised in memory, observations may be handed to a meter, which keeps one
histogram per timer name. The histogram is built at the first observation of the name, with
the description given there; every observation becomes one measurement, in seconds, with the
tags as its attributes.

What a meter is told is a list of events: the instruments built and the measurements made.
-/

namespace ExchangeMetrics

/-- A value that is measured, as a meter receives it. -/
structure MeterValue where
  /-- The number of seconds, in floating point. -/
  toSeconds : Float

/-- The value that is measured for a length of time. -/
def MeterValue.ofDuration (d : Duration) : MeterValue := ⟨d.toSeconds⟩

/-- What a meter is told. -/
inductive MeterEvent where
  /-- A histogram is built. -/
  | created (name : String) (description : Option String) (unit scope : String)
  /-- A value is measured. -/
  | measured (name : String) (value : MeterValue) (attributes : List (String × String))

/-- An exporter of observations to a meter. -/
structure HistogramExporter where
  /-- The scope in whose name the meter is told. -/
  scope : String
  /-- The names of the histograms built so far. -/
  built : List String := []
deriving DecidableEq

namespace HistogramExporter

/-- The unit of every histogram. -/
def unit : String := "s"

/-- Export one observation: what the meter is told, and the exporter afterwards. -/
def record (e : HistogramExporter) (timer : TimerId) (tags : Tags) (elapsed : Duration) :
    HistogramExporter × List MeterEvent :=
  let measurement := MeterEvent.measured timer.name (.ofDuration elapsed) tags.toPairs
  if e.built.contains timer.name then (e, [measurement])
  else
    ({ e with built := timer.name :: e.built },
      [.created timer.name timer.description unit e.scope, measurement])

end HistogramExporter

end ExchangeMetrics
