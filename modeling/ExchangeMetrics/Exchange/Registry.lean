import ExchangeMetrics.Exec.Basic

/-!
# Registries and samples

A registry is where observations go. It has a clock, and takes observations of a timer with
tags. A sample is a measurement in progress: it is started with one reading of the registry's
clock and stopped with another, and gives the registry the time between the two.
-/

namespace ExchangeMetrics

variable {σ : Type}

/-- Where observations go. -/
structure MeterRegistry (σ : Type) where
  /-- Read the clock. -/
  now : Exec σ Instant
  /-- Take an observation, or refuse it. -/
  record : TimerId → Tags → Duration → Exec σ (Except MetricsError Unit)

namespace MeterRegistry

/-- Read the clock of a registry, and note the reading. -/
def read (registry : MeterRegistry σ) : Exec σ Instant := do
  let reading ← registry.now
  Exec.note (.clockRead reading)
  pure reading

/-- Give a registry an observation, and note that it was given. -/
def observe (registry : MeterRegistry σ) (timer : TimerId) (tags : Tags) (elapsed : Duration) :
    Exec σ (Except MetricsError Unit) := do
  Exec.note (.observed timer tags elapsed)
  registry.record timer tags elapsed

/-- The same registry, of which it is noted that observations given to it are those of an
exchange. -/
def onBehalfOf (registry : MeterRegistry σ) (exchange : ExchangeId) : MeterRegistry σ where
  now := registry.now
  record timer tags elapsed := do
    Exec.note (.submitted exchange)
    let answer ← registry.record timer tags elapsed
    Exec.note (.answered exchange answer)
    pure answer

end MeterRegistry

/-- A measurement in progress. -/
structure Sample where
  /-- The reading of the clock with which the measurement was started. -/
  begun : Instant
deriving DecidableEq

namespace Sample

/-- Start a measurement with the clock of a registry. -/
def start (registry : MeterRegistry σ) : Exec σ Sample := do
  pure ⟨← registry.read⟩

/-- Stop a measurement and give the registry the time it took. -/
def stop (sample : Sample) (registry : MeterRegistry σ) (timer : TimerId) (tags : Tags) :
    Exec σ (Except MetricsError Duration) := do
  let elapsed := (← registry.read).since sample.begun
  match ← registry.observe timer tags elapsed with
  | .ok () => pure (.ok elapsed)
  | .error reason => pure (.error reason)

end Sample

end ExchangeMetrics
