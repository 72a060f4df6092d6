import ExchangeMetrics.Tags
import ExchangeMetrics.Time

/-!
# Timers

A timer is what observations are recorded under: a name, and a description for people to read.
-/

namespace ExchangeMetrics

/-- The identity of a timer. -/
structure TimerId where
  /-- The name under which observations are found. -/
  name : String
  /-- What is measured, in words. -/
  description : Option String := none
deriving DecidableEq

end ExchangeMetrics
