import ExchangeMetrics.Error
import ExchangeMetrics.Tagging
import ExchangeMetrics.Text.Blank

/-!
# Configurations

What can be chosen about how exchanges are measured without writing any code: the timer's name
and description, what stands for an unknown route, and whether headers are propagated.
-/

namespace ExchangeMetrics

/-- A configuration. Each field has the value used where nothing is chosen. -/
structure Config where
  /-- The name of the timer that exchanges are recorded under. -/
  metricName : String := "http.client.requests"
  /-- The description of the timer. -/
  description : String := "Timer of HTTP client exchanges"
  /-- What stands for the route of a request that has none. -/
  unknownUri : String := ExchangeMetrics.unknownUri
  /-- Whether headers are propagated. -/
  propagates : Bool := false
deriving DecidableEq

namespace Config

/-- Accept a configuration unless the name of its timer is blank. -/
def validate (c : Config) : Except MetricsError Unit :=
  if Text.isAllBlank c.metricName then .error (.invalidConfig "metric_name must not be empty")
  else .ok ()

end Config

end ExchangeMetrics
