import ExchangeMetrics.Uri.Basic

/-!
# Errors of the instrumentation

Everything that can go wrong in measuring an exchange, as opposed to the exchange itself. None
of these reaches the caller of a measured exchange; they are returned only where a text is
read, a template expanded or an instrumentation built, and reported where a recording fails.
-/

namespace ExchangeMetrics

/-- Why a template could not be expanded. -/
inductive TemplateFault where
  /-- An opening brace has no closing brace behind it. -/
  | unclosed
  /-- A placeholder has no value; `name` is the name in it. -/
  | missing (name : String)
  /-- A reason given by a template handler of one's own. -/
  | described (reason : String)
deriving DecidableEq

/-- The wording of a template fault. -/
def TemplateFault.message : TemplateFault → String
  | unclosed => "unclosed variable"
  | missing name => "missing value for variable '" ++ name ++ "'"
  | described reason => reason

/-- An error of the instrumentation. -/
inductive MetricsError where
  /-- No tags could be derived for an exchange. -/
  | tagDerivation (message : String)
  /-- The registry refused an observation. -/
  | registry (message : String)
  /-- A text is not the name of a header. -/
  | invalidHeaderName
  /-- A text is not the value of a header. -/
  | invalidHeaderValue
  /-- A template could not be expanded. -/
  | uriTemplate (template : String) (fault : TemplateFault)
  /-- A text is not a URI. -/
  | invalidUri (error : UriError)
  /-- A configuration is not acceptable. -/
  | invalidConfig (message : String)
deriving DecidableEq

namespace MetricsError

/-- The wording of the underlying error, for the errors that have one. -/
def source : MetricsError → Option String
  | invalidHeaderName => some "invalid HTTP header name"
  | invalidHeaderValue => some "failed to parse header value"
  | invalidUri error => some error.message
  | _ => none

/-- The wording of an error. -/
def message : MetricsError → String
  | tagDerivation m => "Failed to derive tags: " ++ m
  | registry m => "Meter registry error: " ++ m
  | invalidHeaderName => "Invalid header name: invalid HTTP header name"
  | invalidHeaderValue => "Invalid header value: failed to parse header value"
  | uriTemplate template fault =>
      "Failed to expand URI template '" ++ template ++ "': " ++ fault.message
  | invalidUri error => "Invalid URI: " ++ error.message
  | invalidConfig m => "Invalid metrics configuration: " ++ m

end MetricsError

end ExchangeMetrics
