/-!
# Outcomes

The coarse classification of a status by its first digit. A status outside of the five classes,
the zero that stands for a missing response among them, has an unknown outcome.
-/

namespace ExchangeMetrics

/-- The class of a response status. -/
inductive Outcome where
  | informational
  | success
  | redirection
  | clientError
  | serverError
  | unknown
deriving DecidableEq

namespace Outcome

/-- The class of a status code. -/
def ofStatus (code : Nat) : Outcome :=
  match code / 100 with
  | 1 => informational
  | 2 => success
  | 3 => redirection
  | 4 => clientError
  | 5 => serverError
  | _ => unknown

/-- The name of an outcome. -/
def text : Outcome → String
  | informational => "INFORMATIONAL"
  | success => "SUCCESS"
  | redirection => "REDIRECTION"
  | clientError => "CLIENT_ERROR"
  | serverError => "SERVER_ERROR"
  | unknown => "UNKNOWN"

end Outcome

end ExchangeMetrics
