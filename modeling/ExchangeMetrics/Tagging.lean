import ExchangeMetrics.Outcome
import ExchangeMetrics.Route.Normal
import ExchangeMetrics.Tags
import ExchangeMetrics.View

/-!
# The standard tags

Every exchange is given five tags: the method, the normalised route in place of the URI, the
status, its outcome, and the kind of the error. Where one of them is not known a fixed text
stands for it; the text for an unknown route may be chosen.

## Main results

* `standardTags_get?`: the value of every key.
-/

namespace ExchangeMetrics

/-- What stands for the route of a request that has none, unless another text is chosen. -/
def unknownUri : String := "UNKNOWN"

/-- What stands for the status of an exchange without a response. -/
def missingStatus : String := "CLIENT_ERROR"

/-- What stands for the kind of the error of an exchange without an error. -/
def noException : String := "None"

/-- The text of a status code. -/
def statusText (code : Nat) : String :=
  if code = 0 then missingStatus else String.ofList (Nat.toDigits 10 code)

/-- The text for the route of a request. -/
def uriText (unknown : String) (request : RequestView) : String :=
  request.route.elim unknown Route.normal

/-- The tags of an exchange. -/
def standardTags (unknown : String) (request : RequestView) (reply : Reply) : Tags :=
  Tags.empty
    |>.insert "method" request.method.text
    |>.insert "uri" (uriText unknown request)
    |>.insert "status" (statusText reply.statusCode)
    |>.insert "outcome" (Outcome.ofStatus reply.statusCode).text
    |>.insert "exception" (reply.fault?.elim noException (·.kind))

/-- The value of every key in the standard tags. -/
theorem standardTags_get? (unknown : String) (request : RequestView) (reply : Reply)
    (k : String) :
    (standardTags unknown request reply).get? k =
      if "exception" = k then some (reply.fault?.elim noException (·.kind))
      else if "outcome" = k then some (Outcome.ofStatus reply.statusCode).text
      else if "status" = k then some (statusText reply.statusCode)
      else if "uri" = k then some (uriText unknown request)
      else if "method" = k then some request.method.text
      else none := by
  simp only [standardTags, Tags.get?_insert, Tags.get?_empty]

end ExchangeMetrics
