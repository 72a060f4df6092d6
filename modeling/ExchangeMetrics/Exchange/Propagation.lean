import ExchangeMetrics.Exec.Basic

/-!
# Propagating headers

The global propagator offers headers to every request, one after another. Each one that is well
formed is set in the view of the request, and one that is not is skipped and reported. What was
set in the view is then put into the request itself, so that the two agree.

## Main definitions

* `RequestView.offer`: the view after a list of headers was offered, and what was skipped.
* `propagate`: the view and the request after the propagator was asked.
-/

namespace ExchangeMetrics

variable {σ : Type}

namespace RequestView

/-- Offer headers to a view, in order: the view with all that could be set, and those that
could not, each with the reason. -/
def offer (v : RequestView) :
    List (String × String) → RequestView × List (String × MetricsError)
  | [] => (v, [])
  | (name, value) :: rest =>
      match v.setHeader name value with
      | .ok v' => v'.offer rest
      | .error reason =>
          let (v', skipped) := v.offer rest
          (v', (name, reason) :: skipped)

end RequestView

/-- Offer the headers of the global propagator to a view, and report those it skips. -/
def inject (v : RequestView) : Exec σ RequestView := do
  let (v', skipped) := v.offer (← Exec.propagated)
  skipped.forM fun (name, reason) => Exec.note (.headerSkipped name reason)
  pure v'

/-- Put the headers of the global propagator into a request and into the view of it. -/
def propagate (v : RequestView) (request : Request) : Exec σ (RequestView × Request) := do
  let v' ← inject v
  pure (v'.withoutInjected, { request with headers := request.headers.extend v'.injected })

end ExchangeMetrics
