import ExchangeMetrics.Exchange.Instrumentation

/-!
# Intercepting a call

An interceptor stands between a caller and a delegate that carries out requests and returns
when it is done. The caller gets what the delegate returned, or the delegate's panic, as if the
interceptor were not there; in between the exchange is measured.
-/

namespace ExchangeMetrics

variable {σ : Type}

/-- Carry out a request by a delegate and measure the exchange. The delegate runs within the
exchange's scope. If it panics, the exchange is recorded while the panic goes on. -/
def Instrumentation.intercept (i : LiveInstrumentation σ) (request : Request)
    (delegate : Request → Exec σ Result) : Exec σ Result :=
  Route.inScope do
    let (o, request) ← i.start request
    o.lastly do
      o.dispatch
      let result ← (delegate request).onPanic (o.forsake i .panicked)
      o.complete i result
      pure result

end ExchangeMetrics
