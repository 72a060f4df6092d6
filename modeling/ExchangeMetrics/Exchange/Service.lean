import ExchangeMetrics.Exchange.Instrumentation

/-!
# Measuring a service

A service takes a request and gives a future, from which the result is obtained by polling it
any number of times. A measured service measures from the call to the result; a future that is
dropped before it has a result is recorded as well.

Only the call itself runs within the exchange's scope. The future may be polled and dropped on
any thread, and neither touches the route stack of that thread.

## Main definitions

* `Instrumentation.wrap`: the measured service.
* `Flight.poll`, `Flight.drop`: what can be done with its futures.
-/

namespace ExchangeMetrics

variable {σ φ : Type}

/-- Whether a service can take a request. -/
inductive Readiness where
  /-- It can. -/
  | ready
  /-- It cannot yet. -/
  | pending
  /-- It never will again. -/
  | failed (failure : Failure)
deriving DecidableEq

/-- A service whose futures are of type `φ`. -/
structure Service (σ φ : Type) where
  /-- Ask whether the service can take a request. -/
  ready : Exec σ Readiness
  /-- Hand a request to the service. -/
  call : Request → Exec σ φ

/-- What polling a future gives. -/
inductive Poll (φ : Type) where
  /-- The future, which has no result yet. -/
  | pending (future : φ)
  /-- The result. -/
  | done (result : Result)

/-- What can be done with futures of type `φ`. -/
structure Futures (σ φ : Type) where
  /-- Poll a future. -/
  poll : φ → Exec σ (Poll φ)
  /-- Drop a future. -/
  drop : φ → Exec σ Unit

/-- A future of a measured service. -/
structure Flight (φ : Type) where
  /-- The exchange. -/
  observation : Observation
  /-- The future of the service that is measured. -/
  inner : φ

namespace Instrumentation

/-- Hand a request to a service and begin to measure the exchange. -/
def call (i : LiveInstrumentation σ) (inner : Request → Exec σ φ) (request : Request) :
    Exec σ (Flight φ) :=
  Route.inScope do
    let (o, request) ← i.start request
    o.dispatch
    let future ← (inner request).onPanic (o.lastly (o.forsake i .panicked))
    pure ⟨o, future⟩

/-- The measured service. It is ready when the service it measures is. -/
def wrap (i : LiveInstrumentation σ) (inner : Service σ φ) : Service σ (Flight φ) where
  ready := inner.ready
  call := i.call inner.call

end Instrumentation

namespace Flight

/-- Poll a future of a measured service. The exchange is recorded when the result is there, or
while a panic of the polled future goes on. -/
def poll (f : Flight φ) (i : LiveInstrumentation σ) (futures : Futures σ φ) :
    Exec σ (Poll (Flight φ)) := do
  let o := f.observation
  match ← (futures.poll f.inner).onPanic (o.lastly (o.forsake i .panicked)) with
  | .pending inner => pure (.pending { f with inner := inner })
  | .done result => o.lastly do
      o.complete i result
      pure (.done result)

/-- Drop a future of a measured service before it has a result: first the future inside it, then
the observation. -/
def drop (f : Flight φ) (i : LiveInstrumentation σ) (futures : Futures σ φ) : Exec σ Unit :=
  f.observation.lastly do
    (futures.drop f.inner).onPanic (f.observation.forsake i .panicked)
    f.observation.forsake i .dropped

end Flight

end ExchangeMetrics
