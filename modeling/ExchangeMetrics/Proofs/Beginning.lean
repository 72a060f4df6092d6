import ExchangeMetrics.Proofs.Program
import ExchangeMetrics.Proofs.Propagation

/-!
# What the first reading of the clock decides

Before the request of an exchange is handed on, nothing is done that is foreign to the exchange but
reading the clock; and unlike the second reading, which belongs to the recording, the first one is
not guarded. So it decides over the exchange: if the clock gives a reading, whatever else the
registry does later is kept from the caller, and if it panics, the request is not handed on, and the
caller gets the panic.

## Main results

* `GoesOn.of_start`, `Lost.of_start`: what becomes of an exchange by how it began.
* `Instrumentation.all_or_nothing`: what the first reading of the clock decides.
-/

namespace ExchangeMetrics

variable {σ : Type}

/-! ### What becomes of an exchange -/

section

variable (i : LiveInstrumentation σ) (request : Request) (c : Context) (w : World σ)

/-- An exchange that has begun goes on, from some world, as if it were not measured: the request is
handed on once, what the tags provider, the clock and the registry do from then on is kept from the
caller, and the caller gets what the delegate gave, unless that is an error without a text. -/
structure GoesOn (o : Observation) (w₁ : World σ) : Prop where
  /-- An interceptor runs the delegate and concludes the exchange according to what it gave. -/
  intercepted : ∀ delegate : Request → Exec σ Result,
    let d := (delegate (i.handedOn request w.propagated)).run c
      (w₁.note c.thread (.dispatched o.exchange))
    ∃ e w₂, Concluded i o c d.2 d.1 e w₂ ∧
      (i.intercept request delegate).run c w =
        (e, (Route.closeScope.run c (w₂.note c.thread (.ended o.exchange))).2) ∧
      ((∀ f, d.1 = .returned (.error f) → ¬ f.IsMute) → e = d.1)
  /-- A measured service calls the service and gives its future. -/
  called : ∀ {φ : Type} (inner : Request → Exec σ φ) (future : φ) (w₂ : World σ),
    (inner (i.handedOn request w.propagated)).run c
        (w₁.note c.thread (.dispatched o.exchange)) = (.returned future, w₂) →
      (i.call inner request).run c w = (.returned ⟨o, future⟩, (Route.closeScope.run c w₂).2)
  /-- If the service panics when it is called, so does the measured service. -/
  callPanicked : ∀ {φ : Type} (inner : Request → Exec σ φ) (message : String) (w₂ : World σ),
    (inner (i.handedOn request w.propagated)).run c
        (w₁.note c.thread (.dispatched o.exchange)) = (.panicked message, w₂) →
      ∃ w₃, Concluded i o c w₂ (.panicked message) (.panicked message) w₃ ∧
        (i.call inner request).run c w =
          (.panicked message, (Route.closeScope.run c (w₃.note c.thread (.ended o.exchange))).2)
  /-- Awaiting the future gives what the service's future gives, wherever that is done. -/
  awaited : ∀ {φ : Type} (futures : Futures σ φ) (pauses : List (Exec σ Unit)) (future : φ)
    (c' : Context) (w' : World σ),
    let d := (futures.await pauses future).run c' w'
    ∃ e w₂, Flown i o c' d.2 d.1 e w₂ ∧
      ((i.flights futures).await pauses ⟨o, future⟩).run c' w' = (e, w₂) ∧
      ((∀ f, d.1 = .returned (some (.error f)) → ¬ f.IsMute) → e = d.1)

/-- An exchange does not take place: its caller gets a panic, in the world in which the clock left
it, whoever the request was meant for. -/
structure Lost (message : String) (w₁ : World σ) : Prop where
  /-- By an interceptor. -/
  intercepted : ∀ delegate : Request → Exec σ Result,
    (i.intercept request delegate).run c w = (.panicked message, (Route.closeScope.run c w₁).2)
  /-- By a measured service. -/
  called : ∀ {φ : Type} (inner : Request → Exec σ φ),
    (i.call inner request).run c w = (.panicked message, (Route.closeScope.run c w₁).2)

/-- What becomes of an exchange, by what the clock does when it is read first. -/
inductive AllOrNothing : Prop where
  /-- The clock gave a reading. -/
  | all {o : Observation} {w₁ : World σ}
      (hb : Begun i request c (Route.openScope.run c w).2
        (.returned (o, i.handedOn request w.propagated)) w₁)
      (h : GoesOn i request c w o w₁) : AllOrNothing
  /-- The clock panicked. -/
  | nothing {message : String} {w₁ : World σ}
      (hb : Begun i request c (Route.openScope.run c w).2 (.panicked message) w₁)
      (h : Lost i request c w message w₁) : AllOrNothing

end

section

variable {i : LiveInstrumentation σ} {request : Request} {c : Context} {w w₁ : World σ}

/-- An exchange that has begun goes on, with an interceptor and with a measured service. -/
theorem GoesOn.of_start {o : Observation}
    (h : (i.start request).run c (Route.openScope.run c w).2 =
      (.returned (o, i.handedOn request w.propagated), w₁)) : GoesOn i request c w o w₁ where
  intercepted delegate := by
    obtain ⟨e, w₂, hc, hrun⟩ := i.run_intercept delegate h rfl
    exact ⟨e, w₂, hc, hrun, hc.eq⟩
  called _ _ _ hinner := i.run_call_returned h hinner
  callPanicked _ _ _ hinner := i.run_call_panicked h hinner
  awaited futures pauses future c' w' := by
    obtain ⟨e, w₂, hflown, hrun⟩ := Flight.run_await i futures pauses ⟨o, future⟩ (c := c') w'
    exact ⟨e, w₂, hflown, hrun, hflown.eq⟩

/-- An exchange that could not begin does not take place, whoever was to be asked. -/
theorem Lost.of_start {message : String}
    (h : (i.start request).run c (Route.openScope.run c w).2 = (.panicked message, w₁)) :
    Lost i request c w message w₁ where
  intercepted _ := Route.run_inScope (Exec.run_bind_panicked h)
  called _ := Route.run_inScope (Exec.run_bind_panicked h)

end

/-- The first reading of the clock decides whether a request is handed on; whatever the clock, the
registry and the tags provider do later does not matter to the caller. -/
theorem Instrumentation.all_or_nothing (i : LiveInstrumentation σ) (request : Request)
    (c : Context) (w : World σ) : AllOrNothing i request c w := by
  obtain ⟨e, w₁, hstart, hbegun⟩ := i.run_start request c (Route.openScope.run c w).2
  rcases hbegun with hn | ⟨hn, hv⟩
  · exact .nothing (.clockPanicked hn) (.of_start hstart)
  · exact .all (.begun hn hv) (.of_start hstart)

/-! ### A clock that panics -/

/-- An instrumentation whose clock panics, with the number of requests handed on as what is
shared. -/
def Instrumentation.clockless : LiveInstrumentation Nat :=
  { Instrumentation.plain false with
    registry := { now := Exec.panic "clock bug", record := fun _ _ _ => pure (.ok ()) } }

/-- A delegate that counts the requests it was handed, and answers all of them. -/
def countingDelegate (_ : Request) : Exec Nat Result := do
  Exec.modifyShared (· + 1)
  pure (.ok .plain)

/-- A clock that panics costs the request: the delegate would have answered, but it is not asked,
and the caller gets the panic, from an interceptor and from a measured service. -/
theorem Instrumentation.clockless_loses :
    ((countingDelegate .plain).run {} { shared := 0 }).1 = .returned (.ok .plain) ∧
      ((countingDelegate .plain).run {} { shared := 0 }).2.shared = 1 ∧
      ((clockless.intercept .plain countingDelegate).run {} { shared := 0 }).1 =
        .panicked "clock bug" ∧
      ((clockless.intercept .plain countingDelegate).run {} { shared := 0 }).2.shared = 0 ∧
      ((clockless.call countingDelegate .plain).run {} { shared := 0 }).1.map (fun _ => ()) =
        .panicked "clock bug" ∧
      ((clockless.call countingDelegate .plain).run {} { shared := 0 }).2.shared = 0 := by
  exact ⟨rfl, rfl, rfl, rfl, rfl, rfl⟩

end ExchangeMetrics
