import ExchangeMetrics.Proofs.Inheritance
import ExchangeMetrics.Proofs.Transparency

/-!
# Interceptors and measured services agree

An interceptor keeps its scope open until the delegate is done and the exchange is recorded. A
measured service closes it as soon as the service was called; the rest of the work is done by the
future, and the exchange is recorded when that is polled to its end. As long as nobody but the
exchange itself looks at scopes and route stacks, this makes no difference to anyone.

The work is given in stages: what the service does when it is called, what its future does in
each poll that finds it pending, and what it does in the last one. The delegate of the
interceptor does all of it at once.

## Main results

* `Exec.aloof_composes`: computations that do not look at threads run alike in worlds that differ
  in threads only.
* `Instrumentation.run_await_stages`: what awaiting the future of a measured service does.
* `Instrumentation.agrees`: the interceptor and the measured service agree.
-/

namespace ExchangeMetrics

variable {σ α β : Type}

/-! ### Worlds that differ in threads only -/

/-- What a moment tells those who do not look at threads: everything but the scopes. -/
def Moment.told? (m : Moment) : Option (ThreadId × Event) :=
  match m.event with
  | .scopeOpened | .scopeClosed => none
  | e => some (m.thread, e)

/-- Two worlds are the same to those who do not look at threads: the same is shared, and the same
things have happened in the same order, the opening and closing of scopes apart. -/
structure World.Alike (w w' : World σ) : Prop where
  spawned : w.spawned = w'.spawned
  exchanges : w.exchanges = w'.exchanges
  propagated : w.propagated = w'.propagated
  shared : w.shared = w'.shared
  told : w.journal.filterMap Moment.told? = w'.journal.filterMap Moment.told?

namespace World.Alike

variable {w w' w'' : World σ}

/-- A world is like itself. -/
theorem refl (w : World σ) : w.Alike w :=
  ⟨rfl, rfl, rfl, rfl, rfl⟩

/-- Two worlds are alike whichever is named first. -/
theorem symm (h : w.Alike w') : w'.Alike w :=
  ⟨h.spawned.symm, h.exchanges.symm, h.propagated.symm, h.shared.symm, h.told.symm⟩

/-- Worlds that are like a third one are alike. -/
theorem trans (h : w.Alike w') (h' : w'.Alike w'') : w.Alike w'' :=
  ⟨h.spawned.trans h'.spawned, h.exchanges.trans h'.exchanges,
    h.propagated.trans h'.propagated, h.shared.trans h'.shared, h.told.trans h'.told⟩

/-- Worlds that are alike stay alike when the same is noted in both. -/
theorem note (h : w.Alike w') (t : ThreadId) (e : Event) : (w.note t e).Alike (w'.note t e) := by
  refine ⟨h.spawned, h.exchanges, h.propagated, h.shared, ?_⟩
  have htold : (⟨t, e, w.thread t⟩ : Moment).told? = (⟨t, e, w'.thread t⟩ : Moment).told? := rfl
  rw [World.note, World.note, List.filterMap_cons, List.filterMap_cons, h.told, htold]

/-- Closing a scope changes nothing to those who do not look at threads. -/
theorem closeScope (w : World σ) (c : Context) : w.Alike (Route.closeScope.run c w).2 :=
  ⟨rfl, rfl, rfl, rfl, rfl⟩

end World.Alike

/-- A computation has nothing to do with threads: it leaves them as they are, and runs alike in
worlds that differ in threads only. -/
structure Exec.Aloof (m : Exec σ α) : Prop where
  alike : ∀ (c : Context) {w w' : World σ}, w.Alike w' →
    (m.run c w).1 = (m.run c w').1 ∧ (m.run c w).2.Alike (m.run c w').2
  thread : ∀ (c : Context) (w : World σ) (t : ThreadId), (m.run c w).2.thread t = w.thread t

namespace Exec

/-- A computation that only returns keeps aloof. -/
theorem aloof_pure (a : α) : (pure a : Exec σ α).Aloof :=
  ⟨fun _ _ _ h => ⟨rfl, h⟩, fun _ _ _ => rfl⟩

/-- What goes on aloof from something aloof keeps aloof as a whole. -/
theorem Aloof.bind {m : Exec σ α} {f : α → Exec σ β} (hm : m.Aloof) (hf : ∀ a, (f a).Aloof) :
    (m >>= f).Aloof := by
  constructor
  · intro c w w' h
    obtain ⟨heq, hw⟩ := hm.alike c h
    rw [run_bind, run_bind]
    rcases hrun : m.run c w with ⟨a | message, w₁⟩ <;>
      rcases hrun' : m.run c w' with ⟨a' | message', w₁'⟩ <;> rw [hrun, hrun'] at heq hw <;>
      cases heq
    · exact (hf a).alike c hw
    · exact ⟨rfl, hw⟩
  · intro c w t
    have hthread := hm.thread c w t
    rw [run_bind]
    rcases hrun : m.run c w with ⟨a | message, w₁⟩ <;> rw [hrun] at hthread
    · exact ((hf a).thread c w₁ t).trans hthread
    · exact hthread

/-- Catching panics has nothing to do with threads. -/
theorem Aloof.guarded {m : Exec σ α} (hm : m.Aloof) : m.guarded.Aloof := by
  constructor
  · intro c w w' h
    obtain ⟨heq, hw⟩ := hm.alike c h
    rw [run_guarded, run_guarded, heq]
    exact ⟨rfl, hw⟩
  · intro c w t
    rw [run_guarded]
    exact hm.thread c w t

/-- Neither has cleaning up after them. -/
theorem Aloof.onPanic {m : Exec σ α} {cleanup : Exec σ Unit} (hm : m.Aloof) (hc : cleanup.Aloof) :
    (m.onPanic cleanup).Aloof := by
  constructor
  · intro c w w' h
    obtain ⟨heq, hw⟩ := hm.alike c h
    rcases hrun : m.run c w with ⟨a | message, w₁⟩ <;>
      rcases hrun' : m.run c w' with ⟨a' | message', w₁'⟩ <;> rw [hrun, hrun'] at heq hw <;>
      cases heq
    · rw [run_onPanic_returned hrun, run_onPanic_returned hrun']
      exact ⟨rfl, hw⟩
    · rw [run_onPanic_panicked hrun, run_onPanic_panicked hrun']
      exact ⟨rfl, (hc.alike c.unwound hw).2⟩
  · intro c w t
    have hthread := hm.thread c w t
    rcases hrun : m.run c w with ⟨a | message, w₁⟩ <;> rw [hrun] at hthread
    · rw [run_onPanic_returned hrun]
      exact hthread
    · rw [run_onPanic_panicked hrun]
      exact (hc.thread c.unwound w₁ t).trans hthread

/-- Writing into the journal keeps aloof, since it only says how the thread stands. -/
theorem aloof_note (e : Event) : (note e : Exec σ Unit).Aloof :=
  ⟨fun c _ _ h => ⟨rfl, h.note c.thread e⟩, fun _ _ _ => rfl⟩

/-- What is composed of computations that have nothing to do with threads has nothing to do with
them either. -/
theorem aloof_composes : Composes (@Aloof σ) where
  pure := aloof_pure
  panic _ := ⟨fun _ _ _ h => ⟨rfl, h⟩, fun _ _ _ => rfl⟩
  bind := Aloof.bind
  guarded := Aloof.guarded
  onPanic := Aloof.onPanic
  context := ⟨fun _ _ _ h => ⟨rfl, h⟩, fun _ _ _ => rfl⟩
  access f := by
    refine ⟨fun c w w' h => ?_, fun _ _ _ => rfl⟩
    rw [access, run_atomically, run_atomically, h.shared]
    exact ⟨rfl, h.spawned, h.exchanges, h.propagated, rfl, h.told⟩
  propagated := ⟨fun _ _ _ h => ⟨congrArg Ending.returned h.propagated, h⟩, fun _ _ _ => rfl⟩
  setPropagated _ :=
    ⟨fun _ _ _ h => ⟨rfl, h.spawned, h.exchanges, rfl, h.shared, h.told⟩, fun _ _ _ => rfl⟩
  remark _ := aloof_note _

end Exec

/-! ### Work in stages -/

/-- Work that is done in stages. -/
structure Stages (σ β : Type) where
  /-- What is done when the service is called. -/
  first : Request → Exec σ β
  /-- What is done in each poll in which the future is pending. -/
  middle : List (β → Exec σ β)
  /-- What is done in the last poll. -/
  last : β → Exec σ Result

namespace Stages

/-- What is left to do after the service was called. -/
def rest (s : Stages σ β) : List (β → Exec σ β) → β → Exec σ Result
  | [], b => s.last b
  | m :: ms, b => m b >>= s.rest ms

/-- A delegate that does all of the work at once. -/
def delegate (s : Stages σ β) (request : Request) : Exec σ Result :=
  s.first request >>= s.rest s.middle

/-- A service that does the first stage and leaves the others to its future. -/
def service (s : Stages σ β) (request : Request) : Exec σ (β × List (β → Exec σ β)) := do
  pure (← s.first request, s.middle)

/-- The futures of the service do one stage in each poll. -/
def futures (s : Stages σ β) : Futures σ (β × List (β → Exec σ β)) where
  poll
    | (b, []) => do pure (.done (← s.last b))
    | (b, m :: ms) => do pure (.pending (← m b, ms))
  drop _ := pure ()

/-- The rest of the work does not depend on how it begins. -/
theorem rest_first (s : Stages σ β) (first : Request → Exec σ β) (ms : List (β → Exec σ β)) :
    ({ s with first := first } : Stages σ β).rest ms = s.rest ms := by
  funext b
  induction ms generalizing b with
  | nil => rfl
  | cons m ms ih => exact congrArg (m b >>= ·) (funext ih)

/-- None of the stages has anything to do with threads. -/
structure Aloof (s : Stages σ β) : Prop where
  first : ∀ request, (s.first request).Aloof
  middle : ∀ m ∈ s.middle, ∀ b, (m b).Aloof
  last : ∀ b, (s.last b).Aloof

/-- The rest of the work keeps aloof if each of its stages does. -/
theorem Aloof.rest {s : Stages σ β} (hs : s.Aloof) {ms : List (β → Exec σ β)}
    (hms : ∀ m ∈ ms, ∀ b, (m b).Aloof) (b : β) : (s.rest ms b).Aloof := by
  induction ms generalizing b with
  | nil => exact hs.last b
  | cons m ms ih =>
      exact (hms m List.mem_cons_self b).bind
        (ih fun m' hm' => hms m' (List.mem_cons_of_mem m hm'))

end Stages

/-- Call a measured service, and poll its future until it has a result. -/
def Instrumentation.callThrough (i : LiveInstrumentation σ) (s : Stages σ β) (request : Request) :
    Exec σ (Option Result) := do
  let flight ← i.call s.service request
  (i.flights s.futures).await (List.replicate (s.middle.length + 1) (pure ())) flight

/-- Do some work, and conclude an exchange with what comes of it. -/
def Observation.measured (o : Observation) (i : LiveInstrumentation σ) (m : Exec σ Result) :
    Exec σ Result :=
  o.lastly do
    let result ← m.onPanic (o.forsake i .panicked)
    o.complete i result
    pure result

section

variable {i : LiveInstrumentation σ} {o : Observation} {c : Context} {s : Stages σ β}

/-- Work that keeps aloof does so when it is measured by an instrumentation that does. -/
theorem Observation.measured_aloof (hi : i.Consists Exec.Aloof) {m : Exec σ Result}
    (hm : m.Aloof) : (o.measured i m).Aloof := by
  have hQ : Exec.Composes (@Exec.Aloof σ) := Exec.aloof_composes
  refine hQ.lastly (hQ.bind (hQ.onPanic hm (hQ.forsake hi _)) fun result => ?_)
  exact hQ.bind (hQ.complete hi result) fun _ => hQ.pure result

/-- If the work panics, the exchange is recorded, and the panic goes on. -/
theorem Observation.run_measured_panicked {m : Exec σ Result} {message : String}
    {w w₁ : World σ} (h : m.run c w = (.panicked message, w₁)) :
    (o.measured i m).run c w =
      (.panicked message, ((o.lastly (o.forsake i .panicked)).run c.unwound w₁).2) := by
  obtain ⟨w₂, hforsake, -⟩ := o.run_forsake i (c := c) w₁
  have honPanic : (m.onPanic (o.forsake i .panicked)).run c w = (.panicked message, w₂) := by
    rw [Exec.run_onPanic_panicked h, hforsake]
  rw [measured, o.run_lastly (Exec.run_bind_panicked honPanic), o.run_lastly hforsake]
  rfl

/-- If the work has a result, the exchange is completed with it. -/
theorem Observation.run_measured_returned {m : Exec σ Result} {result : Result} {w w₁ : World σ}
    (h : m.run c w = (.returned result, w₁)) :
    (o.measured i m).run c w =
      (o.lastly do
        o.complete i result
        pure result).run c w₁ := by
  rw [measured, lastly, lastly, Exec.run_andThen, Exec.run_andThen,
    Exec.run_bind_returned (Exec.run_onPanic_returned h)]

/-- Work that has begun goes on. -/
theorem Observation.run_measured_bind {m : Exec σ α} {f : α → Exec σ Result} {a : α}
    {w w₁ : World σ} (h : m.run c w = (.returned a, w₁)) :
    (o.measured i (m >>= f)).run c w = (o.measured i (f a)).run c w₁ := by
  have hbind : (m >>= f).run c w = (f a).run c w₁ := Exec.run_bind_returned h
  rcases hf : (f a).run c w₁ with ⟨result | message, w₂⟩
  · rw [run_measured_returned hf, run_measured_returned (hbind.trans hf)]
  · rw [run_measured_panicked hf, run_measured_panicked (hbind.trans hf)]

section

variable {φ : Type} {futures : Futures σ φ} {f : Flight φ}

/-- A future of a measured service that has a result is concluded as work that has it. -/
theorem Flight.run_poll_of_done {m : Exec σ Result} {result : Result} {w w₁ : World σ}
    (hpoll : (futures.poll f.inner).run c w = (.returned (.done result), w₁))
    (hm : m.run c w = (.returned result, w₁)) :
    (f.poll i futures).run c w =
      (((f.observation.measured i m).run c w).1.map .done,
        ((f.observation.measured i m).run c w).2) := by
  have hflight : (f.poll i futures).run c w =
      (f.observation.lastly do
        f.observation.complete i result
        pure (Poll.done result)).run c w₁ :=
    Exec.run_bind_returned (Exec.run_onPanic_returned hpoll)
  rw [hflight, Observation.run_measured_returned hm]
  rcases hcomplete : (f.observation.complete i result).run c w₁ with ⟨_ | message, w₂⟩
  · rw [f.observation.run_lastly (Exec.run_bind_returned hcomplete),
      f.observation.run_lastly (Exec.run_bind_returned hcomplete)]
    rfl
  · rw [f.observation.run_lastly (Exec.run_bind_panicked hcomplete),
      f.observation.run_lastly (Exec.run_bind_panicked hcomplete)]
    rfl

/-- A future of a measured service that panics is concluded as work that panics. -/
theorem Flight.run_poll_of_panicked {m : Exec σ Result} {message : String} {w w₁ : World σ}
    (hpoll : (futures.poll f.inner).run c w = (.panicked message, w₁))
    (hm : m.run c w = (.panicked message, w₁)) :
    (f.poll i futures).run c w =
      (.panicked message, ((f.observation.measured i m).run c w).2) := by
  rw [Observation.run_measured_panicked hm]
  exact Exec.run_bind_panicked (Exec.run_onPanic_panicked hpoll)

end

/-- Awaiting the future of a measured service does the rest of the work and concludes the
exchange. -/
theorem Instrumentation.run_await_stages (ms : List (β → Exec σ β)) (b : β) (w : World σ) :
    ((i.flights s.futures).await (List.replicate (ms.length + 1) (pure ())) ⟨o, (b, ms)⟩).run c w =
      (((o.measured i (s.rest ms b)).run c w).1.map some,
        ((o.measured i (s.rest ms b)).run c w).2) := by
  have hflights (f : Flight (β × List (β → Exec σ β))) :
      (i.flights s.futures).poll f = f.poll i s.futures := rfl
  induction ms generalizing b w with
  | nil =>
      rw [List.length_nil, List.replicate_succ, Futures.run_await_cons, Exec.run_pure, hflights]
      rcases hlast : (s.last b).run c w with ⟨result | message, w₁⟩
      · have hpoll : (s.futures.poll (b, [])).run c w = (.returned (.done result), w₁) :=
          Exec.run_bind_returned hlast
        rw [Flight.run_poll_of_done hpoll hlast, Stages.rest]
        cases ((o.measured i (s.last b)).run c w).1 <;> rfl
      · have hpoll : (s.futures.poll (b, [])).run c w = (.panicked message, w₁) :=
          Exec.run_bind_panicked hlast
        rw [Flight.run_poll_of_panicked hpoll hlast, Stages.rest,
          Observation.run_measured_panicked hlast]
        rfl
  | cons m ms ih =>
      rw [List.length_cons, List.replicate_succ, Futures.run_await_cons, Exec.run_pure, hflights,
        Stages.rest]
      rcases hm : (m b).run c w with ⟨b' | message, w₁⟩
      · have hpoll : (s.futures.poll (b, m :: ms)).run c w =
            (.returned (.pending (b', ms)), w₁) :=
          Exec.run_bind_returned hm
        have hpending := Flight.run_poll_pending (i := i) (f := ⟨o, (b, m :: ms)⟩) hpoll
        rw [hpending, Observation.run_measured_bind hm]
        exact ih b' w₁
      · have hpoll : (s.futures.poll (b, m :: ms)).run c w = (.panicked message, w₁) :=
          Exec.run_bind_panicked hm
        have hrest : (m b >>= s.rest ms).run c w = (.panicked message, w₁) :=
          Exec.run_bind_panicked hm
        rw [Flight.run_poll_of_panicked hpoll hrest, Observation.run_measured_panicked hrest]
        rfl

/-! ### The two ways of making an exchange -/

/-- Two runs have come to the same: the caller gets the same, everything that is shared is the
same, the same events have happened in the same order, and all threads stand the same. -/
structure Agrees (a : Ending Result × World σ) (b : Ending (Option Result) × World σ) : Prop where
  outcome : b.1 = a.1.map some
  alike : a.2.Alike b.2
  threads : ∀ t, a.2.thread t = b.2.thread t

/-- Closing a scope changes only the thread on which it is closed. -/
theorem Route.thread_closeScope (w : World σ) (t : ThreadId) :
    (Route.closeScope.run c w).2.thread t =
      if c.thread = t then Route.closed (w.thread c.thread) else w.thread t :=
  World.thread_setThread w c.thread t _

section

variable {request r : Request} {w w₁ : World σ}

/-- An interceptor begins the exchange and does all the work within the scope. -/
theorem Instrumentation.run_intercept_measured (delegate : Request → Exec σ Result)
    (h : (i.start request).run c (Route.openScope.run c w).2 = (.returned (o, r), w₁)) :
    let m := (o.measured i (delegate r)).run c (w₁.note c.thread (.dispatched o.exchange))
    (i.intercept request delegate).run c w = (m.1, (Route.closeScope.run c m.2).2) := by
  refine Route.run_inScope ((Exec.run_bind_returned h).trans ?_)
  rfl

/-- A service that panics when it is called is recorded as work that panics. -/
theorem Instrumentation.run_call_measured {φ : Type} {inner : Request → Exec σ φ}
    {m : Exec σ Result} {message : String} {w₂ : World σ}
    (h : (i.start request).run c (Route.openScope.run c w).2 = (.returned (o, r), w₁))
    (hinner : (inner r).run c (w₁.note c.thread (.dispatched o.exchange)) =
      (.panicked message, w₂))
    (hm : m.run c (w₁.note c.thread (.dispatched o.exchange)) = (.panicked message, w₂)) :
    (i.call inner request).run c w = (.panicked message, (Route.closeScope.run c
      ((o.measured i m).run c (w₁.note c.thread (.dispatched o.exchange))).2).2) := by
  refine Route.run_inScope ((Exec.run_bind_returned h).trans ?_)
  rw [Observation.run_measured_panicked hm]
  refine (Exec.run_bind_returned (m := o.dispatch) rfl).trans ?_
  exact Exec.run_bind_panicked (Exec.run_onPanic_panicked hinner)

/-- The two ways of making an exchange come to the same. Once the first stage is done, the scope is
open for the one and closed for the other, and the rest of the work keeps aloof from that. -/
theorem Instrumentation.agrees_of_run (hi : i.Consists Exec.Aloof) (hs : s.Aloof) :
    Agrees ((i.intercept request s.delegate).run c w) ((i.callThrough s request).run c w) := by
  rcases hstart : (i.start request).run c (Route.openScope.run c w).2 with ⟨⟨o, r⟩ | message, w₁⟩
  · rw [i.run_intercept_measured s.delegate hstart]
    rcases hfirst : (s.first r).run c (w₁.note c.thread (.dispatched o.exchange)) with
      ⟨b | message, w₂⟩
    · have hservice : (s.service r).run c (w₁.note c.thread (.dispatched o.exchange)) =
          (.returned (b, s.middle), w₂) := Exec.run_bind_returned hfirst
      have hdelegate : (o.measured i (s.delegate r)).run c
          (w₁.note c.thread (.dispatched o.exchange)) =
            (o.measured i (s.rest s.middle b)).run c w₂ := Observation.run_measured_bind hfirst
      have hthrough : (i.callThrough s request).run c w = _ :=
        Exec.run_bind_returned (i.run_call_returned hstart hservice)
      have haloof : (o.measured i (s.rest s.middle b)).Aloof :=
        o.measured_aloof hi (hs.rest hs.middle b)
      obtain ⟨heq, halike⟩ := haloof.alike c (World.Alike.closeScope w₂ c)
      rw [hdelegate, hthrough, i.run_await_stages]
      refine ⟨by rw [heq], (World.Alike.closeScope _ c).symm.trans halike, fun t => ?_⟩
      rw [Route.thread_closeScope, haloof.thread, haloof.thread, haloof.thread,
        Route.thread_closeScope]
    · have hservice : (s.service r).run c (w₁.note c.thread (.dispatched o.exchange)) =
          (.panicked message, w₂) := Exec.run_bind_panicked hfirst
      have hdelegate : (s.delegate r).run c (w₁.note c.thread (.dispatched o.exchange)) =
          (.panicked message, w₂) := Exec.run_bind_panicked hfirst
      have hthrough : (i.callThrough s request).run c w = _ :=
        Exec.run_bind_panicked (i.run_call_measured hstart hservice hdelegate)
      rw [hthrough, Observation.run_measured_panicked hdelegate]
      exact ⟨rfl, .refl _, fun _ => rfl⟩
  · have hintercept : (i.intercept request s.delegate).run c w = _ :=
      Route.run_inScope (Exec.run_bind_panicked hstart)
    have hcall : (i.call s.service request).run c w = _ :=
      Route.run_inScope (Exec.run_bind_panicked hstart)
    have hthrough : (i.callThrough s request).run c w = _ := Exec.run_bind_panicked hcall
    rw [hintercept, hthrough]
    exact ⟨rfl, .refl _, fun _ => rfl⟩

end

/-- Whatever the delegate does: an interceptor, and a measured service whose future is polled to
its end, hand on the same request and come to the same, as long as the delegate, the tags
provider, the clock and the registry have nothing to do with threads. -/
theorem Instrumentation.agrees (hi : i.Consists Exec.Aloof) (hs : s.Aloof) (request : Request)
    (w : World σ) :
    Agrees ((i.intercept request s.delegate).run c w) ((i.callThrough s request).run c w) ∧
      ∀ first : Request → Exec σ β,
        first (i.handedOn request w.propagated) = s.first (i.handedOn request w.propagated) →
          let s' := { s with first := first }
          (i.intercept request s'.delegate).run c w = (i.intercept request s.delegate).run c w ∧
            (i.callThrough s' request).run c w = (i.callThrough s request).run c w := by
  have hscope : (Route.openScope.run c w).2.propagated = w.propagated := rfl
  refine ⟨i.agrees_of_run hi hs, fun first hfirst => ⟨?_, ?_⟩⟩
  · refine Route.run_inScope_congr (Exec.run_bind_congr ?_)
    rintro ⟨o, r⟩ w' hstart
    obtain ⟨rfl, -⟩ := i.shows_of_start hstart
    simp only [Stages.delegate, Stages.rest_first, hscope, hfirst]
  · have hcall : (i.call ({ s with first := first } : Stages σ β).service request).run c w =
        (i.call s.service request).run c w := by
      refine Route.run_inScope_congr (Exec.run_bind_congr ?_)
      rintro ⟨o, r⟩ w' hstart
      obtain ⟨rfl, -⟩ := i.shows_of_start hstart
      simp only [Stages.service, hscope, hfirst]
    rw [callThrough, callThrough, Exec.run_bind, Exec.run_bind, hcall]
    rfl

end

/-! ### Work that comes to nothing -/

/-- Work in four stages that uses what is shared, and panics in the end. -/
def lostWork : Stages Nat Nat where
  first _ := Exec.access fun n => (n, n + 1)
  middle := [fun b => Exec.access fun n => (b + n, n + 1), fun b => pure b]
  last _ := Exec.panic "lost"

/-- The work of the example keeps aloof: it counts, and panics. -/
theorem lostWork_aloof : lostWork.Aloof := by
  have hQ : Exec.Composes (@Exec.Aloof Nat) := Exec.aloof_composes
  refine ⟨fun _ => hQ.access fun n => (n, n + 1), fun m hm b => ?_, fun _ => hQ.panic _⟩
  rcases List.mem_pair.mp hm with rfl | rfl
  · exact hQ.access _
  · exact hQ.pure b

/-- In both ways the panic goes on, after it was recorded; a template that was left on the stack is
gone. -/
theorem agrees_lostWork :
    let w : World Nat := ((Route.push "/" : Exec Nat UInt64).run {}
      { shared := 0, propagated := [("traceparent", "00"), ("not a name", "1")] }).2
    let i : LiveInstrumentation Nat := .plain true
    ((i.callThrough lostWork .plain).run {} w).1 = .panicked "lost" ∧
      Agrees ((i.intercept .plain lostWork.delegate).run {} w)
        ((i.callThrough lostWork .plain).run {} w) := by
  refine ⟨by decide +kernel, ?_⟩
  exact ((Instrumentation.plain true).agrees (Instrumentation.plain_consists Exec.aloof_pure)
    lostWork_aloof .plain _).1

end ExchangeMetrics
