import ExchangeMetrics.Proofs.Recording
import ExchangeMetrics.Proofs.Transparency
import ExchangeMetrics.Proofs.Truthful

/-!
# How abandoned exchanges are described

An exchange that ends without a result is recorded with a panic if whoever its request was handed on
to panicked: the delegate, the service that was called, or the future that was polled or dropped.
A future that is merely dropped is recorded as cancelled, unless the thread that drops it happens to
be unwinding. Then it is recorded with a panic as well, although nothing of its own panicked,
because the description is taken from the thread and not from the exchange.

## Main results

* `Flight.run_drop`: how an exchange is recorded whose future is dropped.
* `Instrumentation.abandoned`: the four ways in which an exchange ends without a result.
* `Pool.recorded_as_settled`: what exchanges are recorded with, however threads interleave.
* `Shelf.future_dropped_by_panic`: a future that is dropped while its thread unwinds.
-/

namespace ExchangeMetrics

variable {σ φ : Type}

/-! ### Left alone -/

/-- How an exchange is recorded whose future is dropped, when dropping the future inside has ended
in some way and in some world. -/
inductive Dropped (i : LiveInstrumentation σ) (o : Observation) (c : Context) (w : World σ) :
    Ending Unit → World σ → Prop where
  /-- It was merely dropped, which counts as a cancellation if the thread is not unwinding. -/
  | dropped {w' : World σ}
      (h : Recorded i o c (.failed (if c.unwinding then .delegatePanicked else .cancelled))
        (w.note c.thread (.settled o.exchange .dropped)) w') :
      Dropped i o c w (.returned ()) w'
  /-- Dropping the future inside panicked. -/
  | panicked {message : String} {w' : World σ}
      (h : Recorded i o c.unwound (.failed .delegatePanicked)
        (w.note c.thread (.settled o.exchange .panicked)) w') :
      Dropped i o c w (.panicked message) w'

section

variable {i : LiveInstrumentation σ} {futures : Futures σ φ} {f : Flight φ} {c : Context}
  {w w₁ : World σ}

/-- Dropping a future of a measured service drops the future inside it, and records the exchange. -/
theorem Flight.run_drop {e : Ending Unit} (h : (futures.drop f.inner).run c w = (e, w₁)) :
    ∃ w₂, Dropped i f.observation c w₁ e w₂ ∧ (f.drop i futures).run c w =
      (e, w₂.note c.thread (.ended f.observation.exchange)) := by
  let o := f.observation
  cases e with
  | returned _ =>
      let reply : Reply := .failed (if c.unwinding then .delegatePanicked else .cancelled)
      obtain ⟨w₂, hrecord, hr⟩ :=
        o.run_record i (c := c) reply (w₁.note c.thread (.settled o.exchange .dropped))
      have hforsake : (o.forsake i .dropped).run c w₁ = (.returned (), w₂) := hrecord
      have hinner : ((futures.drop f.inner).onPanic (o.forsake i .panicked)).run c w =
          (.returned (), w₁) := Exec.run_onPanic_returned h
      exact ⟨w₂, .dropped hr, o.run_lastly ((Exec.run_bind_returned hinner).trans hforsake)⟩
  | panicked message =>
      obtain ⟨w₂, hforsake, hr⟩ := o.run_forsake i (c := c) w₁
      have hinner : ((futures.drop f.inner).onPanic (o.forsake i .panicked)).run c w =
          (.panicked message, w₂) := by
        rw [Exec.run_onPanic_panicked h, hforsake]
      exact ⟨w₂, .panicked hr, o.run_lastly (Exec.run_bind_panicked hinner)⟩

end

/-- How exchanges are recorded that end without a result, in whichever context and world. -/
structure Abandoned (i : LiveInstrumentation σ) : Prop where
  /-- The delegate of an interceptor panicked. -/
  intercepted : ∀ (request : Request) (delegate : Request → Exec σ Result) (c : Context)
    (w : World σ) (o : Observation) (r : Request) (w₁ w₂ : World σ) (message : String),
    (i.start request).run c (Route.openScope.run c w).2 = (.returned (o, r), w₁) →
    (delegate r).run c (w₁.note c.thread (.dispatched o.exchange)) = (.panicked message, w₂) →
      ∃ w₃, Recorded i o c.unwound (.failed .delegatePanicked)
          (w₂.note c.thread (.settled o.exchange .panicked)) w₃ ∧
        (i.intercept request delegate).run c w =
          (.panicked message, (Route.closeScope.run c (w₃.note c.thread (.ended o.exchange))).2)
  /-- A service panicked when it was called. -/
  called : ∀ {φ : Type} (request : Request) (inner : Request → Exec σ φ) (c : Context)
    (w : World σ) (o : Observation) (r : Request) (w₁ w₂ : World σ) (message : String),
    (i.start request).run c (Route.openScope.run c w).2 = (.returned (o, r), w₁) →
    (inner r).run c (w₁.note c.thread (.dispatched o.exchange)) = (.panicked message, w₂) →
      ∃ w₃, Recorded i o c.unwound (.failed .delegatePanicked)
          (w₂.note c.thread (.settled o.exchange .panicked)) w₃ ∧
        (i.call inner request).run c w =
          (.panicked message, (Route.closeScope.run c (w₃.note c.thread (.ended o.exchange))).2)
  /-- The future of a service panicked when it was polled. -/
  polled : ∀ {φ : Type} (futures : Futures σ φ) (f : Flight φ) (c : Context) (w w₁ : World σ)
    (message : String), (futures.poll f.inner).run c w = (.panicked message, w₁) →
      ∃ w₂, Recorded i f.observation c.unwound (.failed .delegatePanicked)
          (w₁.note c.thread (.settled f.observation.exchange .panicked)) w₂ ∧
        (f.poll i futures).run c w =
          (.panicked message, w₂.note c.thread (.ended f.observation.exchange))
  /-- The future of a service was dropped by a thread that is not unwinding. -/
  dropped : ∀ {φ : Type} (futures : Futures σ φ) (f : Flight φ) (c : Context) (w w₁ : World σ),
    c.unwinding = false → (futures.drop f.inner).run c w = (.returned (), w₁) →
      ∃ w₂, Recorded i f.observation c (.failed .cancelled)
          (w₁.note c.thread (.settled f.observation.exchange .dropped)) w₂ ∧
        (f.drop i futures).run c w =
          (.returned (), w₂.note c.thread (.ended f.observation.exchange))
  /-- It was dropped by a thread that is unwinding, from whatever panic. -/
  droppedUnwinding : ∀ {φ : Type} (futures : Futures σ φ) (f : Flight φ) (c : Context)
    (w w₁ : World σ),
    c.unwinding = true → (futures.drop f.inner).run c w = (.returned (), w₁) →
      ∃ w₂, Recorded i f.observation c (.failed .delegatePanicked)
          (w₁.note c.thread (.settled f.observation.exchange .dropped)) w₂ ∧
        (f.drop i futures).run c w =
          (.returned (), w₂.note c.thread (.ended f.observation.exchange))
  /-- The future of a service panicked when it was dropped. -/
  dropPanicked : ∀ {φ : Type} (futures : Futures σ φ) (f : Flight φ) (c : Context) (w w₁ : World σ)
    (message : String), (futures.drop f.inner).run c w = (.panicked message, w₁) →
      ∃ w₂, Recorded i f.observation c.unwound (.failed .delegatePanicked)
          (w₁.note c.thread (.settled f.observation.exchange .panicked)) w₂ ∧
        (f.drop i futures).run c w =
          (.panicked message, w₂.note c.thread (.ended f.observation.exchange))

/-- Whatever the future inside, the tags provider, the clock and the registry do, dropping a future
of a measured service records its exchange, with a panic if the thread was unwinding. -/
theorem Instrumentation.abandoned (i : LiveInstrumentation σ) : Abandoned i := by
  refine ⟨?_, ?_, ?_, ?_, ?_, ?_⟩
  · intro request delegate c w o r w₁ w₂ message hstart hdelegate
    obtain ⟨e, w₃, hc, hrun⟩ := i.run_intercept delegate hstart hdelegate
    cases hc with
    | panicked hr => exact ⟨w₃, hr, hrun⟩
  · intro φ request inner c w o r w₁ w₂ message hstart hinner
    obtain ⟨w₃, hc, hrun⟩ := i.run_call_panicked hstart hinner
    cases hc with
    | panicked hr => exact ⟨w₃, hr, hrun⟩
  · intro φ futures f c w w₁ message hpoll
    obtain ⟨w₂, hc, hrun⟩ := f.run_poll_panicked (i := i) hpoll
    cases hc with
    | panicked hr => exact ⟨w₂, hr, hrun⟩
  · intro φ futures f c w w₁ hcalm hdrop
    obtain ⟨w₂, hd, hrun⟩ := Flight.run_drop (i := i) hdrop
    cases hd with
    | dropped hr =>
        rw [hcalm] at hr
        exact ⟨w₂, hr, hrun⟩
  · intro φ futures f c w w₁ hunwinding hdrop
    obtain ⟨w₂, hd, hrun⟩ := Flight.run_drop (i := i) hdrop
    cases hd with
    | dropped hr =>
        rw [hunwinding] at hr
        exact ⟨w₂, hr, hrun⟩
  · intro φ futures f c w w₁ message hdrop
    obtain ⟨w₂, hd, hrun⟩ := Flight.run_drop (i := i) hdrop
    cases hd with
    | panicked hr => exact ⟨w₂, hr, hrun⟩

/-! ### Among other threads -/

section

variable {x : ExchangeId} {journal : List Moment}

/-- The event of a life stands in the journal behind the life that was there before it. -/
theorem exists_split_of_life {before after : List Event} {e : Event}
    (h : life x journal = before ++ e :: after) :
    ∃ newer m older, journal = newer ++ m :: older ∧ m.event = e ∧ life x older = before := by
  induction journal generalizing after with
  | nil => exact absurd h.symm (List.append_ne_nil_of_right_ne_nil _ (List.cons_ne_nil _ _))
  | cons m older ih =>
      by_cases hm : m.event.exchange? = some x
      · rw [life_cons_of_eq x hm] at h
        rcases eq_or_eq_of_concat_eq h with ⟨hbefore, he, -⟩ | ⟨after, hlife, -⟩
        · exact ⟨[], m, older, rfl, he, hbefore⟩
        · obtain ⟨newer, m', older', rfl, hm', hbefore⟩ := ih hlife
          exact ⟨m :: newer, m', older', rfl, hm', hbefore⟩
      · rw [life_cons_of_ne x hm] at h
        obtain ⟨newer, m', older', rfl, hm', hlife⟩ := ih h
        exact ⟨m :: newer, m', older', rfl, hm', hlife⟩

/-- An exchange is recorded with what became of its own delegate: with the response or the error
that it gave, with a panic if it panicked, and with a cancellation or a panic if it was dropped. -/
def RecordedAsSettled (x : ExchangeId) (l : List Event) : Prop :=
  ∀ before reply after, l = before ++ .recording x reply :: after →
    ∃ request how, before = [.started x request, .dispatched x, .settled x how] ∧ how.Allows reply

/-- An exchange is settled once, so what its recording fits is the settling that its life tells of.
-/
theorem RecordedOnce.recordedAsSettled (h : RecordedOnce x (life x journal))
    (hfits : AllFit journal) : RecordedAsSettled x (life x journal) := by
  intro before reply after hl
  obtain ⟨request, how, hbefore⟩ := h.settled before reply after hl
  refine ⟨request, how, hbefore, ?_⟩
  obtain ⟨newer, m, older, rfl, hm, hlife⟩ := exists_split_of_life hl
  have hrecording := hfits.fits
  rw [hm] at hrecording
  obtain ⟨how', rest, htrack, hallows⟩ := hrecording
  have hmem : .settled x how' ∈ track m.thread older := htrack ▸ List.mem_cons_self
  obtain ⟨m', hm', -, hevent⟩ := exists_mem_of_mem_track hmem
  have hsettled := mem_life_of_mem x hm' (hevent ▸ rfl)
  rw [hevent, hlife, hbefore] at hsettled
  simp only [List.mem_cons, reduceCtorEq, Event.settled.injEq, true_and, List.not_mem_nil,
    or_false, false_or] at hsettled
  rwa [← hsettled]

end

/-- What is told of exchanges that end without a result: each is recorded with a panic if its own
delegate panicked, and otherwise with a cancellation, as long as its future is not dropped by a
thread that unwinds. -/
theorem Pool.recorded_as_settled {kept : σ → Multiset Observation} {p q : Pool σ}
    (hp : p.Fresh kept) (h : p.Reaches q) :
    (∀ x, RecordedAsSettled x (life x q.world.journal)) ∧
      (∀ i : LiveInstrumentation σ, Abandoned i) ∧
      ∀ unknown request,
        (standardTags unknown request (.failed .delegatePanicked)).get? "exception" =
            some "Panic" ∧
          (standardTags unknown request (.failed .cancelled)).get? "exception" =
            some "Cancelled" := by
  obtain ⟨hands, -, hbalance⟩ := hp.accounts_of_reaches h
  refine ⟨fun x => ?_, Instrumentation.abandoned, fun unknown request => ⟨?_, ?_⟩⟩
  · exact (hbalance.recordedOnce x).recordedAsSettled (hp.sound_of_reaches h).fits
  · rw [standardTags_get?]
    rfl
  · rw [standardTags_get?]
    rfl

namespace Shelf

/-- The exchange of a future that one thread laid down and another one dropped was recorded as
cancelled. -/
theorem recorded_as_cancelled_elsewhere : ∃ q, pool.Reaches q ∧
    RecordedAsSettled 0 (life 0 q.world.journal) ∧
    ∃ request after, life 0 q.world.journal = .started 0 request :: .dispatched 0 ::
      .settled 0 .dropped :: .recording 0 (.failed .cancelled) :: after := by
  have hput := Pool.reaches_run (p := pool) (t := 0) rfl
  have htake := hput.trans (Pool.reaches_run (t := 1) rfl)
  obtain ⟨hsettled, -, -⟩ := Pool.recorded_as_settled pool_fresh htake
  exact ⟨_, htake, hsettled 0, _, _, rfl⟩

/-- Call a measured service, and panic while the future that is to be dropped in the end is still
there. -/
def panicWithFuture : Exec Shelf Unit := do
  let f ← (Instrumentation.plain false).call (fun _ => pure ()) .plain
  (Exec.panic "outer").onPanic (dropped (some f))
  dropped (some f)

/-- The program owns nothing in the end, since the future that it holds is dropped by the panic. -/
theorem program_panicWithFuture : Program laid 0 panicWithFuture fun _ => 0 := by
  refine .bind program_call fun f => ?_
  have hpanic : Program laid (0 + f.owned fun _ => 0)
      ((Exec.panic "outer").onPanic (dropped (some f))) fun _ : Unit => 0 + f.owned fun _ => 0 :=
    .onPanic (.panic "outer" fun _ => 0) (program_dropped (some f))
  rw [zero_add] at hpanic
  exact .bind hpanic fun _ => program_dropped (some f)

/-- A future that is dropped while its thread unwinds from a panic that is none of its own is
recorded with a panic. -/
theorem future_dropped_by_panic : Program laid 0 panicWithFuture (fun _ => 0) ∧
    ∃ request after, life 0 (panicWithFuture.run {} { shared := [] }).2.journal =
      .started 0 request :: .dispatched 0 :: .settled 0 .dropped ::
        .recording 0 (.failed .delegatePanicked) :: after :=
  ⟨program_panicWithFuture, _, _, rfl⟩

end Shelf

end ExchangeMetrics
