import ExchangeMetrics.Proofs.Abandonment
import ExchangeMetrics.Proofs.Beginning

/-!
# Errors that give no text

An error is recorded with its text, and it is the error that is asked for it, after the sample of
the exchange was used up and outside of what is guarded. So an error that panics when it is asked,
or reports that it cannot give a text, takes the place of the exchange's outcome: nothing is
recorded, the tags provider, the clock and the registry are not asked, and the caller gets the panic
and not the error. Every other error is recorded in one attempt, and the caller gets it.

## Main results

* `Instrumentation.errors_shown`: interceptors and measured services.
* `Pool.recordings_of_error`: how often an exchange is recorded that gave an error, among any other
  threads.
* `Failure.unrendered_lost`: errors that are neither recorded nor returned.
-/

namespace ExchangeMetrics

variable {σ : Type}

/-! ### Asking an error for its text -/

/-- What asking an error for its text comes to. -/
def Rendering.ending : Rendering → Ending String
  | text s => .returned s
  | fails => .panicked "a Display implementation returned an error unexpectedly: Error"
  | panics message => .panicked message

/-- How an exchange is concluded that gave an error, and what the caller gets: the error is asked
for its text before anything is recorded. -/
inductive Shown (i : LiveInstrumentation σ) (o : Observation) (c : Context) (f : Failure)
    (w : World σ) : Ending Result → World σ → Prop where
  /-- The error gives its text. It is recorded with the text, and the caller gets it. -/
  | recorded {s : String} {w' : World σ} (hs : f.display.ending = .returned s)
      (h : Recorded i o c (.failed ⟨Fault.bareTypeName f.typeName, s⟩)
        (w.note c.thread (.settled o.exchange (.result (.error f)))) w') :
      Shown i o c f w (.returned (.error f)) w'
  /-- The error gives no text. There is no recording, and the caller gets the panic. -/
  | lost {message : String} (hm : f.display.ending = .panicked message) :
      Shown i o c f w (.panicked message)
        (w.note c.thread (.settled o.exchange (.result (.error f))))

/-- An exchange that has an error as its result is concluded as the error shows itself. -/
theorem Observation.run_complete_error {α : Type} (o : Observation) (i : LiveInstrumentation σ)
    {c : Context} (g : Result → α) (f : Failure) (w : World σ) :
    ∃ e w', (o.complete i (.error f) >>= fun _ => pure (g (.error f))).run c w = (e.map g, w') ∧
      Shown i o c f w e w' := by
  obtain ⟨typeName, display⟩ := f
  obtain ⟨e, w', hrun, hc⟩ := o.run_complete i (c := c) g (.error ⟨typeName, display⟩) w
  cases hc with
  | failed hd h => exact ⟨_, w', hrun, .recorded (congrArg Rendering.ending hd) h⟩
  | @mute _ message hm =>
      refine ⟨_, _, hrun, .lost ?_⟩
      cases display with
      | text s => exact absurd rfl (hm s)
      | _ => exact congrArg Ending.panicked (Ending.panicked.inj (Prod.mk.inj hrun).1)

/-! ### Interceptors and measured services -/

/-- What becomes of exchanges whose delegates give errors. -/
structure ErrorsShown (i : LiveInstrumentation σ) : Prop where
  /-- An interceptor concludes the exchange as the error shows itself. -/
  intercepted : ∀ (request : Request) (delegate : Request → Exec σ Result) (c : Context)
    (w : World σ) (o : Observation) (r : Request) (w₁ w₂ : World σ) (f : Failure),
    (i.start request).run c (Route.openScope.run c w).2 = (.returned (o, r), w₁) →
    (delegate r).run c (w₁.note c.thread (.dispatched o.exchange)) = (.returned (.error f), w₂) →
      ∃ e w₃, Shown i o c f w₂ e w₃ ∧ (i.intercept request delegate).run c w =
        (e, (Route.closeScope.run c (w₃.note c.thread (.ended o.exchange))).2)
  /-- So does the future of a measured service when the future inside it is polled to an error. -/
  polled : ∀ {φ : Type} (futures : Futures σ φ) (flight : Flight φ) (c : Context)
    (w w₁ : World σ) (f : Failure),
    (futures.poll flight.inner).run c w = (.returned (.done (.error f)), w₁) →
      ∃ e w₂, Shown i flight.observation c f w₁ e w₂ ∧ (flight.poll i futures).run c w =
        (e.map .done, w₂.note c.thread (.ended flight.observation.exchange))
  /-- No delegate comes to give an error if the exchange does not begin: the caller gets the panic
  of the clock. -/
  unbegun : ∀ (request : Request) (c : Context) (w w₁ : World σ) (message : String),
    (i.start request).run c (Route.openScope.run c w).2 = (.panicked message, w₁) →
      Lost i request c w message w₁

/-- Whatever an error does when it is asked for its text, and whatever the tags provider, the clock
and the registry do: an error with a text is recorded once and returned, an error without one is
neither recorded nor returned. -/
theorem Instrumentation.errors_shown (i : LiveInstrumentation σ) : ErrorsShown i := by
  refine ⟨?_, ?_, fun request c w w₁ message hstart => .of_start hstart⟩
  · intro request delegate c w o r w₁ w₂ f hstart hdelegate
    obtain ⟨e, w₃, hrun, hshown⟩ := o.run_complete_error i (c := c) id f w₂
    rw [Ending.map_id] at hrun
    refine ⟨e, w₃, hshown, Route.run_inScope ((Exec.run_bind_returned hstart).trans ?_)⟩
    exact o.run_lastly
      ((Exec.run_bind_returned (Exec.run_onPanic_returned hdelegate)).trans hrun)
  · intro φ futures flight c w w₁ f hpoll
    obtain ⟨e, w₂, hrun, hshown⟩ := flight.observation.run_complete_error i (c := c) Poll.done f w₁
    refine ⟨e, w₂, hshown, (Exec.run_bind_returned (Exec.run_onPanic_returned hpoll)).trans ?_⟩
    exact flight.observation.run_lastly hrun

/-! ### Among other threads -/

section

variable {x : ExchangeId} {l : List Event}

/-- A recording in the life of an exchange stands behind the settling that allows it. -/
theorem RecordedAsSettled.allows {s : Stage} {how : Departure} {e : Event}
    (hsettled : RecordedAsSettled x l) (h : Life x s l) (hhow : .settled x how ∈ l) (he : e ∈ l)
    (hrecording : e.isRecording = true) : ∃ reply, how.Allows reply := by
  have hthird := h.getElem?_settled hhow
  obtain ⟨before, after, rfl⟩ := List.append_of_mem he
  have hbefore : before ≠ [] := by
    rintro rfl
    obtain ⟨request, rest, hl⟩ := h.eq_started_cons
    cases hl
    cases hrecording
  obtain ⟨s₁, s₂, -, hn⟩ := h.split hbefore
  cases hn with
  | recording how' reply =>
      obtain ⟨request, how', rfl, hallows⟩ := hsettled before reply after rfl
      obtain ⟨-, rfl⟩ := Event.settled.inj (Option.some.inj hthird)
      exact ⟨reply, hallows⟩
  | _ => cases hrecording

/-- An exchange that gave an error without a text is never recorded. One that gave an error with a
text is recorded once before it is over. -/
theorem Life.recordings_of_error {s : Stage} {f : Failure} (h : Life x s l)
    (hsettled : RecordedAsSettled x l) (hf : .settled x (.result (.error f)) ∈ l) :
    (f.IsMute → l.countP Event.isRecording = 0) ∧
      (¬ f.IsMute → .ended x ∈ l → l.countP Event.isRecording = 1) := by
  refine ⟨fun hmute => ?_, fun htext hended => ?_⟩
  · refine List.countP_eq_zero.mpr fun e he hrecording => ?_
    obtain ⟨reply, text, hdisplay, -⟩ := hsettled.allows h hf he hrecording
    exact hmute text hdisplay
  · rcases h.recordedOnce.ended hended with ⟨hone, -⟩ | ⟨-, -, g, hg, hmem⟩
    · exact hone
    · have heq := (h.getElem?_settled hf).symm.trans (h.getElem?_settled hmem)
      obtain ⟨-, hresult⟩ := Event.settled.inj (Option.some.inj heq)
      obtain rfl := Except.error.inj (Departure.result.inj hresult)
      exact absurd hg htext

end

/-- In every state that a pool of programs can reach, the exchanges that gave errors were recorded
as the errors show themselves. -/
theorem Pool.recordings_of_error {kept : σ → Multiset Observation} {p q : Pool σ}
    (hp : p.Fresh kept) (h : p.Reaches q) {x : ExchangeId} {f : Failure}
    (hf : .settled x (.result (.error f)) ∈ life x q.world.journal) :
    (f.IsMute → (life x q.world.journal).countP Event.isRecording = 0) ∧
      (¬ f.IsMute → .ended x ∈ life x q.world.journal →
        (life x q.world.journal).countP Event.isRecording = 1) := by
  obtain ⟨hands, -, hbalance⟩ := hp.accounts_of_reaches h
  have hsettled := (hbalance.recordedOnce x).recordedAsSettled (hp.sound_of_reaches h).fits
  have hx : x < q.world.exchanges := by
    refine Nat.lt_of_not_le fun hle => ?_
    rw [hbalance.fresh x hle] at hf
    cases hf
  obtain ⟨s, hlife⟩ := hbalance.exists_life hx
  exact hlife.recordings_of_error hsettled hf

/-! ### Errors that are lost -/

namespace Failure

/-- An error that gives its text. -/
def boom : Failure := ⟨"app::TransportError", .text "boom"⟩

/-- What the caller of an interceptor gets whose delegate gives an error, and the number of
recordings. -/
def intercepted (f : Failure) (i : LiveInstrumentation Nat) : Ending Result × Nat :=
  let run := (i.intercept .plain fun _ => pure (.error f)).run {} { shared := 0 }
  (run.1, count Event.isRecording run.2.journal)

/-- Call a measured service whose futures give an error, and poll the future until it does. -/
def serving (f : Failure) (i : LiveInstrumentation Nat) : Exec Nat (Option Result) := do
  let flight ← i.call (fun _ => pure ()) .plain
  (i.flights ⟨fun _ => pure (.done (.error f)), fun _ => pure ()⟩).await [pure ()] flight

/-- What the caller of a measured service gets whose futures give an error, and the number of
recordings. -/
def served (f : Failure) (i : LiveInstrumentation Nat) : Ending (Option Result) × Nat :=
  let run := (f.serving i).run {} { shared := 0 }
  (run.1, count Event.isRecording run.2.journal)

/-- An error with a text is recorded and returned. Errors without one are neither, in both shapes of
an exchange, and nor is any error when the clock panics at once. -/
theorem unrendered_lost :
    boom.intercepted (.plain false) = (.returned (.error boom), 1) ∧
      boom.served (.plain false) = (.returned (some (.error boom)), 1) ∧
      broken.intercepted (.plain false) = (.panicked "no text", 0) ∧
      broken.served (.plain false) = (.panicked "no text", 0) ∧
      failing.intercepted (.plain false) =
        (.panicked "a Display implementation returned an error unexpectedly: Error", 0) ∧
      failing.served (.plain false) =
        (.panicked "a Display implementation returned an error unexpectedly: Error", 0) ∧
      boom.intercepted .clockless = (.panicked "clock bug", 0) ∧
      boom.served .clockless = (.panicked "clock bug", 0) := by
  exact ⟨rfl, rfl, rfl, rfl, rfl, rfl, rfl, rfl⟩

end Failure

end ExchangeMetrics
