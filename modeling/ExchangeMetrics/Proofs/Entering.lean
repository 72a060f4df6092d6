import ExchangeMetrics.Proofs.Abandonment

/-!
# What registries are given

The provider of the standard tags never fails. So what a recording gives the registry is settled
before it begins: the observation is entered under the timer of the instrumentation, with the
standard tags of the exchange. What is left open is the clock, which may panic, and the answer of
the registry.

## Main results

* `Recorded.entered`: recordings with the standard tags.
* `Concluded.booked`, `Dropped.booked`: the ends of exchanges.
* `Instrumentation.every_booked`: the operations on exchanges, one by one.
-/

namespace ExchangeMetrics

variable {σ : Type}

/-! ### Recordings -/

/-- What is said about a recording whose tags are known, by the answer to it. -/
def Report.ofAnswer (metric : String) (tags : Nat) : Except MetricsError Duration → Report
  | .ok elapsed => .recorded metric tags elapsed
  | .error reason => .unrecorded metric reason

section

variable (i : LiveInstrumentation σ) (o : Observation) (c : Context)

/-- How a recording goes whose tags are known: the clock is stopped, the registry is given the
observation under the timer of the instrumentation and with these tags, and its answer is
reported. -/
inductive Entered (tags : Tags) (reply : Reply) (w : World σ) : World σ → Prop where
  | entered {answer : Except MetricsError Duration} {w₁ : World σ}
      (hs : Submitted i o c tags ((w.note c.thread (.recording o.exchange reply)).note c.thread
        (.tagged o.exchange (.ok tags))) answer w₁) :
      Entered tags reply w
        (w₁.note c.thread (.reported o.exchange (.ofAnswer i.timer.name tags.size answer)))

/-- An exchange is settled in some way, and entered with the standard tags of a reply that goes with
that way. The thread may be unwinding meanwhile. -/
inductive Booked (unknown : String) (w : World σ) : World σ → Prop where
  | booked (how : Departure) (c' : Context) {reply : Reply} {w' : World σ}
      (hthread : c'.thread = c.thread) (hallows : how.Allows reply)
      (he : Entered i o c' (standardTags unknown o.request reply) reply
        (w.note c.thread (.settled o.exchange how)) w') :
      Booked unknown w w'

end

section

variable {i : LiveInstrumentation σ} {unknown : String} {o : Observation} {c : Context}
  {w w' : World σ}

/-- The provider of the standard tags gives them. -/
theorem Derived.eq_standard {reply : Reply} {tags : Except MetricsError Tags}
    (hi : i.provider = .standard unknown) (h : Derived i o c reply w tags w') :
    tags = .ok (standardTags unknown o.request reply) ∧ w' = w := by
  cases h with
  | returned hp =>
      rw [hi] at hp
      cases hp
      exact ⟨rfl, rfl⟩
  | panicked hp =>
      rw [hi] at hp
      cases hp

/-- A recording with the standard tags enters the observation under them. -/
theorem Recorded.entered {reply : Reply} (hi : i.provider = .standard unknown)
    (h : Recorded i o c reply w w') :
    Entered i o c (standardTags unknown o.request reply) reply w w' := by
  cases h with
  | untagged ht => cases (ht.eq_standard hi).1
  | unsubmitted ht hs =>
      obtain ⟨htags, rfl⟩ := ht.eq_standard hi
      obtain rfl := Except.ok.inj htags
      exact .entered hs
  | recorded ht hs =>
      obtain ⟨htags, rfl⟩ := ht.eq_standard hi
      obtain rfl := Except.ok.inj htags
      exact .entered hs

/-! ### Exchanges -/

/-- An exchange whose delegate has ended is booked, unless it ended with an error without a text. -/
theorem Concluded.booked {e e' : Ending Result} (hi : i.provider = .standard unknown)
    (h : Concluded i o c w e e' w') (he : ∀ f, e = .returned (.error f) → ¬ f.IsMute) :
    e' = e ∧ Booked i o c unknown w w' := by
  refine ⟨h.eq he, ?_⟩
  cases h with
  | responded hr => exact .booked (.result (.ok _)) c rfl rfl (hr.entered hi)
  | failed hd hr => exact .booked (.result (.error _)) c rfl ⟨_, hd, rfl⟩ (hr.entered hi)
  | mute hm => exact absurd hm (he _ rfl)
  | panicked hr => exact .booked .panicked c.unwound rfl rfl (hr.entered hi)

/-- An exchange whose delegate has ended with an error without a text is settled and not booked, and
the caller gets a panic. -/
theorem Concluded.unbooked {f : Failure} {e' : Ending Result} (hf : f.IsMute)
    (h : Concluded i o c w (.returned (.error f)) e' w') :
    ∃ message, e' = .panicked message ∧
      w' = w.note c.thread (.settled o.exchange (.result (.error f))) := by
  cases h with
  | @failed _ text _ hd hr => exact absurd hd (hf text)
  | mute hm => exact ⟨_, rfl, rfl⟩

/-- An exchange whose future is dropped is booked. -/
theorem Dropped.booked {e : Ending Unit} (hi : i.provider = .standard unknown)
    (h : Dropped i o c w e w') : Booked i o c unknown w w' := by
  cases h with
  | dropped hr =>
      refine .booked .dropped c rfl ?_ (hr.entered hi)
      cases c.unwinding with
      | false => exact .inl rfl
      | true => exact .inr rfl
  | panicked hr => exact .booked .panicked c.unwound rfl rfl (hr.entered hi)

end

/-- What is guaranteed about the exchanges of an instrumentation with the standard tags: whichever
way they end, they are booked, and if they end with an error that gives no text, they are not. -/
structure EveryBooked (i : LiveInstrumentation σ) (unknown : String) : Prop where
  /-- An interceptor books the exchange when the delegate has ended. -/
  intercepted : ∀ (request : Request) (delegate : Request → Exec σ Result) (c : Context)
    (w : World σ) (o : Observation) (r : Request) (w₁ w₂ : World σ) (e : Ending Result),
    (i.start request).run c (Route.openScope.run c w).2 = (.returned (o, r), w₁) →
    (delegate r).run c (w₁.note c.thread (.dispatched o.exchange)) = (e, w₂) →
    (∀ f, e = .returned (.error f) → ¬ f.IsMute) →
      ∃ w₃, Booked i o c unknown w₂ w₃ ∧ (i.intercept request delegate).run c w =
        (e, (Route.closeScope.run c (w₃.note c.thread (.ended o.exchange))).2)
  /-- If that is with an error without a text, the exchange is over once it is settled: nothing is
  recorded, and the caller gets a panic. -/
  interceptedMute : ∀ (request : Request) (delegate : Request → Exec σ Result) (c : Context)
    (w : World σ) (o : Observation) (r : Request) (w₁ w₂ : World σ) (f : Failure),
    (i.start request).run c (Route.openScope.run c w).2 = (.returned (o, r), w₁) →
    (delegate r).run c (w₁.note c.thread (.dispatched o.exchange)) = (.returned (.error f), w₂) →
    f.IsMute →
      ∃ message, (i.intercept request delegate).run c w =
        (.panicked message, (Route.closeScope.run c
          ((w₂.note c.thread (.settled o.exchange (.result (.error f)))).note c.thread
            (.ended o.exchange))).2)
  /-- A measured service books the exchange at once if the service panics. -/
  callPanicked : ∀ {φ : Type} (request : Request) (inner : Request → Exec σ φ) (c : Context)
    (w : World σ) (o : Observation) (r : Request) (w₁ w₂ : World σ) (message : String),
    (i.start request).run c (Route.openScope.run c w).2 = (.returned (o, r), w₁) →
    (inner r).run c (w₁.note c.thread (.dispatched o.exchange)) = (.panicked message, w₂) →
      ∃ w₃, Booked i o c unknown w₂ w₃ ∧ (i.call inner request).run c w =
        (.panicked message, (Route.closeScope.run c (w₃.note c.thread (.ended o.exchange))).2)
  /-- The future of a measured service books the exchange when it has a result. -/
  polled : ∀ {φ : Type} (futures : Futures σ φ) (f : Flight φ) (c : Context) (w w₁ : World σ)
    (result : Result), (futures.poll f.inner).run c w = (.returned (.done result), w₁) →
    (∀ failure, result = .error failure → ¬ failure.IsMute) →
      ∃ w₂, Booked i f.observation c unknown w₁ w₂ ∧ (f.poll i futures).run c w =
        (.returned (.done result), w₂.note c.thread (.ended f.observation.exchange))
  /-- If that is an error without a text, nothing is recorded either. -/
  polledMute : ∀ {φ : Type} (futures : Futures σ φ) (f : Flight φ) (c : Context) (w w₁ : World σ)
    (failure : Failure),
    (futures.poll f.inner).run c w = (.returned (.done (.error failure)), w₁) → failure.IsMute →
      ∃ message, (f.poll i futures).run c w =
        (.panicked message,
          (w₁.note c.thread (.settled f.observation.exchange (.result (.error failure)))).note
            c.thread (.ended f.observation.exchange))
  /-- The future books the exchange as well when it panics. -/
  pollPanicked : ∀ {φ : Type} (futures : Futures σ φ) (f : Flight φ) (c : Context)
    (w w₁ : World σ) (message : String),
    (futures.poll f.inner).run c w = (.panicked message, w₁) →
      ∃ w₂, Booked i f.observation c unknown w₁ w₂ ∧ (f.poll i futures).run c w =
        (.panicked message, w₂.note c.thread (.ended f.observation.exchange))
  /-- And so it does when it is dropped. -/
  dropped : ∀ {φ : Type} (futures : Futures σ φ) (f : Flight φ) (c : Context) (w w₁ : World σ)
    (e : Ending Unit), (futures.drop f.inner).run c w = (e, w₁) →
      ∃ w₂, Booked i f.observation c unknown w₁ w₂ ∧ (f.drop i futures).run c w =
        (e, w₂.note c.thread (.ended f.observation.exchange))

/-- With the provider of the standard tags every exchange is booked, whatever the clock and the
registry do, unless it ends with an error without a text; then it is not. -/
theorem Instrumentation.every_booked {i : LiveInstrumentation σ} {unknown : String}
    (hi : i.provider = .standard unknown) : EveryBooked i unknown := by
  refine ⟨?_, ?_, ?_, ?_, ?_, ?_, ?_⟩
  · intro request delegate c w o r w₁ w₂ e hstart hdelegate he
    obtain ⟨e', w₃, hc, hrun⟩ := i.run_intercept delegate hstart hdelegate
    obtain ⟨rfl, hbooked⟩ := hc.booked hi he
    exact ⟨w₃, hbooked, hrun⟩
  · intro request delegate c w o r w₁ w₂ f hstart hdelegate hf
    obtain ⟨e, w₃, hc, hrun⟩ := i.run_intercept delegate hstart hdelegate
    obtain ⟨message, rfl, rfl⟩ := hc.unbooked hf
    exact ⟨message, hrun⟩
  · intro φ request inner c w o r w₁ w₂ message hstart hinner
    obtain ⟨w₃, hc, hrun⟩ := i.run_call_panicked hstart hinner
    exact ⟨w₃, (hc.booked hi nofun).2, hrun⟩
  · intro φ futures f c w w₁ result hpoll hresult
    obtain ⟨e, w₂, hc, hrun⟩ := f.run_poll_done (i := i) hpoll
    have he : ∀ failure, (.returned result : Ending Result) = .returned (.error failure) →
        ¬ failure.IsMute := fun failure h => hresult failure (Ending.returned.inj h)
    obtain ⟨rfl, hbooked⟩ := hc.booked hi he
    exact ⟨w₂, hbooked, hrun⟩
  · intro φ futures f c w w₁ failure hpoll hfailure
    obtain ⟨e, w₂, hc, hrun⟩ := f.run_poll_done (i := i) hpoll
    obtain ⟨message, rfl, rfl⟩ := hc.unbooked hfailure
    exact ⟨message, hrun⟩
  · intro φ futures f c w w₁ message hpoll
    obtain ⟨w₂, hc, hrun⟩ := f.run_poll_panicked (i := i) hpoll
    exact ⟨w₂, (hc.booked hi nofun).2, hrun⟩
  · intro φ futures f c w w₁ e hdrop
    obtain ⟨w₂, hd, hrun⟩ := Flight.run_drop (i := i) hdrop
    exact ⟨w₂, hd.booked hi, hrun⟩

end ExchangeMetrics
