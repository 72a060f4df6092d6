import ExchangeMetrics.Proofs.Program

/-!
# Measuring is transparent

Whoever makes an exchange gets what the delegate gave, or the delegate's panic, although the
exchange is recorded in between. A recording can go six ways, by what the tags provider, the clock
and the registry do; none of them is done twice, none is done after one before it has failed, and
none of their failures gets out. The one thing that does get out is the failure of the delegate's
error to give its text.

## Main results

* `Observation.run_record`: how recordings go.
* `Observation.run_complete`, `Observation.run_forsake`: what the caller gets in the end.
* `Instrumentation.run_intercept`, `Instrumentation.run_call_returned`,
  `Instrumentation.run_call_panicked`, `Flight.run_await`: the operations one by one.
* `Instrumentation.transparent`: interceptors and measured services.
* `Failure.broken_replaced`: an error that the caller does not get.
-/

namespace ExchangeMetrics

variable {σ : Type}

/-! ### Recordings -/

section

variable (i : LiveInstrumentation σ) (o : Observation) (c : Context)

/-- What comes of asking the tags provider, and the world after it. -/
inductive Derived (reply : Reply) (w : World σ) : Except MetricsError Tags → World σ → Prop where
  | returned {tags : Except MetricsError Tags} {w' : World σ}
      (hp : (i.provider o.request reply).run c w = (.returned tags, w')) : Derived reply w tags w'
  /-- The provider panicked. -/
  | panicked {message : String} {w' : World σ}
      (hp : (i.provider o.request reply).run c w = (.panicked message, w')) :
      Derived reply w (.error (.tagDerivation "tags provider panicked")) w'

/-- The world in which the registry is given an observation, after the clock was read. -/
def handed (tags : Tags) (reading : Instant) (w : World σ) : World σ :=
  ((w.note c.thread (.clockRead reading)).note c.thread
    (.observed i.timer tags (reading.since o.sample.begun))).note c.thread (.submitted o.exchange)

/-- What comes of stopping the clock and giving the registry the observation, and the world after
it. -/
inductive Submitted (tags : Tags) (w : World σ) :
    Except MetricsError Duration → World σ → Prop where
  /-- The clock panicked, and the registry is not asked. -/
  | clockPanicked {message : String} {w₁ : World σ}
      (hn : i.registry.now.run c w = (.panicked message, w₁)) :
      Submitted tags w (.error (.registry "meter registry panicked")) w₁
  /-- The registry panicked. -/
  | registryPanicked {reading : Instant} {message : String} {w₁ w₂ : World σ}
      (hn : i.registry.now.run c w = (.returned reading, w₁))
      (hr : (i.registry.record i.timer tags (reading.since o.sample.begun)).run c
        (handed i o c tags reading w₁) = (.panicked message, w₂)) :
      Submitted tags w (.error (.registry "meter registry panicked")) w₂
  /-- The registry refused the observation. -/
  | refused {reading : Instant} {reason : MetricsError} {w₁ w₂ : World σ}
      (hn : i.registry.now.run c w = (.returned reading, w₁))
      (hr : (i.registry.record i.timer tags (reading.since o.sample.begun)).run c
        (handed i o c tags reading w₁) = (.returned (.error reason), w₂)) :
      Submitted tags w (.error reason) (w₂.note c.thread (.answered o.exchange (.error reason)))
  /-- The registry took the observation. -/
  | taken {reading : Instant} {w₁ w₂ : World σ}
      (hn : i.registry.now.run c w = (.returned reading, w₁))
      (hr : (i.registry.record i.timer tags (reading.since o.sample.begun)).run c
        (handed i o c tags reading w₁) = (.returned (.ok ()), w₂)) :
      Submitted tags w (.ok (reading.since o.sample.begun))
        (w₂.note c.thread (.answered o.exchange (.ok ())))

/-- How a recording goes, from the world in which it begins to the one in which it is over: the
tags provider is asked once, the clock and the registry once at most and only if there are tags,
and one report says how it went. -/
inductive Recorded (reply : Reply) (w : World σ) : World σ → Prop where
  /-- There are no tags, for the reason reported. -/
  | untagged {reason : MetricsError} {w₁ : World σ}
      (ht : Derived i o c reply (w.note c.thread (.recording o.exchange reply)) (.error reason)
        w₁) :
      Recorded reply w
        ((w₁.note c.thread (.tagged o.exchange (.error reason))).note c.thread
          (.reported o.exchange (.unrecorded i.timer.name reason)))
  /-- The observation could not be submitted, for the reason reported. -/
  | unsubmitted {tags : Tags} {reason : MetricsError} {w₁ w₂ : World σ}
      (ht : Derived i o c reply (w.note c.thread (.recording o.exchange reply)) (.ok tags) w₁)
      (hs : Submitted i o c tags (w₁.note c.thread (.tagged o.exchange (.ok tags)))
        (.error reason) w₂) :
      Recorded reply w
        (w₂.note c.thread (.reported o.exchange (.unrecorded i.timer.name reason)))
  /-- The observation was submitted, and this is reported. -/
  | recorded {tags : Tags} {elapsed : Duration} {w₁ w₂ : World σ}
      (ht : Derived i o c reply (w.note c.thread (.recording o.exchange reply)) (.ok tags) w₁)
      (hs : Submitted i o c tags (w₁.note c.thread (.tagged o.exchange (.ok tags)))
        (.ok elapsed) w₂) :
      Recorded reply w
        (w₂.note c.thread (.reported o.exchange (.recorded i.timer.name tags.size elapsed)))

end

namespace Observation

variable (o : Observation) (i : LiveInstrumentation σ) {c : Context}

/-- The tags of an exchange are what the provider gives, or an error if it panics; the panic goes no
further. -/
theorem run_tags (reply : Reply) (w : World σ) :
    ∃ tags w', (o.tags i reply).run c w = (.returned tags, w') ∧ Derived i o c reply w tags w' := by
  have hguarded := Exec.run_guarded (i.provider o.request reply) c w
  rw [tags, Exec.run_bind_returned hguarded]
  rcases hp : (i.provider o.request reply).run c w with ⟨tags | message, w'⟩
  · exact ⟨tags, w', rfl, .returned hp⟩
  · exact ⟨_, w', rfl, .panicked hp⟩

/-- Submitting an observation comes to its end whatever the clock and the registry do. -/
theorem run_submit (tags : Tags) (w : World σ) :
    ∃ r w', (o.submit i tags).run c w = (.returned r, w') ∧ Submitted i o c tags w r w' := by
  let registry := i.registry.onBehalfOf o.exchange
  have hguarded := Exec.run_guarded (o.sample.stop registry i.timer tags) c w
  rw [submit, Exec.run_bind_returned hguarded]
  rcases hn : i.registry.now.run c w with ⟨reading | message, w₁⟩
  · have hread : registry.read.run c w =
        (.returned reading, w₁.note c.thread (.clockRead reading)) :=
      Exec.run_bind_returned hn
    have hstop : (o.sample.stop registry i.timer tags).run c w = _ := Exec.run_bind_returned hread
    rcases hr : (i.registry.record i.timer tags (reading.since o.sample.begun)).run c
      (handed i o c tags reading w₁) with ⟨answer | message, w₂⟩
    · have hobserve : (registry.observe i.timer tags (reading.since o.sample.begun)).run c
          (w₁.note c.thread (.clockRead reading)) =
            (.returned answer, w₂.note c.thread (.answered o.exchange answer)) :=
        Exec.run_bind_returned hr
      rw [hstop, Exec.run_bind_returned hobserve]
      rcases answer with reason | ⟨⟩
      · exact ⟨_, _, rfl, .refused hn hr⟩
      · exact ⟨_, _, rfl, .taken hn hr⟩
    · have hrecord : Exec.run (do
          let answer ← i.registry.record i.timer tags (reading.since o.sample.begun)
          Exec.note (.answered o.exchange answer)
          pure answer) c (handed i o c tags reading w₁) = (.panicked message, w₂) :=
        Exec.run_bind_panicked hr
      have hobserve : (registry.observe i.timer tags (reading.since o.sample.begun)).run c
          (w₁.note c.thread (.clockRead reading)) = (.panicked message, w₂) := hrecord
      rw [hstop, Exec.run_bind_panicked hobserve]
      exact ⟨_, _, rfl, .registryPanicked hn hr⟩
  · have hread : registry.read.run c w = (.panicked message, w₁) := Exec.run_bind_panicked hn
    have hstop : (o.sample.stop registry i.timer tags).run c w = (.panicked message, w₁) :=
      Exec.run_bind_panicked hread
    rw [hstop]
    exact ⟨_, _, rfl, .clockPanicked hn⟩

/-- A recording comes to its end whatever the tags provider, the clock and the registry do. -/
theorem run_record (reply : Reply) (w : World σ) :
    ∃ w', (o.record i reply).run c w = (.returned (), w') ∧ Recorded i o c reply w w' := by
  obtain ⟨tags, w₁, htags, ht⟩ :=
    o.run_tags i (c := c) reply (w.note c.thread (.recording o.exchange reply))
  cases tags with
  | error reason =>
      have hattempt : (o.attempt i reply).run c (w.note c.thread (.recording o.exchange reply)) =
          (.returned (.unrecorded i.timer.name reason),
            w₁.note c.thread (.tagged o.exchange (.error reason))) :=
        Exec.run_bind_returned htags
      exact ⟨_, Exec.run_bind_returned hattempt, .untagged ht⟩
  | ok tags =>
      obtain ⟨r, w₂, hsubmit, hs⟩ :=
        o.run_submit i (c := c) tags (w₁.note c.thread (.tagged o.exchange (.ok tags)))
      have hnote : (Exec.note (.tagged o.exchange (.ok tags))).run c w₁ =
          (.returned (), w₁.note c.thread (.tagged o.exchange (.ok tags))) := rfl
      have hattempt : (o.attempt i reply).run c (w.note c.thread (.recording o.exchange reply)) =
          (.returned (match r with
            | .error reason => .unrecorded i.timer.name reason
            | .ok elapsed => .recorded i.timer.name tags.size elapsed), w₂) := by
        rw [attempt, Exec.run_bind_returned htags, Exec.run_bind_returned hnote]
        dsimp only
        rw [Exec.run_bind_returned hsubmit]
        cases r <;> rfl
      cases r with
      | error reason => exact ⟨_, Exec.run_bind_returned hattempt, .unsubmitted ht hs⟩
      | ok elapsed => exact ⟨_, Exec.run_bind_returned hattempt, .recorded ht hs⟩

end Observation

/-! ### What the caller gets -/

/-- What the caller gets, and in which world, when the delegate has ended in some way and in some
world. -/
inductive Concluded (i : LiveInstrumentation σ) (o : Observation) (c : Context) (w : World σ) :
    Ending Result → Ending Result → World σ → Prop where
  /-- The caller gets the response, which was recorded. -/
  | responded {response : Response} {w' : World σ}
      (h : Recorded i o c (.ofResponse response)
        (w.note c.thread (.settled o.exchange (.result (.ok response)))) w') :
      Concluded i o c w (.returned (.ok response)) (.returned (.ok response)) w'
  /-- The caller gets the error, which was recorded. -/
  | failed {f : Failure} {s : String} {w' : World σ} (hd : f.display = .text s)
      (h : Recorded i o c (.failed ⟨Fault.bareTypeName f.typeName, s⟩)
        (w.note c.thread (.settled o.exchange (.result (.error f)))) w') :
      Concluded i o c w (.returned (.error f)) (.returned (.error f)) w'
  /-- The error gives no text, and nothing is recorded. -/
  | mute {f : Failure} {message : String} (hm : f.IsMute) :
      Concluded i o c w (.returned (.error f)) (.panicked message)
        (w.note c.thread (.settled o.exchange (.result (.error f))))
  /-- The panic of the delegate goes on; it was recorded. -/
  | panicked {message : String} {w' : World σ}
      (h : Recorded i o c.unwound (.failed .delegatePanicked)
        (w.note c.thread (.settled o.exchange .panicked)) w') :
      Concluded i o c w (.panicked message) (.panicked message) w'

/-- An error is described by its text, or gives none and panics. -/
theorem Failure.run_describe (f : Failure) (c : Context) (w : World σ) :
    (∃ s, f.display = .text s ∧
        f.describe.run c w = (.returned ⟨Fault.bareTypeName f.typeName, s⟩, w)) ∨
      (f.IsMute ∧ ∃ message, f.describe.run c w = (.panicked message, w)) := by
  rw [describe, IsMute]
  cases f.display with
  | text s => exact .inl ⟨s, rfl, rfl⟩
  | fails => exact .inr ⟨fun s => nofun, _, rfl⟩
  | panics message => exact .inr ⟨fun s => nofun, message, rfl⟩

/-- The caller gets what the delegate gave, unless that is an error without a text. -/
theorem Concluded.eq {i : LiveInstrumentation σ} {o : Observation} {c : Context}
    {w w' : World σ} {e e' : Ending Result} (h : Concluded i o c w e e' w')
    (he : ∀ f, e = .returned (.error f) → ¬ f.IsMute) : e' = e := by
  cases h with
  | mute hm => exact absurd hm (he _ rfl)
  | _ => rfl

namespace Observation

variable (o : Observation) (i : LiveInstrumentation σ) {c : Context}

/-- An exchange that has a result is recorded, and its caller gets the result. -/
theorem run_complete {α : Type} (g : Result → α) (result : Result) (w : World σ) :
    ∃ e w', (o.complete i result >>= fun _ => pure (g result)).run c w = (e.map g, w') ∧
      Concluded i o c w (.returned result) e w' := by
  let w₀ := w.note c.thread (.settled o.exchange (.result result))
  rcases result with f | response
  · rcases f.run_describe c w₀ with ⟨s, hd, hdescribe⟩ | ⟨hmute, message, hdescribe⟩
    · obtain ⟨w', hrecord, h⟩ :=
        o.run_record i (c := c) (.failed ⟨Fault.bareTypeName f.typeName, s⟩) w₀
      have hstop : (o.stop i (.error f)).run c w₀ = (.returned (), w') :=
        (Exec.run_bind_returned hdescribe).trans hrecord
      have hcomplete : (o.complete i (.error f)).run c w = (.returned (), w') := hstop
      exact ⟨.returned (.error f), _, Exec.run_bind_returned hcomplete, .failed hd h⟩
    · have hstop : (o.stop i (.error f)).run c w₀ = (.panicked message, w₀) :=
        Exec.run_bind_panicked hdescribe
      have hcomplete : (o.complete i (.error f)).run c w = (.panicked message, w₀) := hstop
      exact ⟨.panicked message, _, Exec.run_bind_panicked hcomplete, .mute hmute⟩
  · obtain ⟨w', hrecord, h⟩ := o.run_record i (c := c) (.ofResponse response) w₀
    have hcomplete : (o.complete i (.ok response)).run c w = (.returned (), w') := hrecord
    exact ⟨.returned (.ok response), _, Exec.run_bind_returned hcomplete, .responded h⟩

/-- An exchange whose delegate panicked is recorded while the thread unwinds. -/
theorem run_forsake (w : World σ) :
    ∃ w', (o.forsake i .panicked).run c.unwound w = (.returned (), w') ∧
      Recorded i o c.unwound (.failed .delegatePanicked)
        (w.note c.thread (.settled o.exchange .panicked)) w' :=
  o.run_record i (c := c.unwound) (.failed .delegatePanicked)
    (w.note c.thread (.settled o.exchange .panicked))

/-- The last part of an exchange leaves its outcome as it is. -/
theorem run_lastly {α : Type} {m : Exec σ α} {w w' : World σ} {e : Ending α}
    (h : m.run c w = (e, w')) :
    (o.lastly m).run c w = (e, w'.note c.thread (.ended o.exchange)) := by
  rw [lastly, Exec.run_andThen, h]
  rfl

end Observation

/-! ### Interceptors and measured services -/

/-- What is measured of a computation by an interceptor. -/
theorem Observation.run_measured (o : Observation) (i : LiveInstrumentation σ) {c : Context}
    {w w₁ : World σ} {m : Exec σ Result} {e : Ending Result} (h : m.run c w = (e, w₁)) :
    ∃ e' w₂, Concluded i o c w₁ e e' w₂ ∧
      (do
        let result ← m.onPanic (o.forsake i .panicked)
        o.complete i result
        pure result).run c w = (e', w₂) := by
  rcases e with result | message
  · obtain ⟨e', w₂, hrun, hc⟩ := o.run_complete i (c := c) id result w₁
    rw [Ending.map_id] at hrun
    exact ⟨e', w₂, hc, (Exec.run_bind_returned (Exec.run_onPanic_returned h)).trans hrun⟩
  · obtain ⟨w₂, hrun, hr⟩ := o.run_forsake i (c := c) w₁
    refine ⟨_, w₂, .panicked hr, Exec.run_bind_panicked ?_⟩
    rw [Exec.run_onPanic_panicked h, hrun]

/-- The futures of a measured service. -/
def Instrumentation.flights {φ : Type} (i : LiveInstrumentation σ) (futures : Futures σ φ) :
    Futures σ (Flight φ) where
  poll f := f.poll i futures
  drop f := f.drop i futures

/-- Poll a future until it has a result, once after each of some pauses in which anything may
happen. -/
def Futures.await {φ : Type} (futures : Futures σ φ) :
    List (Exec σ Unit) → φ → Exec σ (Option Result)
  | [], _ => pure none
  | pause :: pauses, future => do
      let _ ← pause.guarded
      match ← futures.poll future with
      | .pending future => futures.await pauses future
      | .done result => pure (some result)

/-- What awaiting a measured future gives, and in which world, when awaiting the future inside it
gives something in some world. -/
inductive Flown (i : LiveInstrumentation σ) (o : Observation) (c : Context) (w : World σ) :
    Ending (Option Result) → Ending (Option Result) → World σ → Prop where
  /-- There is no result yet, and nothing was done. -/
  | pending : Flown i o c w (.returned none) (.returned none) w
  /-- There is a result, and the exchange is concluded. -/
  | done {result : Result} {e : Ending Result} {w' : World σ}
      (h : Concluded i o c w (.returned result) e w') :
      Flown i o c w (.returned (some result)) (e.map some) (w'.note c.thread (.ended o.exchange))
  /-- The future panicked, and the exchange is concluded. -/
  | panicked {message : String} {w' : World σ}
      (h : Concluded i o c w (.panicked message) (.panicked message) w') :
      Flown i o c w (.panicked message) (.panicked message) (w'.note c.thread (.ended o.exchange))

/-- Awaiting a measured future gives what the future inside it gives, unless that is an error
without a text. -/
theorem Flown.eq {i : LiveInstrumentation σ} {o : Observation} {c : Context} {w w' : World σ}
    {e e' : Ending (Option Result)} (h : Flown i o c w e e' w')
    (he : ∀ f, e = .returned (some (.error f)) → ¬ f.IsMute) : e' = e := by
  cases h with
  | @done result e w' h =>
      have heq : e = .returned result := h.eq fun f hf => he f (congrArg (Ending.map some) hf)
      rw [heq]
      rfl
  | _ => rfl

/-- What is guaranteed to those who make exchanges that are measured. -/
structure Transparent (i : LiveInstrumentation σ) : Prop where
  /-- Once the measurement has begun, an interceptor runs the delegate once, concludes the exchange
  according to what the delegate gave, and closes the scope. The caller gets what the delegate
  gave, unless that is an error without a text. -/
  intercepted : ∀ (request : Request) (delegate : Request → Exec σ Result) (c : Context)
    (w : World σ) (o : Observation) (r : Request) (w₁ : World σ),
    (i.start request).run c (Route.openScope.run c w).2 = (.returned (o, r), w₁) →
      let d := (delegate r).run c (w₁.note c.thread (.dispatched o.exchange))
      ∃ e w₂, Concluded i o c d.2 d.1 e w₂ ∧
        (i.intercept request delegate).run c w =
          (e, (Route.closeScope.run c (w₂.note c.thread (.ended o.exchange))).2) ∧
        ((∀ f, d.1 = .returned (.error f) → ¬ f.IsMute) → e = d.1)
  /-- Calling a measured service calls the service once and gives its future. -/
  called : ∀ {φ : Type} (request : Request) (inner : Request → Exec σ φ) (c : Context)
    (w : World σ) (o : Observation) (r : Request) (w₁ w₂ : World σ) (future : φ),
    (i.start request).run c (Route.openScope.run c w).2 = (.returned (o, r), w₁) →
    (inner r).run c (w₁.note c.thread (.dispatched o.exchange)) = (.returned future, w₂) →
      (i.call inner request).run c w = (.returned ⟨o, future⟩, (Route.closeScope.run c w₂).2)
  /-- If the service panics when it is called, the panic goes on after it was recorded. -/
  callPanicked : ∀ {φ : Type} (request : Request) (inner : Request → Exec σ φ) (c : Context)
    (w : World σ) (o : Observation) (r : Request) (w₁ w₂ : World σ) (message : String),
    (i.start request).run c (Route.openScope.run c w).2 = (.returned (o, r), w₁) →
    (inner r).run c (w₁.note c.thread (.dispatched o.exchange)) = (.panicked message, w₂) →
      ∃ w₃, Concluded i o c w₂ (.panicked message) (.panicked message) w₃ ∧
        (i.call inner request).run c w =
          (.panicked message, (Route.closeScope.run c (w₃.note c.thread (.ended o.exchange))).2)
  /-- Awaiting a future of a measured service, with any pauses between any number of polls, awaits
  the future inside it, and gives what that gives, unless that is an error without a text. -/
  awaited : ∀ {φ : Type} (futures : Futures σ φ) (pauses : List (Exec σ Unit)) (f : Flight φ)
    (c : Context) (w : World σ),
    let d := (futures.await pauses f.inner).run c w
    ∃ e w₂, Flown i f.observation c d.2 d.1 e w₂ ∧
      ((i.flights futures).await pauses f).run c w = (e, w₂) ∧
      ((∀ f, d.1 = .returned (some (.error f)) → ¬ f.IsMute) → e = d.1)

section

variable {i : LiveInstrumentation σ} {o : Observation} {c : Context}

/-- What runs in a scope ends as it does after the scope was opened, and then the scope is closed.
-/
theorem Route.run_inScope {α : Type} {m : Exec σ α} {w w' : World σ} {e : Ending α}
    (h : m.run c (Route.openScope.run c w).2 = (e, w')) :
    (Route.inScope m).run c w = (e, (Route.closeScope.run c w').2) := by
  have hclose : (m.andThen Route.closeScope).run c (Route.openScope.run c w).2 =
      (e, (Route.closeScope.run c w').2) := by
    rw [Exec.run_andThen, h]
    rfl
  exact hclose

/-- An interceptor whose measurement has begun runs the delegate once, and concludes the exchange
according to what the delegate gave. -/
theorem Instrumentation.run_intercept {request r : Request} (delegate : Request → Exec σ Result)
    {w w₁ w₂ : World σ} {e : Ending Result}
    (h : (i.start request).run c (Route.openScope.run c w).2 = (.returned (o, r), w₁))
    (hd : (delegate r).run c (w₁.note c.thread (.dispatched o.exchange)) = (e, w₂)) :
    ∃ e' w₃, Concluded i o c w₂ e e' w₃ ∧ (i.intercept request delegate).run c w =
      (e', (Route.closeScope.run c (w₃.note c.thread (.ended o.exchange))).2) := by
  obtain ⟨e', w₃, hc, hrun⟩ := o.run_measured i hd
  refine ⟨e', w₃, hc, Route.run_inScope ((Exec.run_bind_returned h).trans ?_)⟩
  exact o.run_lastly hrun

/-- Calling a measured service calls the service once. -/
theorem Instrumentation.run_call_returned {φ : Type} {inner : Request → Exec σ φ} {future : φ}
    {request r : Request} {w w₁ w₂ : World σ}
    (h : (i.start request).run c (Route.openScope.run c w).2 = (.returned (o, r), w₁))
    (hinner : (inner r).run c (w₁.note c.thread (.dispatched o.exchange)) =
      (.returned future, w₂)) :
    (i.call inner request).run c w = (.returned ⟨o, future⟩, (Route.closeScope.run c w₂).2) := by
  refine Route.run_inScope ((Exec.run_bind_returned h).trans ?_)
  exact Exec.run_bind_returned (Exec.run_onPanic_returned hinner)

/-- If the service panics when it is called, the exchange is recorded, and the panic goes on. -/
theorem Instrumentation.run_call_panicked {φ : Type} {inner : Request → Exec σ φ}
    {message : String} {request r : Request} {w w₁ w₂ : World σ}
    (h : (i.start request).run c (Route.openScope.run c w).2 = (.returned (o, r), w₁))
    (hinner : (inner r).run c (w₁.note c.thread (.dispatched o.exchange)) =
      (.panicked message, w₂)) :
    ∃ w₃, Concluded i o c w₂ (.panicked message) (.panicked message) w₃ ∧
      (i.call inner request).run c w =
        (.panicked message, (Route.closeScope.run c (w₃.note c.thread (.ended o.exchange))).2) := by
  obtain ⟨w₃, hrun, hr⟩ := o.run_forsake i (c := c) w₂
  have hcall : ((inner r).onPanic (o.lastly (o.forsake i .panicked))).run c
      (w₁.note c.thread (.dispatched o.exchange)) =
        (.panicked message, w₃.note c.thread (.ended o.exchange)) := by
    rw [Exec.run_onPanic_panicked hinner, o.run_lastly hrun]
    rfl
  have hrest : Exec.run (do
      let future ← (inner r).onPanic (o.lastly (o.forsake i .panicked))
      pure (⟨o, future⟩ : Flight φ)) c (w₁.note c.thread (.dispatched o.exchange)) =
        (.panicked message, w₃.note c.thread (.ended o.exchange)) := Exec.run_bind_panicked hcall
  exact ⟨w₃, .panicked hr, Route.run_inScope ((Exec.run_bind_returned h).trans hrest)⟩

variable {φ : Type} {futures : Futures σ φ} {f : Flight φ}

/-- Polling a future of a measured service polls the future inside it once. -/
theorem Flight.run_poll_pending {inner : φ} {w w₁ : World σ}
    (h : (futures.poll f.inner).run c w = (.returned (.pending inner), w₁)) :
    (f.poll i futures).run c w = (.returned (.pending { f with inner := inner }), w₁) :=
  Exec.run_bind_returned (Exec.run_onPanic_returned h)

/-- A future that has a result concludes the exchange, which is over then. -/
theorem Flight.run_poll_done {result : Result} {w w₁ : World σ}
    (h : (futures.poll f.inner).run c w = (.returned (.done result), w₁)) :
    ∃ e w₂, Concluded i f.observation c w₁ (.returned result) e w₂ ∧
      (f.poll i futures).run c w =
        (e.map .done, w₂.note c.thread (.ended f.observation.exchange)) := by
  obtain ⟨e, w₂, hrun, hc⟩ := f.observation.run_complete i (c := c) Poll.done result w₁
  refine ⟨e, w₂, hc, (Exec.run_bind_returned (Exec.run_onPanic_returned h)).trans ?_⟩
  exact f.observation.run_lastly hrun

/-- So does a future that panics. -/
theorem Flight.run_poll_panicked {message : String} {w w₁ : World σ}
    (h : (futures.poll f.inner).run c w = (.panicked message, w₁)) :
    ∃ w₂, Concluded i f.observation c w₁ (.panicked message) (.panicked message) w₂ ∧
      (f.poll i futures).run c w =
        (.panicked message, w₂.note c.thread (.ended f.observation.exchange)) := by
  obtain ⟨w₂, hrun, hr⟩ := f.observation.run_forsake i (c := c) w₁
  refine ⟨w₂, .panicked hr, Exec.run_bind_panicked ?_⟩
  rw [Exec.run_onPanic_panicked h, f.observation.run_lastly hrun]
  rfl

/-- Awaiting a future polls it once after the first pause. -/
theorem Futures.run_await_cons (futures : Futures σ φ) (pause : Exec σ Unit)
    (pauses : List (Exec σ Unit)) (future : φ) (w : World σ) :
    (futures.await (pause :: pauses) future).run c w =
      match (futures.poll future).run c (pause.run c w).2 with
      | (.returned (.pending future), w') => (futures.await pauses future).run c w'
      | (.returned (.done result), w') => (.returned (some result), w')
      | (.panicked message, w') => (.panicked message, w') := by
  rw [await, Exec.run_bind_returned (Exec.run_guarded pause c w), Exec.run_bind]
  rcases (futures.poll future).run c (pause.run c w).2 with ⟨⟨future | result⟩ | message, w'⟩ <;>
    rfl

/-- Awaiting a future of a measured service awaits the future inside it. -/
theorem Flight.run_await (i : LiveInstrumentation σ) (futures : Futures σ φ)
    (pauses : List (Exec σ Unit)) (f : Flight φ) (w : World σ) :
    ∃ e w₂, Flown i f.observation c ((futures.await pauses f.inner).run c w).2
        ((futures.await pauses f.inner).run c w).1 e w₂ ∧
      ((i.flights futures).await pauses f).run c w = (e, w₂) := by
  induction pauses generalizing f w with
  | nil => exact ⟨_, _, .pending, rfl⟩
  | cons pause pauses ih =>
      rw [Futures.run_await_cons, Futures.run_await_cons]
      generalize (pause.run c w).2 = w₀
      rcases hpoll : (futures.poll f.inner).run c w₀ with ⟨⟨inner | result⟩ | message, w₁⟩
      · have hflight : ((i.flights futures).poll f).run c w₀ =
            (.returned (.pending { f with inner := inner }), w₁) := f.run_poll_pending hpoll
        rw [hflight]
        exact ih { f with inner := inner } w₁
      · obtain ⟨e, w₂, hc, hdone⟩ := f.run_poll_done (i := i) hpoll
        have hflight : ((i.flights futures).poll f).run c w₀ = _ := hdone
        refine ⟨_, _, .done hc, ?_⟩
        rw [hflight]
        cases e <;> rfl
      · obtain ⟨w₂, hc, hpanic⟩ := f.run_poll_panicked (i := i) hpoll
        have hflight : ((i.flights futures).poll f).run c w₀ = _ := hpanic
        refine ⟨_, _, .panicked hc, ?_⟩
        rw [hflight]

/-- Interceptors and measured services are transparent, whatever the delegate, the tags provider,
the clock and the registry do. -/
theorem Instrumentation.transparent (i : LiveInstrumentation σ) : Transparent i := by
  refine ⟨?_, ?_, ?_, ?_⟩
  · intro request delegate c w o r w₁ hstart
    obtain ⟨e, w₃, hc, hrun⟩ := i.run_intercept delegate hstart rfl
    exact ⟨e, w₃, hc, hrun, hc.eq⟩
  · intro φ request inner c w o r w₁ w₂ future hstart hinner
    exact i.run_call_returned hstart hinner
  · intro φ request inner c w o r w₁ w₂ message hstart hinner
    exact i.run_call_panicked hstart hinner
  · intro φ futures pauses f c w
    obtain ⟨e, w₂, hflown, hrun⟩ := Flight.run_await i futures pauses f (c := c) w
    exact ⟨e, w₂, hflown, hrun, hflown.eq⟩

end

/-! ### An error without a text -/

namespace Failure

/-- Call a measured service and await the error that its futures give. -/
def awaited (f : Failure) : Exec Unit (Option Result) := do
  let flight ← (Instrumentation.plain false).call (fun _ => pure ()) .plain
  ((Instrumentation.plain false).flights f.futures).await [pure ()] flight

/-- An error without a text is what the delegate gives and what awaiting the future of the service
gives, and the measurement begins; but the caller gets a panic in place of it, in both shapes. -/
theorem broken_replaced :
    let w : World Unit := { shared := () }
    (∃ o w₁, ((Instrumentation.plain false).start .plain).run {} (Route.openScope.run {} w).2 =
        (.returned (o, .plain), w₁)) ∧
      ((broken.delegate .plain).run {} w).1 = .returned (.error broken) ∧
      (((Instrumentation.plain false).intercept .plain broken.delegate).run {} w).1 =
        .panicked "no text" ∧
      ((broken.futures.await [pure ()] ()).run {} w).1 = .returned (some (.error broken)) ∧
      (broken.awaited.run {} w).1 = .panicked "no text" := by
  exact ⟨⟨_, _, rfl⟩, rfl, rfl, rfl, rfl⟩

end Failure

end ExchangeMetrics
