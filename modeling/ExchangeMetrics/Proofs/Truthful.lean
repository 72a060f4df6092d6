import ExchangeMetrics.Proofs.Chronicle
import ExchangeMetrics.Proofs.Propagation

/-!
# Programs leave journals that can be trusted

Whatever programs do, side by side and in any order, every entry of the journal fits what its thread
wrote before. One lemma says so of each operation on exchanges; since the delegates, services, tags
providers and registries that an operation runs are programs in turn, the rest is an induction over
programs.

## Main results

* `Instrumentation.start_follows`, `Observation.record_follows`: the two ends of a measurement.
* `Program.trusted`: every program.
* `Pool.Fresh.sound_of_reaches`: every state that a pool of programs can reach.
-/

namespace ExchangeMetrics

open Exec

variable {σ α : Type} {kept : σ → Multiset Observation}

/-- More is known after a computation, and the observations that it gave have begun. -/
structure Known.Gains (k : Known) (gives : α → Multiset Observation) (e : Ending α) (k' : Known) :
    Prop where
  grows : k.Grows k'
  begun : ∀ o ∈ e.owned gives, k'.begun o

namespace Known.Gains

variable {k k' k'' : Known} {gives : α → Multiset Observation} {e : Ending α}

/-- What is gained is still there when more becomes known. -/
theorem trans_grows (h : k.Gains gives e k') (h' : k'.Grows k'') : k.Gains gives e k'' :=
  ⟨h.grows.trans h', fun o ho => h'.begun o (h.begun o ho)⟩

/-- What was known before adds nothing to what is gained. -/
theorem of_grows (h : k.Grows k') (h' : k'.Gains gives e k'') : k.Gains gives e k'' :=
  ⟨h.trans h'.grows, h'.begun⟩

/-- A computation that gives no observations gains what it has learnt. -/
theorem nothing (h : k.Grows k') (e : Ending α) : k.Gains (fun _ => 0) e k' := by
  refine ⟨h, fun o ho => ?_⟩
  cases e <;> exact absurd ho (Multiset.notMem_zero o)

/-- A computation that panics gives no observations. -/
theorem panicked (h : k.Grows k') (message : String) : k.Gains gives (.panicked message) k' :=
  ⟨h, fun o ho => absurd ho (Multiset.notMem_zero o)⟩

end Known.Gains

/-- A computation that knows the observations it owns to have begun keeps to what the journal may be
trusted for, and the observations that it gives have begun. -/
def Exec.Trusted (kept : σ → Multiset Observation) (own : Multiset Observation) (m : Exec σ α)
    (gives : α → Multiset Observation) : Prop :=
  ∀ c k, (∀ o ∈ own, k.begun o) → m.Follows (truth kept) c k (k.Gains gives)

/-- The clock, the registry and the tags provider of an instrumentation can be trusted. -/
structure Instrumentation.Trusted (kept : σ → Multiset Observation) (i : LiveInstrumentation σ) :
    Prop where
  /-- Reading the clock. -/
  now : Exec.Trusted kept 0 i.registry.now fun _ => 0
  /-- Giving the registry an observation. -/
  record : ∀ timer tags elapsed,
    Exec.Trusted kept 0 (i.registry.record timer tags elapsed) fun _ => 0
  /-- Asking the tags provider. -/
  provider : ∀ view reply, Exec.Trusted kept 0 (i.provider view reply) fun _ => 0

section

variable {i : LiveInstrumentation σ} {o : Observation} {c : Context} {k : Known}
  {how : Departure} {reply : Reply} {rest : List Event}

/-- A computation that owns nothing, with what is known afterwards. -/
theorem Exec.Trusted.follows {m : Exec σ α} {post : Ending α → Known → Prop}
    (h : Exec.Trusted kept 0 m fun _ => 0) (hpost : ∀ e k', k.Grows k' → post e k') :
    m.Follows (truth kept) c k post :=
  (h c k fun o ho => absurd ho (Multiset.notMem_zero o)).mono fun e k' hk => hpost e k' hk.grows

/-! ### Beginning an exchange -/

/-- A claim writes what it found on the stack. -/
theorem Route.claim_follows {uri : Uri} {post : Ending (Option String) → Known → Prop}
    (hpost : ∀ captured k', k.Grows k' → post (.returned captured) k') :
    (Route.claim uri).Follows (truth kept) c k post := by
  refine follows_onThread (fun t older => ?_) fun t => hpost _ _ (k.grows_writes _)
  cases t.routes.claim uri <;> trivial

/-- Asking for the offers writes nothing. -/
theorem Instrumentation.offers_follows
    {post : Ending (List (String × String)) → Known → Prop}
    (hpost : ∀ offers, post (.returned offers) k) :
    i.offers.Follows (truth kept) c k post := by
  rw [offers]
  split
  · exact follows_quietly (fun _ => rfl) (fun _ => rfl) fun w => hpost w.propagated
  · exact hpost []

/-- What was skipped may always be written. -/
theorem skipped_follows {skipped : List (String × MetricsError)} {post : Ending Unit → Known → Prop}
    (hpost : ∀ k', k.Grows k' → post (.returned ()) k') :
    (skipped.forM fun s => (note (.headerSkipped s.1 s.2) : Exec σ Unit)).Follows (truth kept) c k
      post := by
  induction skipped generalizing k with
  | nil => exact hpost k (.refl k)
  | cons s skipped ih =>
      refine Follows.bind (follows_note (fun _ _ => trivial) ?_)
      exact ih fun k' hk' => hpost k' ((k.grows_writes _).trans hk')

/-- Reading a clock writes the reading, if the clock can be trusted. -/
theorem MeterRegistry.read_follows {registry : MeterRegistry σ}
    {post : Ending Instant → Known → Prop}
    (hnow : Exec.Trusted kept 0 registry.now fun _ => 0)
    (hpost : ∀ reading k', k.Grows k' → post (.returned reading) (k'.writes (.clockRead reading)))
    (hpan : ∀ message k', k.Grows k' → post (.panicked message) k') :
    registry.read.Follows (truth kept) c k post := by
  refine Follows.bind (hnow.follows fun e k' hk' => ?_)
  cases e with
  | returned reading =>
      exact Follows.bind (follows_note (fun _ _ => trivial) (hpost reading k' hk'))
  | panicked message => exact hpan message k' hk'

/-- An exchange that was started has begun. -/
theorem Instrumentation.start_follows {request : Request}
    {post : Ending (Observation × Request) → Known → Prop} (hi : Instrumentation.Trusted kept i)
    (hpost : ∀ o r k', k.Grows k' → k'.begun o → post (.returned (o, r)) k')
    (hpan : ∀ message k', k.Grows k' → post (.panicked message) k') :
    (i.start request).Follows (truth kept) c k post := by
  rw [start_eq]
  refine Follows.bind (Route.claim_follows fun captured k₀ hk₀ => Follows.bind ?_)
  refine i.offers_follows fun offers => Follows.bind (skipped_follows fun k₁ hk₁ => ?_)
  have hoffered := hk₀.trans hk₁
  refine Follows.bind (MeterRegistry.read_follows hi.now (fun reading k₂ hk₂ => ?_) ?_)
  · refine Follows.bind (follows_newExchange rfl fun x => ?_)
    have hread := (hoffered.trans hk₂).trans (k₂.grows_writes (.clockRead reading))
    refine hpost _ _ _ ?_ (.inr rfl)
    exact (hread.trans (Known.grows_writes _ _)).trans (Known.grows_learns _ _)
  · intro message k₂ hk₂
    exact hpan message k₂ (hoffered.trans hk₂)

/-! ### Recording an exchange -/

namespace Observation

/-- The panic of a tags provider is caught. -/
theorem tags_follows {post : Ending (Except MetricsError Tags) → Known → Prop}
    (hi : Instrumentation.Trusted kept i)
    (hpost : ∀ tags k', k.Grows k' → post (.returned tags) k') :
    (o.tags i reply).Follows (truth kept) c k post := by
  refine Follows.bind (follows_guarded.mpr ((hi.provider _ _).follows fun e k' hk' => ?_))
  cases e with
  | returned tags => exact hpost tags k' hk'
  | panicked message => exact hpost _ k' hk'

/-- The registry is given the time between the two readings, and if it takes that, the report may
say so. -/
theorem submit_follows {tags : Tags} {post : Ending (Except MetricsError Duration) → Known → Prop}
    (hi : Instrumentation.Trusted kept i) (ho : k.begun o)
    (htrack : k.track = .tagged o.exchange (.ok tags) :: rest)
    (hpost : ∀ r k', k.Grows k' →
      (∀ d, r = .ok d → FitsReport o.exchange k'.track i.timer.name tags.size d) →
        post (.returned r) k') :
    (o.submit i tags).Follows (truth kept) c k post := by
  refine Follows.bind (follows_guarded.mpr (Follows.bind ?_))
  have hnow : Exec.Trusted kept 0 (i.registry.onBehalfOf o.exchange).now fun _ => 0 := hi.now
  refine MeterRegistry.read_follows hnow (fun reading k₁ hk₁ => ?_) fun message k₁ hk₁ => ?_
  · let elapsed := reading.since o.sample.begun
    refine Follows.bind (Follows.bind (follows_note (fun _ _ => trivial) ?_))
    refine Follows.bind (follows_note (fun w hk => ?_) ?_)
    · obtain ⟨between, hbetween⟩ := hk₁.track
      have hbegan : Began w.journal o := hk.begun o (hk₁.begun o ho)
      refine ⟨o, rfl, hbegan, reading, i.timer, tags, between, rest, hk.track.trans ?_⟩
      rw [← htrack, hbetween]
      rfl
    let k₂ := ((k₁.writes (.clockRead reading)).writes (.observed i.timer tags elapsed)).writes
      (.submitted o.exchange)
    have hk₂ : k.Grows k₂ := ((hk₁.trans (Known.grows_writes _ _)).trans
      (Known.grows_writes _ _)).trans (Known.grows_writes _ _)
    refine Follows.bind ((hi.record _ _ _).follows fun e k₃ hk₃ => ?_)
    cases e with
    | returned answer =>
        refine Follows.bind (follows_note (fun _ _ => trivial) ?_)
        have hgrows := (hk₂.trans hk₃).trans (k₃.grows_writes (.answered o.exchange answer))
        cases answer with
        | ok _ =>
            refine hpost _ _ hgrows fun d hd => ?_
            obtain rfl := Except.ok.inj hd
            obtain ⟨between, hbetween⟩ := hk₃.track
            refine ⟨i.timer, tags, between, (k₁.writes (.clockRead reading)).track, rfl, rfl, ?_⟩
            exact congrArg (Event.answered o.exchange (.ok ()) :: ·) hbetween.symm
        | error reason => exact hpost _ _ hgrows fun d hd => nomatch hd
    | panicked message => exact hpost _ _ (hk₂.trans hk₃) fun d hd => nomatch hd
  · exact hpost _ _ hk₁ fun d hd => nomatch hd

/-- An attempt to record an exchange leaves enough known to report on it. -/
theorem attempt_follows {post : Ending Report → Known → Prop}
    (hi : Instrumentation.Trusted kept i) (ho : k.begun o)
    (hpost : ∀ report k', k.Grows k' →
      (∀ w : World σ, k'.Holds c.thread w.journal →
        (Event.reported o.exchange report).Fits w.journal c.thread) →
          post (.returned report) k') :
    (o.attempt i reply).Follows (truth kept) c k post := by
  refine Follows.bind (tags_follows hi fun tags k₁ hk₁ => ?_)
  refine Follows.bind (follows_note (fun _ _ => trivial) ?_)
  have hk₂ := hk₁.trans (k₁.grows_writes (.tagged o.exchange tags))
  cases tags with
  | error reason => exact hpost _ _ hk₂ fun _ _ => trivial
  | ok tags =>
      refine Follows.bind (submit_follows hi (hk₂.begun o ho) rfl fun r k₃ hk₃ hfits => ?_)
      cases r with
      | error reason => exact hpost _ _ (hk₂.trans hk₃) fun _ _ => trivial
      | ok d =>
          refine hpost _ _ (hk₂.trans hk₃) fun w hk => ?_
          have hreport := hfits d rfl
          rw [← hk.track] at hreport
          exact hreport

/-- A recording that begins right after the exchange was settled. -/
theorem record_follows {post : Ending Unit → Known → Prop} (hi : Instrumentation.Trusted kept i)
    (ho : k.begun o) (htrack : k.track = .settled o.exchange how :: rest)
    (hallows : how.Allows reply) (hpost : ∀ k', k.Grows k' → post (.returned ()) k') :
    (o.record i reply).Follows (truth kept) c k post := by
  refine Follows.bind (follows_note (fun w hk => ?_) ?_)
  · exact ⟨how, rest, hk.track.trans htrack, hallows⟩
  have hk₁ := k.grows_writes (.recording o.exchange reply)
  refine Follows.bind (attempt_follows hi (hk₁.begun o ho) fun report k₂ hk₂ hfits => ?_)
  refine follows_note hfits (hpost _ ?_)
  exact (hk₁.trans hk₂).trans (Known.grows_writes _ _)

/-- An exchange that has a result is recorded with it, or its error gives no text. -/
theorem complete_follows {result : Result} {post : Ending Unit → Known → Prop}
    (hi : Instrumentation.Trusted kept i) (ho : k.begun o)
    (hpost : ∀ e k', k.Grows k' → post e k') :
    (o.complete i result).Follows (truth kept) c k post := by
  refine Follows.bind (follows_note (fun _ _ => trivial) ?_)
  have hk₁ := k.grows_writes (.settled o.exchange (.result result))
  rcases result with failure | response
  · refine Follows.bind (Follows.bind ?_)
    cases hd : failure.display with
    | text s =>
        refine record_follows hi (hk₁.begun o ho) rfl ⟨s, hd, rfl⟩ fun k' hk' => ?_
        exact hpost _ k' (hk₁.trans hk')
    | fails => exact hpost _ _ hk₁
    | panics message => exact hpost _ _ hk₁
  · refine record_follows hi (hk₁.begun o ho) rfl rfl fun k' hk' => ?_
    exact hpost _ k' (hk₁.trans hk')

/-- An exchange that was dropped is described according to whether the thread is unwinding. -/
theorem forsake_follows {post : Ending Unit → Known → Prop} (hi : Instrumentation.Trusted kept i)
    (ho : k.begun o)
    (hallows : how.Allows (.failed (if c.unwinding then .delegatePanicked else .cancelled)))
    (hpost : ∀ k', k.Grows k' → post (.returned ()) k') :
    (o.forsake i how).Follows (truth kept) c k post := by
  refine Follows.bind (follows_note (fun _ _ => trivial) ?_)
  have hk₁ := k.grows_writes (.settled o.exchange how)
  refine Follows.bind (follows_quietly (fun _ => rfl) (fun _ => rfl) fun _ => ?_)
  refine record_follows hi (hk₁.begun o ho) rfl hallows fun k' hk' => ?_
  exact hpost k' (hk₁.trans hk')

/-- The end of an exchange may always be written. -/
theorem lastly_follows {m : Exec σ α} {post : Ending α → Known → Prop}
    (h : m.Follows (truth kept) c k fun e k' => post e (k'.writes (.ended o.exchange))) :
    (o.lastly m).Follows (truth kept) c k post :=
  Follows.andThen (h.mono fun _ _ hpost => follows_note (fun _ _ => trivial) hpost)

end Observation

end

/-! ### The operations -/

section

variable {i : LiveInstrumentation σ} {c : Context} {k : Known} {request : Request}

/-- What runs in a scope can be trusted as it can without one. -/
theorem Route.inScope_follows {m : Exec σ α} {gives : α → Multiset Observation}
    (h : ∀ k', k.Grows k' → m.Follows (truth kept) c k' (k.Gains gives)) :
    (Route.inScope m).Follows (truth kept) c k (k.Gains gives) := by
  refine Follows.bind (follows_onThread (fun _ _ => trivial) fun _ => ?_)
  refine Follows.andThen ((h _ (k.grows_writes _)).mono fun e k' hk' => ?_)
  exact follows_onThread (fun _ _ => trivial) fun _ => hk'.trans_grows (k'.grows_writes _)

/-- An interceptor can be trusted if its instrumentation and its delegate can. -/
theorem Instrumentation.intercept_trusted {delegate : Request → Exec σ Result}
    (hi : Instrumentation.Trusted kept i)
    (hd : ∀ request, Exec.Trusted kept 0 (delegate request) fun _ => 0) :
    Exec.Trusted kept 0 (i.intercept request delegate) fun _ => 0 := by
  intro c k _
  refine Route.inScope_follows fun k₀ hk₀ => Follows.bind (start_follows hi ?_ ?_)
  · intro o r k₁ hk₁ ho
    refine o.lastly_follows (Follows.bind (follows_note (fun _ _ => trivial) ?_))
    have hk₂ := (hk₀.trans hk₁).trans (k₁.grows_writes (.dispatched o.exchange))
    refine Follows.bind (Follows.onPanic ((hd r).follows fun e k₃ hk₃ => ?_))
    have hbegun := hk₃.begun o ho
    cases e with
    | returned result =>
        refine Follows.bind (o.complete_follows hi hbegun fun e k₄ hk₄ => ?_)
        cases e <;> exact .nothing (((hk₂.trans hk₃).trans hk₄).trans (k₄.grows_writes _)) _
    | panicked message =>
        refine o.forsake_follows hi hbegun rfl fun k₄ hk₄ => ?_
        exact .nothing (((hk₂.trans hk₃).trans hk₄).trans (k₄.grows_writes _)) _
  · intro message k₁ hk₁
    exact .nothing (hk₀.trans hk₁) _

section

variable {φ : Type} {owned : φ → Multiset Observation} {futures : Futures σ φ} {flight : Flight φ}

/-- The observation of a future has begun if those that it owns have. -/
theorem Flight.begun_of_owned (h : ∀ o ∈ flight.owned owned, k.begun o) :
    k.begun flight.observation ∧ ∀ o ∈ owned flight.inner, k.begun o :=
  ⟨h _ (Multiset.mem_cons_self _ _), fun o ho => h o (Multiset.mem_cons_of_mem ho)⟩

/-- The observations that a future owns have begun if its own one has and those of the future
inside. -/
theorem Flight.owned_begun (f : Flight φ) (hobservation : k.begun f.observation)
    (hinner : ∀ o ∈ owned f.inner, k.begun o) : ∀ o ∈ f.owned owned, k.begun o := by
  intro o ho
  rcases Multiset.mem_cons.1 ho with rfl | ho
  · exact hobservation
  · exact hinner o ho

/-- The call of a measured service can be trusted, and the observation of its future has begun. -/
theorem Instrumentation.call_trusted {inner : Request → Exec σ φ}
    (hi : Instrumentation.Trusted kept i)
    (hinner : ∀ request, Exec.Trusted kept 0 (inner request) owned) :
    Exec.Trusted kept 0 (i.call inner request) (Flight.owned owned) := by
  intro c k _
  refine Route.inScope_follows fun k₀ hk₀ => Follows.bind (start_follows hi ?_ ?_)
  · intro o r k₁ hk₁ ho
    refine Follows.bind (follows_note (fun _ _ => trivial) ?_)
    have hk₂ := (hk₀.trans hk₁).trans (k₁.grows_writes (.dispatched o.exchange))
    refine Follows.bind (Follows.onPanic ((hinner r _ _ fun o ho => absurd ho ?_).mono ?_))
    · exact Multiset.notMem_zero o
    rintro (future | message) k₃ ⟨hk₃, hfuture⟩
    · refine ⟨hk₂.trans hk₃, ?_⟩
      exact Flight.owned_begun ⟨o, future⟩ (hk₃.begun o ho) hfuture
    · refine o.lastly_follows (o.forsake_follows hi (hk₃.begun o ho) rfl fun k₄ hk₄ => ?_)
      exact .panicked (((hk₂.trans hk₃).trans hk₄).trans (k₄.grows_writes _)) message
  · intro message k₁ hk₁
    exact .panicked (hk₀.trans hk₁) message

/-- Polling can be trusted if polling the future inside can. -/
theorem Flight.poll_trusted (hi : Instrumentation.Trusted kept i)
    (hpoll : Exec.Trusted kept (owned flight.inner) (futures.poll flight.inner)
      (Poll.owned owned)) :
    Exec.Trusted kept (flight.owned owned) (flight.poll i futures)
      (Poll.owned (Flight.owned owned)) := by
  intro c k hown
  obtain ⟨ho, hinner⟩ := Flight.begun_of_owned hown
  refine Follows.bind (Follows.onPanic ((hpoll c k hinner).mono ?_))
  rintro (result | message) k₁ ⟨hk₁, hresult⟩
  · cases result with
    | pending future =>
        refine ⟨hk₁, ?_⟩
        exact Flight.owned_begun ⟨flight.observation, future⟩ (hk₁.begun _ ho) hresult
    | done result =>
        refine Observation.lastly_follows (Follows.bind ?_)
        refine Observation.complete_follows hi (hk₁.begun _ ho) fun e k₂ hk₂ => ?_
        have hgrows := (hk₁.trans hk₂).trans (k₂.grows_writes (.ended flight.observation.exchange))
        cases e with
        | returned _ => exact ⟨hgrows, fun o ho => absurd ho (Multiset.notMem_zero o)⟩
        | panicked message => exact .panicked hgrows message
  · refine Observation.lastly_follows (Observation.forsake_follows hi (hk₁.begun _ ho) rfl ?_)
    intro k₂ hk₂
    exact .panicked ((hk₁.trans hk₂).trans (k₂.grows_writes _)) message

/-- Dropping can be trusted if dropping the future inside can. -/
theorem Flight.drop_trusted (hi : Instrumentation.Trusted kept i)
    (hdrop : Exec.Trusted kept (owned flight.inner) (futures.drop flight.inner) fun _ => 0) :
    Exec.Trusted kept (flight.owned owned) (flight.drop i futures) fun _ => 0 := by
  intro c k hown
  obtain ⟨ho, hinner⟩ := Flight.begun_of_owned hown
  refine Observation.lastly_follows (Follows.bind (Follows.onPanic ((hdrop c k hinner).mono ?_)))
  rintro (_ | message) k₁ ⟨hk₁, -⟩
  · refine Observation.forsake_follows hi (hk₁.begun _ ho) ?_ fun k₂ hk₂ => ?_
    · cases c.unwinding
      · exact .inl rfl
      · exact .inr rfl
    · exact .nothing ((hk₁.trans hk₂).trans (k₂.grows_writes _)) _
  · refine Observation.forsake_follows hi (hk₁.begun _ ho) rfl fun k₂ hk₂ => ?_
    exact .nothing ((hk₁.trans hk₂).trans (k₂.grows_writes _)) _

end

end

/-! ### Programs -/

/-- Every program can be trusted. -/
theorem Program.trusted {own : Multiset Observation} {m : Exec σ α}
    {gives : α → Multiset Observation} (h : Program kept own m gives) :
    Exec.Trusted kept own m gives := by
  induction h with
  | pure a gives => exact fun c k hown => ⟨.refl k, hown⟩
  | panic message gives => exact fun c k _ => .panicked (.refl k) message
  | bind _ _ ihm ihf =>
      intro c k hown
      refine Follows.bind ((ihm c k hown).mono ?_)
      rintro (a | message) k₁ ⟨hk₁, hmid⟩
      · exact (ihf a c k₁ hmid).mono fun _ _ h => .of_grows hk₁ h
      · exact .panicked hk₁ message
  | guarded _ held ihm =>
      intro c k hown
      refine follows_guarded.mpr ((ihm c k fun o ho => ?_).mono fun e k₁ hk₁ => ?_)
      · exact hown o (Multiset.mem_add.2 (.inl ho))
      · refine ⟨hk₁.grows, fun o ho => ?_⟩
        rcases Multiset.mem_add.1 ho with ho | ho
        · exact hk₁.begun o ho
        · exact hk₁.grows.begun o (hown o (Multiset.mem_add.2 (.inr ho)))
  | onPanic _ _ ihm ihc =>
      intro c k hown
      refine Follows.onPanic ((ihm c k fun o ho => ?_).mono ?_)
      · exact hown o (Multiset.mem_add.2 (.inl ho))
      rintro (a | message) k₁ ⟨hk₁, hgives⟩
      · refine ⟨hk₁, fun o ho => ?_⟩
        rcases Multiset.mem_add.1 ho with ho | ho
        · exact hgives o ho
        · exact hk₁.begun o (hown o (Multiset.mem_add.2 (.inr ho)))
      · refine (ihc c.unwound k₁ fun o ho => ?_).mono fun _ _ h => .panicked (hk₁.trans h.grows) _
        exact hk₁.begun o (hown o (Multiset.mem_add.2 (.inr ho)))
  | context own =>
      exact fun c k hown => follows_quietly (fun _ => rfl) (fun _ => rfl) fun _ => ⟨.refl k, hown⟩
  | access f hf =>
      intro c k hown
      exact follows_access hf hown fun a => ⟨k.grows_learns _, fun o ho => .inr ho⟩
  | propagated own =>
      exact fun c k hown => follows_quietly (fun _ => rfl) (fun _ => rfl) fun _ => ⟨.refl k, hown⟩
  | setPropagated own headers =>
      exact fun c k hown => follows_quietly (fun _ => rfl) (fun _ => rfl) fun _ => ⟨.refl k, hown⟩
  | @aside own event he =>
      intro c k hown
      refine follows_note (fun _ _ => ?_) ⟨k.grows_writes event, hown⟩
      cases event <;> trivial
  | depth own =>
      intro c k hown
      exact Follows.bind (follows_quietly (fun _ => rfl) (fun _ => rfl) fun _ => ⟨.refl k, hown⟩)
  | clear own =>
      intro c k hown
      exact follows_onThread (fun _ _ => trivial) fun _ => ⟨k.grows_writes _, hown⟩
  | expand _ ihh =>
      intro c k _
      refine Follows.bind (follows_onThread (fun _ _ => trivial) fun t => ?_)
      refine Follows.bind (ihh.follows fun e k₁ hk₁ => ?_)
      have hgrows := (k.grows_writes _).trans hk₁
      rcases e with (reason | uri) | message
      · refine Follows.bind (follows_onThread (fun _ _ => trivial) fun _ => ?_)
        exact .nothing (hgrows.trans (k₁.grows_writes _)) _
      · refine Follows.bind (follows_onThread (fun _ _ => trivial) fun _ => ?_)
        exact .nothing (hgrows.trans (k₁.grows_writes _)) _
      · exact .nothing hgrows _
  | intercept request _ _ _ _ hnow hrecord hprovider hd =>
      exact Instrumentation.intercept_trusted ⟨hnow, hrecord, hprovider⟩ hd
  | call request owned _ _ _ _ hnow hrecord hprovider hinner =>
      exact Instrumentation.call_trusted ⟨hnow, hrecord, hprovider⟩ hinner
  | poll flight owned _ _ _ _ hnow hrecord hprovider hpoll =>
      exact Flight.poll_trusted ⟨hnow, hrecord, hprovider⟩ hpoll
  | drop flight owned _ _ _ _ hnow hrecord hprovider hdrop =>
      exact Flight.drop_trusted ⟨hnow, hrecord, hprovider⟩ hdrop

/-! ### Pools -/

/-- Of every thread something is known that is true of the journal, which can be trusted. -/
def Pool.Trusted (kept : σ → Multiset Observation) (p : Pool σ) : Prop :=
  ∃ known : ThreadId → Known, p.Follows (truth kept) (fun _ => True) known ∧
    (∀ t, (known t).Holds t p.world.journal) ∧ Sound kept p.world

/-- A step of any thread keeps what is known of all of them. -/
theorem Pool.Trusted.step {p q : Pool σ} {t : ThreadId} (h : p.Trusted kept)
    (hs : Pool.Step t p q) : q.Trusted kept := by
  obtain ⟨known, hfollows, hholds, hsound⟩ := h
  obtain ⟨k', hfaithful, hfollows'⟩ := hs.follows hfollows ⟨hsound, hholds t⟩
  refine ⟨Function.update known t k', hfollows', fun u => ?_, hfaithful.sound⟩
  by_cases hu : u = t
  · subst hu
    rw [Function.update_self]
    exact hfaithful.holds
  · rw [Function.update_of_ne hu]
    refine ⟨(hfaithful.others u hu).trans (hholds u).track, fun o ho => ?_⟩
    exact hfaithful.begun o ((hholds u).begun o ho)

/-- In every state that a pool of programs can reach, the journal can be trusted. -/
theorem Pool.Fresh.sound_of_reaches {p q : Pool σ} (hp : p.Fresh kept) (h : p.Reaches q) :
    Sound kept q.world := by
  have hstart : p.Trusted kept := by
    refine ⟨fun _ => ⟨[], fun _ => False⟩, fun t m hm => ?_, fun t => ⟨?_, fun _ ho => ho.elim⟩, ?_⟩
    · have hmem := List.mem_of_getElem? hm
      exact (hp.threads m hmem).trusted.follows fun _ _ _ => trivial
    · rw [hp.journal]
      rfl
    · refine ⟨?_, fun o ho => ?_⟩
      · rw [hp.journal]
        trivial
      · rw [hp.shared] at ho
        exact absurd ho (Multiset.notMem_zero o)
  obtain ⟨-, -, -, hsound⟩ := h.invariant hstart fun _ _ _ hr hs => hr.step hs
  exact hsound

end ExchangeMetrics
