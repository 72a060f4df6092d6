import ExchangeMetrics.Proofs.Ledger
import ExchangeMetrics.Proofs.Program

/-!
# Who answers for an exchange

Every operation on exchanges keeps account of them. An exchange that is intercepted begins and
ends within the interception. A call to a measured service begins an exchange and leaves it
underway in the future that it gives; polling the future and dropping it either leave the
exchange there or bring it to its end.

A computation that takes the futures of some exchanges and gives back those of others, whatever
it does in between, is one that `Exec.Transfers` them. Programs do.

## Main results

* `Observation.record_carries`: a recording goes through all its stages and never panics.
* `Instrumentation.intercept_transfers`, `Instrumentation.call_transfers`,
  `Flight.poll_transfers`, `Flight.drop_transfers`: the operations on exchanges.
* `Program.transfers`: every program transfers the observations it owns.
-/

namespace ExchangeMetrics

variable {σ α : Type} {kept : σ → Multiset Observation}

/-- A computation takes the futures of some exchanges and gives those of others with its value;
if it panics, it leaves nothing behind. -/
abbrev Exec.Transfers (kept : σ → Multiset Observation) (own : Multiset Observation)
    (m : Exec σ α) (gives : α → Multiset Observation) : Prop :=
  m.Carries kept (.resting own) (fun a l => l = .resting (gives a)) fun l => l = 0

namespace Exec

variable {m : Exec σ α} {f : Ledger} {pan : Ledger → Prop}

/-- A transfer amid other exchanges. -/
theorem Transfers.carries {own : Multiset Observation} {gives : α → Multiset Observation}
    {ret : α → Ledger → Prop} (h : Transfers kept own m gives)
    (hret : ∀ a, ret a (.resting (gives a) + f)) (hpan : pan f) :
    m.Carries kept (.resting own + f) ret pan := by
  refine Carries.frame (h.mono (fun a l hl => ?_) fun l hl => ?_)
  · rw [hl]
    exact hret a
  · rw [hl, Multiset.zero_add]
    exact hpan

/-- A computation that neither takes nor gives anything, amid other exchanges. -/
theorem Transfers.carries_zero {ret : α → Ledger → Prop}
    (h : Transfers kept 0 m fun _ => 0) (hret : ∀ a, ret a f) (hpan : pan f) :
    m.Carries kept f ret pan := by
  have hm : m.Carries kept (Ledger.resting 0 + f) ret pan := by
    refine h.carries (fun a => ?_) hpan
    rw [Ledger.resting_zero, Multiset.zero_add]
    exact hret a
  rw [Ledger.resting_zero, Multiset.zero_add] at hm
  exact hm

end Exec

/-- The clock, the registry and the tags provider of an instrumentation do not take or give
futures. -/
structure Instrumentation.Transfers (kept : σ → Multiset Observation)
    (i : LiveInstrumentation σ) : Prop where
  /-- Reading the clock. -/
  now : Exec.Transfers kept 0 i.registry.now fun _ => 0
  /-- Giving the registry an observation. -/
  record : ∀ timer tags elapsed,
    Exec.Transfers kept 0 (i.registry.record timer tags elapsed) fun _ => 0
  /-- Asking the tags provider. -/
  provider : ∀ view reply, Exec.Transfers kept 0 (i.provider view reply) fun _ => 0

/-- An exchange at this stage can end. -/
def Stage.CanEnd (x : ExchangeId) (s : Stage) : Prop :=
  ∃ s', s.Next x (.ended x) s'

/-- What is reported when the attempt to submit an observation gave this. -/
def Report.of (metric : String) (tags : Nat) : Except MetricsError Duration → Report
  | .ok elapsed => .recorded metric tags elapsed
  | .error reason => .unrecorded metric reason

section

variable {i : LiveInstrumentation σ} {o : Observation} {f : Ledger} {pan : Ledger → Prop}

/-! ### Beginning an exchange -/

/-- Resolving the route leaves all that is in hand as it is. -/
theorem Route.resolve_carries {request : Request} {ret : Option String → Ledger → Prop}
    (h : ∀ route, ret route f) : (Route.resolve request).Carries kept f ret pan := by
  refine Exec.Keeps.bind (Exec.carries_onThread (fun t => ?_) fun captured => h _)
  cases t.routes.claim request.uri <;> rfl

/-- So does asking the propagator. -/
theorem inject_carries {v : RequestView} {ret : RequestView → Ledger → Prop}
    (h : ∀ v', ret v' f) : (inject v).Carries kept f ret pan := by
  refine Exec.Keeps.bind (Exec.carries_propagated fun headers => ?_)
  rcases v.offer headers with ⟨v', skipped⟩
  refine Exec.Keeps.bind ?_
  induction skipped with
  | nil => exact h v'
  | cons s skipped ih => exact Exec.Keeps.bind (Exec.carries_note_aside rfl ih)

/-- And so does putting into the request what was offered. -/
theorem propagate_carries {v : RequestView} {request : Request}
    {ret : RequestView × Request → Ledger → Prop} (h : ∀ r, ret r f) :
    (propagate v request).Carries kept f ret pan :=
  Exec.Keeps.bind (inject_carries fun _ => h _)

/-- Starting the clock leaves all that is in hand as it is, also if the clock panics. -/
theorem Sample.start_carries {ret : Sample → Ledger → Prop}
    (hi : Instrumentation.Transfers kept i) (h : ∀ sample, ret sample f) (hpan : pan f) :
    (Sample.start i.registry).Carries kept f ret pan := by
  refine Exec.Keeps.bind (Exec.Keeps.bind ?_)
  refine hi.now.carries_zero (fun reading => ?_) hpan
  exact Exec.Keeps.bind (Exec.carries_note_aside rfl (h _))

/-- Starting begins one exchange; if it panics, none has begun. -/
theorem Instrumentation.start_carries {request : Request}
    {ret : Observation × Request → Ledger → Prop} (hi : Instrumentation.Transfers kept i)
    (h : ∀ o request, ret (o, request) ((o.exchange, .begun) ::ₘ f)) (hpan : pan f) :
    (i.start request).Carries kept f ret pan := by
  refine Exec.Keeps.bind (Route.resolve_carries fun route => ?_)
  have hgo (r : RequestView × Request) : Exec.Carries kept (do
      let sample ← Sample.start i.registry
      let exchange ← Exec.newExchange r.1
      pure ((⟨exchange, r.1, sample⟩ : Observation), r.2)) f ret pan := by
    refine Exec.Keeps.bind (Sample.start_carries hi (fun sample => ?_) hpan)
    exact Exec.Keeps.bind (Exec.carries_newExchange fun x => h ⟨x, r.1, sample⟩ r.2)
  cases i.propagates with
  | true => exact Exec.Keeps.bind (propagate_carries hgo)
  | false => exact hgo ((RequestView.ofRequest request).withRoute route, request)

/-! ### Recording an exchange -/

namespace Observation

/-- The tags provider changes nothing about the exchange, and its panic is caught. -/
theorem tags_carries {reply : Reply} {ret : Except MetricsError Tags → Ledger → Prop}
    (hi : Instrumentation.Transfers kept i) (h : ∀ tags, ret tags f) :
    (o.tags i reply).Carries kept f ret pan := by
  refine Exec.Keeps.bind (Exec.Keeps.guarded ?_)
  exact (hi.provider o.request reply).carries_zero h fun message => h _

/-- Whatever comes of submitting an observation may be reported. -/
theorem submit_carries {tags : Tags} {ret : Except MetricsError Duration → Ledger → Prop}
    (hi : Instrumentation.Transfers kept i)
    (h : ∀ r s, (∀ metric n, s.Next o.exchange (.reported o.exchange (.of metric n r)) .reported) →
      ret r ((o.exchange, s) ::ₘ f)) :
    (o.submit i tags).Carries kept ((o.exchange, .tagged (.ok tags)) ::ₘ f) ret pan := by
  refine Exec.Keeps.bind (Exec.Keeps.guarded ?_)
  refine Exec.Keeps.bind (Exec.Keeps.bind ?_)
  refine hi.now.carries_zero (fun reading => ?_) fun message => ?_
  · refine Exec.Keeps.bind (Exec.carries_note_aside rfl ?_)
    refine Exec.Keeps.bind (Exec.Keeps.bind (Exec.carries_note_aside rfl ?_))
    refine Exec.Keeps.bind (Exec.carries_note (.submitted tags) rfl ?_)
    refine Exec.Keeps.bind ((hi.record _ _ _).carries_zero (fun answer => ?_) fun message => ?_)
    · refine Exec.Keeps.bind (Exec.carries_note (.answered answer) rfl ?_)
      cases answer with
      | ok _ => exact h _ _ fun metric n => .recorded metric n _
      | error reason => exact h _ _ fun metric _ => .refused reason metric
    · exact h _ _ fun metric _ => .unanswered metric
  · exact h _ _ fun metric _ => .unread tags metric

/-- An attempt to record an exchange takes it from the beginning of its recording to where it can be
reported on, however it goes. -/
theorem attempt_carries {reply : Reply} {ret : Report → Ledger → Prop}
    (hi : Instrumentation.Transfers kept i)
    (h : ∀ report s, s.Next o.exchange (.reported o.exchange report) .reported →
      ret report ((o.exchange, s) ::ₘ f)) :
    (o.attempt i reply).Carries kept ((o.exchange, .recording) ::ₘ f) ret pan := by
  refine Exec.Keeps.bind (tags_carries hi fun tags => ?_)
  refine Exec.Keeps.bind (Exec.carries_note (.tagged tags) rfl ?_)
  cases tags with
  | error reason => exact h _ _ (.untagged reason i.timer.name)
  | ok tags =>
      refine Exec.Keeps.bind (submit_carries hi fun r s hs => ?_)
      cases r with
      | error reason => exact h _ _ (hs i.timer.name 0)
      | ok elapsed => exact h _ _ (hs i.timer.name tags.size)

/-- A recording goes through all its stages and never panics. -/
theorem record_carries {how : Departure} {reply : Reply} {ret : Unit → Ledger → Prop}
    (hi : Instrumentation.Transfers kept i) (h : ret () ((o.exchange, .reported) ::ₘ f)) :
    (o.record i reply).Carries kept ((o.exchange, .settled how) ::ₘ f) ret pan := by
  refine Exec.Keeps.bind (Exec.carries_note (.recording how reply) rfl ?_)
  refine Exec.Keeps.bind (attempt_carries hi fun report s hs => ?_)
  exact Exec.carries_note hs rfl h

/-- An exchange that has a result can end once it was recorded, or once its error could not be
asked for its text. -/
theorem complete_carries {result : Result} {ret : Unit → Ledger → Prop}
    (hi : Instrumentation.Transfers kept i)
    (h : ∀ s, s.CanEnd o.exchange → ret () ((o.exchange, s) ::ₘ f))
    (hpan : ∀ s, s.CanEnd o.exchange → pan ((o.exchange, s) ::ₘ f)) :
    (o.complete i result).Carries kept ((o.exchange, .underway) ::ₘ f) ret pan := by
  refine Exec.Keeps.bind (Exec.carries_note (.settled _) rfl ?_)
  have hrecorded := h .reported ⟨_, .ended⟩
  rcases result with failure | response
  · have hmute (hf : failure.IsMute) :
        pan ((o.exchange, .settled (.result (.error failure))) ::ₘ f) := hpan _ ⟨_, .lost hf⟩
    refine Exec.Keeps.bind (Exec.Keeps.bind ?_)
    cases hd : failure.display with
    | text s => exact record_carries hi hrecorded
    | fails => exact hmute fun s hs => by rw [hd] at hs; cases hs
    | panics message => exact hmute fun s hs => by rw [hd] at hs; cases hs
  · exact record_carries hi hrecorded

/-- An exchange that was dropped is recorded, and can end then. -/
theorem forsake_carries {how : Departure} {ret : Unit → Ledger → Prop}
    (hi : Instrumentation.Transfers kept i)
    (h : ∀ s, s.CanEnd o.exchange → ret () ((o.exchange, s) ::ₘ f)) :
    (o.forsake i how).Carries kept ((o.exchange, .underway) ::ₘ f) ret pan := by
  refine Exec.Keeps.bind (Exec.carries_note (.settled how) rfl ?_)
  refine Exec.Keeps.bind (Exec.carries_context fun c => ?_)
  exact record_carries hi (h .reported ⟨_, .ended⟩)

/-- An exchange that can end is over after its last part. -/
theorem lastly_carries {m : Exec σ α} {hand : Ledger} {ret : α → Ledger → Prop}
    (h : m.Carries kept hand
      (fun a l => ∃ s f, l = (o.exchange, s) ::ₘ f ∧ s.CanEnd o.exchange ∧ ret a f)
      fun l => ∃ s f, l = (o.exchange, s) ::ₘ f ∧ s.CanEnd o.exchange ∧ pan f) :
    (o.lastly m).Carries kept hand ret pan := by
  refine Exec.Keeps.andThen (h.mono ?_ ?_)
  · rintro a _ ⟨s, f, rfl, ⟨s', hn⟩, hret⟩
    exact Exec.carries_note_ended hn (hn.eq_ended_iff.mp rfl) hret
  · rintro _ ⟨s, f, rfl, ⟨s', hn⟩, hpan⟩
    exact Exec.carries_note_ended hn (hn.eq_ended_iff.mp rfl) hpan

end Observation

/-! ### The operations -/

/-- Opening and closing scopes does nothing to exchanges. -/
theorem Route.inScope_carries {m : Exec σ α} {ret : α → Ledger → Prop}
    (h : m.Carries kept f ret pan) : (Route.inScope m).Carries kept f ret pan := by
  refine Exec.Keeps.bind (Exec.carries_onThread (fun _ => rfl) fun _ => ?_)
  refine Exec.Keeps.andThen (h.mono (fun a l hl => ?_) fun l hl => ?_)
  · exact Exec.carries_onThread (fun _ => rfl) fun _ => hl
  · exact Exec.carries_onThread (fun _ => rfl) fun _ => hl

/-- Who may still end an exchange and has nothing else in hand. -/
theorem Ledger.canEnd_cons {x : ExchangeId} {s : Stage} (hs : s.CanEnd x) (l : Ledger) :
    ∃ s' f, (x, s) ::ₘ l = (x, s') ::ₘ f ∧ s'.CanEnd x ∧ f = l :=
  ⟨s, l, rfl, hs, rfl⟩

/-- An exchange that is intercepted begins and ends within the interception. -/
theorem Instrumentation.intercept_transfers {request : Request}
    {delegate : Request → Exec σ Result} (hi : Instrumentation.Transfers kept i)
    (hd : ∀ request, Exec.Transfers kept 0 (delegate request) fun _ => 0) :
    Exec.Transfers kept 0 (i.intercept request delegate) fun _ => 0 := by
  refine Route.inScope_carries (Exec.Keeps.bind (i.start_carries hi (fun o request => ?_) rfl))
  refine Observation.lastly_carries ?_
  refine Exec.Keeps.bind (Exec.carries_note .dispatched rfl ?_)
  refine Exec.Keeps.bind (Exec.Keeps.onPanic ((hd request).carries_zero (fun result => ?_) ?_))
  · refine Exec.Keeps.bind (o.complete_carries hi (fun s hs => ?_) fun s hs => ?_)
    · exact Ledger.canEnd_cons hs 0
    · exact Ledger.canEnd_cons hs 0
  · exact o.forsake_carries hi fun s hs => Ledger.canEnd_cons hs 0

section

variable {φ : Type} {owned : φ → Multiset Observation}

/-- The exchange of a future is underway, and so are those of the future inside it. -/
theorem Flight.resting_owned (flight : Flight φ) :
    Ledger.resting (flight.owned owned) =
      Ledger.resting (owned flight.inner) + (flight.observation.exchange, .underway) ::ₘ 0 := by
  rw [Flight.owned, Ledger.resting_cons, Multiset.add_cons, Multiset.add_zero]

/-- A call to a measured service leaves the exchange underway in the future. -/
theorem Instrumentation.call_transfers {request : Request} {inner : Request → Exec σ φ}
    (hi : Instrumentation.Transfers kept i)
    (hinner : ∀ request, Exec.Transfers kept 0 (inner request) owned) :
    Exec.Transfers kept 0 (i.call inner request) (Flight.owned owned) := by
  refine Route.inScope_carries (Exec.Keeps.bind (i.start_carries hi (fun o request => ?_) rfl))
  refine Exec.Keeps.bind (Exec.carries_note .dispatched rfl ?_)
  have hcall : (inner request).Carries kept (Ledger.resting 0 + (o.exchange, .underway) ::ₘ 0)
      (fun future l => l = .resting (Flight.owned owned ⟨o, future⟩)) fun l =>
        (o.lastly (o.forsake i .panicked)).Carries kept l (fun _ l => l = 0) fun l => l = 0 := by
    refine (hinner request).carries (fun future => ?_) ?_
    · exact (Flight.resting_owned ⟨o, future⟩).symm
    · exact o.lastly_carries (o.forsake_carries hi fun s hs => Ledger.canEnd_cons hs 0)
  rw [Ledger.resting_zero, Multiset.zero_add] at hcall
  exact Exec.Keeps.bind (Exec.Keeps.onPanic hcall)

variable {futures : Futures σ φ} {flight : Flight φ}

/-- Polling leaves the exchange underway or brings it to its end. The future inside has its own
exchanges in hand, and this one stays out of its reach. -/
theorem Flight.poll_transfers (hi : Instrumentation.Transfers kept i)
    (hpoll : Exec.Transfers kept (owned flight.inner) (futures.poll flight.inner)
      (Poll.owned owned)) :
    Exec.Transfers kept (flight.owned owned) (flight.poll i futures)
      (Poll.owned (Flight.owned owned)) := by
  let o := flight.observation
  rw [Exec.Transfers, Flight.resting_owned]
  refine Exec.Keeps.bind (Exec.Keeps.onPanic (hpoll.carries (fun result => ?_) ?_))
  · cases result with
    | pending future =>
        exact (Flight.resting_owned ⟨o, future⟩).symm
    | done result =>
        change Exec.Carries kept _ (Ledger.resting 0 + _) _ _
        rw [Ledger.resting_zero, Multiset.zero_add]
        refine o.lastly_carries (Exec.Keeps.bind (o.complete_carries hi ?_ ?_))
        · exact fun s hs => Ledger.canEnd_cons hs 0
        · exact fun s hs => Ledger.canEnd_cons hs 0
  · refine o.lastly_carries (o.forsake_carries hi fun s hs => ?_)
    exact Ledger.canEnd_cons hs 0

/-- Dropping a future brings the exchange to its end. -/
theorem Flight.drop_transfers (hi : Instrumentation.Transfers kept i)
    (hdrop : Exec.Transfers kept (owned flight.inner) (futures.drop flight.inner) fun _ => 0) :
    Exec.Transfers kept (flight.owned owned) (flight.drop i futures) fun _ => 0 := by
  let o := flight.observation
  rw [Exec.Transfers, Flight.resting_owned]
  refine o.lastly_carries ?_
  refine Exec.Keeps.bind (Exec.Keeps.onPanic (hdrop.carries (fun _ => ?_) ?_))
  · rw [Ledger.resting_zero, Multiset.zero_add]
    exact o.forsake_carries hi fun s hs => Ledger.canEnd_cons hs 0
  · exact o.forsake_carries hi fun s hs => Ledger.canEnd_cons hs 0

end

end

/-! ### Programs -/

/-- Every program transfers the observations it owns. -/
theorem Program.transfers {own : Multiset Observation} {m : Exec σ α}
    {gives : α → Multiset Observation} (h : Program kept own m gives) :
    Exec.Transfers kept own m gives := by
  induction h with
  | pure a gives => exact Exec.keeps_pure rfl
  | panic message gives => exact Exec.keeps_panic rfl
  | bind _ _ ihm ihf =>
      refine Exec.Keeps.bind (ihm.mono (fun a l hl => ?_) fun l hl => hl)
      rw [hl]
      exact ihf a
  | @guarded α own m gives _ held ihm =>
      rw [Exec.Transfers, Ledger.resting_add]
      refine Exec.Keeps.guarded (ihm.carries (fun a => ?_) fun message => ?_)
      · rw [Ledger.resting_add, Ending.owned]
      · rw [Ledger.resting_add, Ending.owned, Ledger.resting_zero, Multiset.zero_add]
  | onPanic _ _ ihm ihc =>
      rw [Exec.Transfers, Ledger.resting_add]
      refine Exec.Keeps.onPanic (ihm.carries (fun a => ?_) ?_)
      · rw [Ledger.resting_add]
      · exact ihc
  | context own => exact Exec.carries_context fun _ => rfl
  | access f hf => exact Exec.carries_access hf fun _ => rfl
  | propagated own => exact Exec.carries_propagated fun _ => rfl
  | setPropagated own headers => exact Exec.carries_setPropagated rfl
  | @aside own event he =>
      refine Exec.carries_note_aside ?_ rfl
      cases event <;> first | rfl | exact he.elim
  | depth own => exact Exec.Keeps.bind (Exec.carries_thread fun _ => rfl)
  | clear own => exact Exec.carries_onThread (fun _ => rfl) fun _ => rfl
  | expand _ ihh =>
      refine Exec.Keeps.bind (Exec.carries_onThread (fun _ => rfl) fun token => ?_)
      refine Exec.Keeps.bind (ihh.carries_zero (fun result => ?_) rfl)
      cases result with
      | ok uri => exact Exec.Keeps.bind (Exec.carries_onThread (fun _ => rfl) fun _ => rfl)
      | error reason => exact Exec.Keeps.bind (Exec.carries_onThread (fun _ => rfl) fun _ => rfl)
  | intercept request _ _ _ _ hnow hrecord hprovider hd =>
      exact Instrumentation.intercept_transfers ⟨hnow, hrecord, hprovider⟩ hd
  | call request owned _ _ _ _ hnow hrecord hprovider hinner =>
      exact Instrumentation.call_transfers ⟨hnow, hrecord, hprovider⟩ hinner
  | poll flight owned _ _ _ _ hnow hrecord hprovider hpoll =>
      exact Flight.poll_transfers ⟨hnow, hrecord, hprovider⟩ hpoll
  | drop flight owned _ _ _ _ hnow hrecord hprovider hdrop =>
      exact Flight.drop_transfers ⟨hnow, hrecord, hprovider⟩ hdrop

end ExchangeMetrics
