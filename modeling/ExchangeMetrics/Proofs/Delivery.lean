import ExchangeMetrics.Proofs.Reckoning

/-!
# Errands deliver what is due

An errand follows the protocol of errands from its first action to its last: it takes its thread
through the turns that were ahead of it, and when it is over, everything that was due of it has
been delivered. One lemma says so of each operation.

## Main results

* `Errand.follows`: an errand does what `Errand.turns`, `Errand.stand` and `Errand.dues` say.
-/

namespace ExchangeMetrics

open Exec

variable {α : Type} {offers : List (String × String)} {first : TimerStore} {c : Context}
  {g : Gauge} {label : Nat} {b : Thread} {ahead : List Moment} {due : Multiset Due}

/-! ### Recording an exchange -/

namespace Gauge

/-- Reading the clock of a gauge leaves everything as it stands. -/
theorem read_runs {s : Standing} {post : Ending Instant → Standing → Prop}
    (hpost : ∀ reading, post (.returned reading) s) :
    (g.live label).registry.read.Runs offers first c s post := by
  refine Follows.bind (Commons.read_runs fun reading => ?_)
  exact Follows.bind (runs_note rfl (hpost reading))

end Gauge

namespace Observation

variable {o : Observation} {reply : Reply}

/-- Submitting an observation settles the sighting that was due of it. -/
theorem submit_runs {tags : Tags} {post : Ending (Except MetricsError Duration) → Standing → Prop}
    (hpost : ∀ elapsed, post (.returned elapsed) ⟨b, ahead, due⟩) :
    (o.submit (g.live label) tags).Runs offers first c
      ⟨b, ahead, {.sighting label g.timer tags} + due⟩ post := by
  refine Follows.bind (follows_guarded.mpr (Follows.bind (Follows.bind ?_)))
  refine Commons.read_runs fun reading => ?_
  refine Follows.bind (runs_note rfl (Follows.bind (Follows.bind (runs_note rfl ?_))))
  refine Follows.bind (runs_note rfl (Follows.bind (Commons.record_runs ?_)))
  exact Follows.bind (runs_note rfl (hpost _))

/-- If no tags can be derived, nothing is due. -/
theorem tags_runs {s : Standing} {post : Ending (Except MetricsError Tags) → Standing → Prop}
    (hok : ∀ tags, g.sighting label o.request reply = {.sighting label g.timer tags} →
      post (.returned (.ok tags)) s)
    (herror : ∀ reason, g.sighting label o.request reply = 0 →
      post (.returned (.error reason)) s) :
    (o.tags (g.live label) reply).Runs offers first c s post := by
  have hgiven : (g.live label).provider o.request reply = ended (g.provider o.request reply) := rfl
  rw [Observation.tags, hgiven]
  rw [Gauge.sighting] at hok herror
  rcases hprovider : g.provider o.request reply with (reason | tags) | message
  · exact herror reason (by rw [hprovider])
  · exact hok tags (by rw [hprovider])
  · exact herror _ (by rw [hprovider])

/-- An attempt to record an exchange settles what was due of it. -/
theorem attempt_runs {post : Ending Report → Standing → Prop}
    (hpost : ∀ report, post (.returned report) ⟨b, ahead, due⟩) :
    (o.attempt (g.live label) reply).Runs offers first c
      ⟨b, ahead, g.sighting label o.request reply + due⟩ post := by
  refine Follows.bind (tags_runs (fun tags h => ?_) fun reason h => ?_)
  · rw [h]
    refine Follows.bind (runs_note rfl (Follows.bind (submit_runs fun elapsed => ?_)))
    cases elapsed <;> exact hpost _
  · rw [h, zero_add]
    exact Follows.bind (runs_note rfl (hpost _))

/-- A recording delivers what is due of an exchange that came to a reply. -/
theorem record_runs {post : Ending Unit → Standing → Prop}
    (hpost : post (.returned ()) ⟨b, ahead, due⟩) :
    (o.record (g.live label) reply).Runs offers first c
      ⟨b, ahead, g.sighting label o.request reply + due⟩ post := by
  refine Follows.bind (runs_note rfl (Follows.bind (attempt_runs fun report => ?_)))
  exact runs_note rfl hpost

/-- An exchange that has a result delivers what is due of it, whether its error has a text or
not. -/
theorem complete_runs {result : Result} {post : Ending Unit → Standing → Prop}
    (hpost : ∀ e, post e ⟨b, ahead, due⟩) :
    (o.complete (g.live label) result).Runs offers first c
      ⟨b, ahead, g.concluded label o.request (.returned result) + due⟩ post := by
  refine Follows.bind (runs_note rfl ?_)
  rcases result with failure | response
  · refine Follows.bind (Follows.bind ?_)
    rw [Gauge.concluded]
    cases failure.display with
    | text s => exact record_runs (hpost _)
    | fails =>
        rw [zero_add]
        exact hpost _
    | panics message =>
        rw [zero_add]
        exact hpost _
  · exact record_runs (hpost _)

/-- So does one that was dropped. -/
theorem forsake_runs {how : Departure} {post : Ending Unit → Standing → Prop}
    (hpost : post (.returned ()) ⟨b, ahead, due⟩) :
    (o.forsake (g.live label) how).Runs offers first c
      ⟨b, ahead, g.sighting label o.request
        (.failed (if c.unwinding then .delegatePanicked else .cancelled)) + due⟩ post :=
  Follows.bind (runs_note rfl (Follows.bind (runs_context (record_runs hpost))))

/-- The last part of an exchange is followed by a note. -/
theorem lastly_runs {m : Exec Commons α} {s : Standing} {post : Ending α → Standing → Prop}
    (h : m.Runs offers first c s post) : (o.lastly m).Runs offers first c s post :=
  Follows.andThen (h.mono fun _ _ hpost => runs_note rfl hpost)

end Observation

/-! ### Beginning an exchange -/

/-- What belongs to a thread after a request was resolved, in one expression. -/
theorem Thread.claim_eq (b : Thread) (request : Request) :
    (match b.routes.claim request.uri with
      | some (entry, routes) =>
          (some entry.template, { b with routes := routes }, .claimed request.uri (some entry))
      | none => (none, b, .claimed request.uri none) : Option String × Thread × Event) =
      ((b.routes.claim request.uri).map (·.1.template), b.claimed request, b.claiming request) := by
  rw [Thread.claimed, Thread.claiming]
  cases b.routes.claim request.uri <;> rfl

/-- The offers of the propagator are those made at first, if headers are propagated. -/
theorem offers_runs {s : Standing} {post : Ending (List (String × String)) → Standing → Prop}
    (hpost : post (.returned (if g.propagates then offers else [])) s) :
    (g.live label).offers.Runs offers first c s post := by
  have hoffers : (g.live label).offers = if g.propagates then propagated else pure [] := rfl
  rw [hoffers]
  cases hp : g.propagates with
  | true =>
      rw [hp] at hpost
      exact runs_propagated hpost
  | false =>
      rw [hp] at hpost
      exact hpost

/-- Noting what was skipped leaves everything as it stands. -/
theorem skipped_runs {skipped : List (String × MetricsError)} {s : Standing}
    {post : Ending Unit → Standing → Prop} (hpost : post (.returned ()) s) :
    (skipped.forM fun s => (note (.headerSkipped s.1 s.2) : Exec Commons Unit)).Runs offers first
      c s post := by
  induction skipped with
  | nil => exact hpost
  | cons _ _ ih => exact Follows.bind (runs_note rfl ih)

/-- Beginning an exchange claims its route on the thread, and what is seen of the exchange has
this route. -/
theorem start_runs {request : Request} {post : Ending (Observation × Request) → Standing → Prop}
    (hpost : ∀ o r, o.request = g.view offers request (b.routeOf request) →
      post (.returned (o, r)) ⟨b.claimed request, ahead, due⟩) :
    ((g.live label).start request).Runs offers first c
      ⟨b, ⟨c.thread, b.claiming request, b.claimed request⟩ :: ahead, due⟩ post := by
  rw [Instrumentation.start_eq]
  refine Follows.bind (runs_onThread (b.claim_eq request) rfl (Follows.bind ?_))
  refine offers_runs (Follows.bind (skipped_runs (Follows.bind (g.read_runs fun begun => ?_))))
  exact Follows.bind (runs_newExchange fun x => hpost _ _ rfl)

/-! ### The operations -/

/-- An exchange begins in a scope, which is closed when it is over. -/
theorem exchange_runs {request : Request} {go : Observation × Request → Exec Commons α}
    {meanwhile : List Moment} {b' : Thread} {post : Ending α → Standing → Prop}
    (h : ∀ o r, o.request = g.view offers request (b.routeOf request) →
      (go (o, r)).Runs offers first c ⟨(Route.opened b).claimed request,
          meanwhile ++ ⟨c.thread, .scopeClosed, Route.closed b'⟩ :: ahead, due⟩ fun e s =>
        ∃ due', s = ⟨b', ⟨c.thread, .scopeClosed, Route.closed b'⟩ :: ahead, due'⟩ ∧
          post e ⟨Route.closed b', ahead, due'⟩) :
    (Route.inScope ((g.live label).start request >>= go)).Runs offers first c
      ⟨b, b.inExchange c.thread request meanwhile b' ++ ahead, due⟩ post := by
  rw [Thread.inExchange, List.cons_append, List.cons_append, List.append_assoc,
    List.singleton_append]
  refine Follows.bind (runs_onThread rfl rfl (Follows.andThen (Follows.bind ?_)))
  refine start_runs (b := Route.opened b) fun o r ho => (h o r ho).mono ?_
  rintro e _ ⟨due', rfl, hpost⟩
  exact runs_onThread rfl rfl hpost

/-- A computation does its part if it returns, has taken the thread through some turns, and has
delivered something. -/
def Exec.Does (offers : List (String × String)) (first : TimerStore) (c : Context)
    (m : Exec Commons Unit) (b : Thread) (own : List Moment) (delivered : Multiset Due)
    (b' : Thread) : Prop :=
  ∀ ahead due, m.Runs offers first c ⟨b, own ++ ahead, delivered + due⟩ fun e s =>
    e = .returned () ∧ s = ⟨b', ahead, due⟩

section

variable {m m' : Exec Commons Unit} {b' b'' : Thread} {own own' : List Moment}
  {delivered delivered' : Multiset Due} {request : Request}

/-- Doing nothing writes nothing and leaves the thread as it is. -/
theorem does_pure (b : Thread) : (pure () : Exec Commons Unit).Does offers first c b [] 0 b :=
  fun ahead due => ⟨rfl, by rw [List.nil_append, zero_add]⟩

/-- One part after another. -/
theorem Exec.Does.next (hm : m.Does offers first c b own delivered b')
    (hm' : m'.Does offers first c b' own' delivered' b'') :
    (m >>= fun _ => m').Does offers first c b (own ++ own') (delivered + delivered') b'' := by
  intro ahead due
  rw [List.append_assoc, add_assoc]
  refine Follows.bind ((hm (own' ++ ahead) (delivered' + due)).mono ?_)
  rintro e s ⟨rfl, rfl⟩
  exact hm' ahead due

/-- An expansion pushes its template, and binds or discards it unless the wrapped handler
panics. -/
theorem expandTemplate_does (template : String) (outcome : Ending (Except MetricsError Uri))
    (hm : m.Does offers first c (b.pushed template) own delivered b') :
    (Errand.expandTemplate template m outcome).Does offers first c b
      (b.inExpansion c.thread template own b' outcome) delivered
      (b'.expanded b.routes.next outcome) := by
  intro ahead due
  rw [Thread.inExpansion, List.cons_append, List.append_assoc]
  refine Follows.bind (follows_guarded.mpr (Follows.bind (runs_onThread rfl rfl ?_)))
  refine Follows.bind (Follows.bind ((hm _ _).mono ?_))
  rintro _ _ ⟨rfl, rfl⟩
  rcases outcome with (reason | uri) | message
  · exact Follows.bind (runs_onThread rfl rfl ⟨rfl, rfl⟩)
  · exact Follows.bind (runs_onThread rfl rfl ⟨rfl, rfl⟩)
  · exact ⟨rfl, rfl⟩

/-- Clearing the stack writes that it was cleared. -/
theorem clear_does : (Route.clear : Exec Commons Unit).Does offers first c b
    [⟨c.thread, .cleared, { b with routes := b.routes.clear }⟩] 0
    { b with routes := b.routes.clear } := by
  intro ahead due
  rw [zero_add]
  exact runs_onThread rfl rfl ⟨rfl, rfl⟩

/-- An exchange is carried out and recorded, whichever way its delegate ends. -/
theorem intercept_does (label : Nat) (request : Request) (outcome : Ending Result)
    (hm : m.Does offers first c ((Route.opened b).claimed request) own delivered b') :
    (Errand.intercept label g request m outcome).Does offers first c b
      (b.inExchange c.thread request own b')
      (g.concluded label (g.view offers request (b.routeOf request)) outcome + delivered)
      (Route.closed b') := by
  intro ahead due
  rw [add_assoc, add_left_comm]
  refine Follows.bind (follows_guarded.mpr (exchange_runs fun o r ho => ?_))
  rw [← ho]
  refine Observation.lastly_runs (Follows.bind (runs_note rfl (Follows.bind ?_)))
  refine Follows.onPanic (Follows.bind ((hm _ _).mono ?_))
  rintro _ _ ⟨rfl, rfl⟩
  cases outcome with
  | returned result =>
      refine Follows.bind (Observation.complete_runs fun e => ?_)
      cases e <;> exact ⟨due, rfl, rfl, rfl⟩
  | panicked message => exact Observation.forsake_runs ⟨due, rfl, rfl, rfl⟩

/-- A call leaves a future, unless the service panics. -/
theorem callService_does (id : FutureId) (label : Nat) (request : Request) (plan : Ending Plan)
    (hm : m.Does offers first c ((Route.opened b).claimed request) own delivered b') :
    (Errand.callService id label g request m plan).Does offers first c b
      (b.inExchange c.thread request own b')
      (g.called id label (g.view offers request (b.routeOf request)) plan + delivered)
      (Route.closed b') := by
  intro ahead due
  rw [add_assoc, add_left_comm]
  refine Follows.bind (follows_guarded.mpr (exchange_runs fun o r ho => ?_))
  rw [← ho]
  refine Follows.bind (runs_note rfl (Follows.bind ?_))
  refine Follows.onPanic (Follows.bind ((hm _ _).mono ?_))
  rintro _ _ ⟨rfl, rfl⟩
  cases plan with
  | returned plan =>
      have hleave : (Commons.leave ⟨id, label, g, ⟨o, plan⟩⟩).Runs offers first c
          ⟨Route.closed b', ahead, {.creation ⟨id, label, g, o.request, plan⟩} + due⟩ fun e s =>
            e = .returned () ∧ s = ⟨Route.closed b', ahead, due⟩ :=
        Commons.leave_runs (p := ⟨id, label, g, ⟨o, plan⟩⟩) ⟨rfl, rfl⟩
      exact ⟨_, rfl, hleave⟩
  | panicked message =>
      exact Observation.lastly_runs (Observation.forsake_runs ⟨due, rfl, rfl, rfl⟩)

/-- Polling a future puts it back or delivers what is due of it. -/
theorem pollFuture_does (id : FutureId) (b : Thread) :
    (Errand.pollFuture id).Does offers first c b [] 0 b := by
  intro ahead due
  rw [List.nil_append, zero_add]
  refine Follows.bind (Commons.take_runs ⟨rfl, rfl⟩ ?_)
  rintro ⟨id, label, g, o, ⟨n, outcome, sinking⟩⟩
  refine Follows.bind (follows_guarded.mpr (Follows.bind (Follows.onPanic ?_)))
  cases n with
  | zero =>
      cases outcome with
      | returned result =>
          refine Observation.lastly_runs (Follows.bind (Observation.complete_runs fun e => ?_))
          cases e <;> exact ⟨rfl, rfl⟩
      | panicked message =>
          exact Observation.lastly_runs (Observation.forsake_runs ⟨rfl, rfl⟩)
  | succ n =>
      exact Commons.putBack_runs (p := ⟨id, label, g, ⟨o, ⟨n, outcome, sinking⟩⟩⟩) ⟨rfl, rfl⟩

/-- Dropping a future delivers what is due of it. -/
theorem dropFuture_does (id : FutureId) (unwinding : Bool) (b : Thread) :
    (Errand.dropFuture id unwinding).Does offers first c b [] 0 b := by
  intro ahead due
  rw [List.nil_append, zero_add]
  refine Follows.bind (Commons.take_runs ⟨rfl, rfl⟩ ?_)
  rintro ⟨id, label, g, o, plan⟩
  have hdealt : Parked.dealt ⟨id, label, g, ⟨o, plan⟩⟩ (.dropped unwinding) =
      g.sighting label o.request (.failed (plan.fault unwinding)) := by
    rw [Parked.dealt, Course.deal_dropped]
    rfl
  rw [hdealt, Plan.fault]
  refine Follows.bind (follows_guarded.mpr ((follows_within rfl).mpr ?_))
  refine Observation.lastly_runs (Follows.bind (Follows.onPanic ?_))
  change Follows _ _ (Exec.ended plan.sinking) _ _
  cases plan.sinking with
  | returned _ => exact Observation.forsake_runs (c := ⟨c.thread, unwinding⟩) ⟨rfl, rfl⟩
  | panicked message =>
      exact Observation.forsake_runs (c := ⟨c.thread, true⟩) ⟨rfl, rfl⟩

end

/-! ### Errands -/

/-- An errand takes its thread through its turns and delivers what is due of it. -/
theorem Errand.follows (e : Errand) (t : ThreadId) (b : Thread) :
    e.exec.Does offers first { thread := t } b (e.turns t b) (e.dues offers b) (e.stand b) := by
  induction e generalizing b with
  | done => exact does_pure b
  | expand template work outcome next ihwork ihnext =>
      exact (expandTemplate_does template outcome (ihwork _)).next (ihnext _)
  | clear next ih =>
      have h := (clear_does (b := b)).next (ih _)
      rwa [List.singleton_append, zero_add] at h
  | exchange label g request work outcome next ihwork ihnext =>
      exact (intercept_does label request outcome (ihwork _)).next (ihnext _)
  | call id label g request work plan next ihwork ihnext =>
      exact (callService_does id label request plan (ihwork _)).next (ihnext _)
  | poll id next ih =>
      have h := (pollFuture_does id b).next (ih b)
      rwa [List.nil_append, zero_add] at h
  | drop id unwinding next ih =>
      have h := (dropFuture_does id unwinding b).next (ih b)
      rwa [List.nil_append, zero_add] at h

end ExchangeMetrics
