import ExchangeMetrics.Proofs.Transparency
import Mathlib.Data.List.Induction

/-!
# The request handed on and the view of it

The headers that the global propagator offers go into the view of the request first, and what
was set there is put into the request afterwards. The two end up with the same headers: every
name that was offered well formed has the value last offered, and all other names keep what they
had. Nothing else about the request changes, and offers that are not well formed do nothing but
write into the journal.

Unless the clock panics, the exchange then begins: the delegate is asked to carry out that request,
and the tags provider sees that view.

## Main results

* `RequestView.offer_eq`: what offering headers to a view does.
* `Headers.extend_taking`: putting into a request what was set in the view of it.
* `run_propagate`: what asking the propagator does.
* `Instrumentation.run_start`: how an exchange begins.
* `Instrumentation.hands_on`: the request handed on, the view of it, and that nobody gets to see
  any other.
-/

namespace ExchangeMetrics

/-! ### Offers -/

/-- A header that was offered, if its name and its value are well formed. -/
def offered? (s : String × String) : Option (HeaderName × HeaderValue) := do
  let n ← HeaderName.ofText? s.1
  let v ← HeaderValue.ofText? s.2
  pure (n, v)

/-- The value that was last offered for a name, of all the offers that are well formed. -/
def lastOffered (n : HeaderName) (offers : List (String × String)) : Option HeaderValue :=
  (((offers.filterMap offered?).filter (·.1 = n)).getLast?).map (·.2)

/-- Why an offer is skipped, if it is. -/
def whySkipped (s : String × String) : Option (String × MetricsError) :=
  match HeaderName.ofText? s.1, HeaderValue.ofText? s.2 with
  | none, _ => some (s.1, .invalidHeaderName)
  | some _, none => some (s.1, .invalidHeaderValue)
  | some _, some _ => none

/-- The headers after all offers that are well formed were set in them. -/
def Headers.taking (h : Headers) (offers : List (String × String)) : Headers :=
  (offers.filterMap offered?).foldl (fun h s => h.set s.1 s.2) h

/-- The request with what is offered set in its headers. -/
def Request.taking (r : Request) (offers : List (String × String)) : Request :=
  { r with headers := r.headers.taking offers }

namespace Headers

/-- The first offer is set before all others, if it is well formed. -/
theorem taking_cons (h : Headers) (s : String × String) (offers : List (String × String)) :
    h.taking (s :: offers) =
      ((offered? s).elim h fun p => h.set p.1 p.2).taking offers := by
  rw [taking, List.filterMap_cons]
  cases offered? s <;> rfl

/-- Taking over no headers changes nothing. -/
theorem extend_empty (h : Headers) : h.extend {} = h := by
  obtain ⟨entries⟩ := h
  simp [extend, contains]

/-- The names after one was set are that name and those before. -/
theorem contains_set (h : Headers) (n m : HeaderName) (v : HeaderValue) :
    (h.set n v).contains m = (decide (n = m) || h.contains m) := by
  by_cases hn : n = m
  · subst hn
    simp [contains, set, append]
  · have hne : (h.erase n).contains m = h.contains m := by
      rw [Bool.eq_iff_iff]
      simp only [contains, erase, List.any_eq_true, List.mem_filter, decide_eq_true_eq]
      constructor
      · rintro ⟨e, ⟨he, -⟩, rfl⟩
        exact ⟨e, he, rfl⟩
      · rintro ⟨e, he, rfl⟩
        exact ⟨e, ⟨he, Ne.symm hn⟩, rfl⟩
    rw [decide_eq_false hn, Bool.false_or, ← hne]
    simp [contains, set, append, hn]

/-- Setting a header in what is taken over, or in what takes it over. -/
theorem extend_set (h other : Headers) (n : HeaderName) (v : HeaderValue) :
    h.extend (other.set n v) = (h.extend other).set n v := by
  have hkeep : (h.entries.filter fun e => !(other.set n v).contains e.1) =
      (h.entries.filter fun e => !other.contains e.1).filter (·.1 ≠ n) := by
    rw [List.filter_filter]
    refine List.filter_congr fun e _ => ?_
    rw [contains_set]
    by_cases he : n = e.1
    · simp [he]
    · simp [he, Ne.symm he]
  rw [extend, hkeep]
  simp [extend, set, erase, append]

/-- Taking over what was set in no headers is the same as setting it. -/
theorem extend_taking (h other : Headers) (offers : List (String × String)) :
    h.extend (other.taking offers) = (h.extend other).taking offers := by
  induction offers generalizing other with
  | nil => rfl
  | cons s offers ih =>
      rw [taking_cons, taking_cons, ih]
      cases offered? s with
      | none => rfl
      | some p => rw [Option.elim_some, Option.elim_some, extend_set]

/-- A name that was offered has the value last offered, and any other name what it had. -/
theorem values_taking (h : Headers) (offers : List (String × String)) (n : HeaderName) :
    (h.taking offers).values n = (lastOffered n offers).elim (h.values n) fun v => [v] := by
  rw [taking, lastOffered]
  induction offers.filterMap offered? using List.reverseRecOn with
  | nil => rfl
  | append_singleton sets s ih =>
      rw [List.foldl_append, List.foldl_cons, List.foldl_nil, values_set, List.filter_append]
      by_cases hs : s.1 = n
      · simp [hs]
      · rw [if_neg hs, ih]
        simp [hs]

end Headers

/-! ### Asking the propagator -/

/-- The world after the offers that are skipped were noted, one event for each of them. -/
def World.noteSkipped {σ : Type} (w : World σ) (t : ThreadId) (offers : List (String × String)) :
    World σ :=
  (offers.filterMap whySkipped).foldl (fun w s => w.note t (.headerSkipped s.1 s.2)) w

/-- What offering headers to a view does. -/
theorem RequestView.offer_eq (v : RequestView) (offers : List (String × String)) :
    v.offer offers =
      ({ v with headers := v.headers.taking offers, injected := v.injected.taking offers },
        offers.filterMap whySkipped) := by
  induction offers generalizing v with
  | nil => rfl
  | cons s offers ih =>
      obtain ⟨name, value⟩ := s
      rw [offer, Headers.taking_cons, Headers.taking_cons, List.filterMap_cons]
      cases hn : HeaderName.ofText? name with
      | none =>
          have hset : v.setHeader name value = .error .invalidHeaderName := by
            simp [setHeader, hn]
          simp [hset, ih, offered?, whySkipped, hn]
      | some n =>
          cases hx : HeaderValue.ofText? value with
          | none =>
              have hset : v.setHeader name value = .error .invalidHeaderValue := by
                simp [setHeader, hn, hx]
              simp [hset, ih, offered?, whySkipped, hn, hx]
          | some x => simp [setHeader_ok hn hx, ih, offered?, whySkipped, hn, hx]

section

variable {σ : Type}

/-- Noting what was skipped writes one event for each offer, in their order. -/
theorem run_forM_note (skipped : List (String × MetricsError)) (c : Context) (w : World σ) :
    (skipped.forM fun s => (Exec.note (.headerSkipped s.1 s.2) : Exec σ Unit)).run c w =
      (.returned (), skipped.foldl (fun w s => w.note c.thread (.headerSkipped s.1 s.2)) w) := by
  induction skipped generalizing w with
  | nil => rfl
  | cons s skipped ih => exact ih (w.note c.thread (.headerSkipped s.1 s.2))

/-- Asking the propagator sets in the view and in the request what is offered. -/
theorem run_propagate {v : RequestView} {request : Request} (hv : v.headers = request.headers)
    (hi : v.injected = {}) (c : Context) (w : World σ) :
    (propagate v request).run c w =
      (.returned ({ v with headers := (request.taking w.propagated).headers },
        request.taking w.propagated), w.noteSkipped c.thread w.propagated) := by
  have hinject : (inject v).run c w =
      (.returned (v.offer w.propagated).1, w.noteSkipped c.thread w.propagated) := by
    have hoffer := Exec.run_bind_returned (f := fun _ => pure (v.offer w.propagated).1)
      (run_forM_note (v.offer w.propagated).2 c w)
    have hskipped : (v.offer w.propagated).2 = w.propagated.filterMap whySkipped :=
      congrArg Prod.snd (v.offer_eq w.propagated)
    rw [World.noteSkipped, ← hskipped]
    exact hoffer
  rw [propagate, Exec.run_bind_returned hinject, Exec.run_pure, RequestView.offer_eq]
  simp only [RequestView.withoutInjected, Request.taking, hi, hv, Headers.extend_taking,
    Headers.extend_empty]

/-! ### Beginning an exchange -/

/-- Ask the global propagator for its headers, if headers are propagated at all. -/
def Instrumentation.offers (i : LiveInstrumentation σ) : Exec σ (List (String × String)) :=
  if i.propagates then Exec.propagated else pure []

/-- Beginning an exchange claims its route, asks the propagator if headers are propagated, reads
the clock and numbers the exchange, in this order. -/
theorem Instrumentation.start_eq (i : LiveInstrumentation σ) (request : Request) :
    i.start request = (do
      let captured ← Route.claim request.uri
      let offers ← i.offers
      (offers.filterMap whySkipped).forM fun s => Exec.note (.headerSkipped s.1 s.2)
      let begun ← i.registry.read
      let view := (RequestView.ofRequest (request.taking offers)).withRoute
        (request.route <|> captured)
      let exchange ← Exec.newExchange view
      pure (⟨exchange, view, ⟨begun⟩⟩, request.taking offers)) := by
  rw [start, Route.resolve, offers]
  cases i.propagates with
  | true =>
      simp only [propagate, inject, Sample.start, if_true, bind_assoc, pure_bind,
        RequestView.offer_eq, RequestView.withoutInjected, RequestView.withRoute,
        RequestView.ofRequest, Request.taking, Headers.extend_taking, Headers.extend_empty]
  | false =>
      simp only [Sample.start, bind_assoc, pure_bind, Bool.false_eq_true, if_false]
      rfl

/-- A view shows a request: its method, its URI and its headers. -/
structure RequestView.Shows (v : RequestView) (r : Request) : Prop where
  /-- The method. -/
  method : v.method = r.method
  /-- The URI. -/
  uri : v.uri = r.uri
  /-- The headers, in their order. -/
  headers : v.headers = r.headers

/-- The request that is handed on. -/
def Instrumentation.handedOn (i : LiveInstrumentation σ) (request : Request)
    (offers : List (String × String)) : Request :=
  if i.propagates then request.taking offers else request

/-- Only the headers of a request change before it is handed on. -/
theorem Instrumentation.handedOn_eq (i : LiveInstrumentation σ) (request : Request)
    (offers : List (String × String)) :
    i.handedOn request offers =
      { request with headers := (i.handedOn request offers).headers } := by
  rw [handedOn]
  split <;> rfl

/-- The headers that are offered to the requests of exchanges. -/
def Instrumentation.offered (i : LiveInstrumentation σ) (w : World σ) : List (String × String) :=
  if i.propagates then w.propagated else []

/-- The world in which the clock is read first: the route was claimed, and offers that are not well
formed were noted. -/
def Instrumentation.prepared (i : LiveInstrumentation σ) (request : Request) (c : Context)
    (w : World σ) : World σ :=
  ((Route.claim request.uri).run c w).2.noteSkipped c.thread (i.offered w)

/-- How an exchange begins, and in which world it goes on, from the world in which its scope is
open: the clock is read once, between what is done to the request and everything that comes
after. -/
inductive Begun (i : LiveInstrumentation σ) (request : Request) (c : Context) (w : World σ) :
    Ending (Observation × Request) → World σ → Prop where
  /-- The clock panicked. -/
  | clockPanicked {message : String} {w₁ : World σ}
      (hn : i.registry.now.run c (i.prepared request c w) = (.panicked message, w₁)) :
      Begun i request c w (.panicked message) w₁
  /-- The exchange has a number and a sample, and its request is ready to be handed on. -/
  | begun {reading : Instant} {view : RequestView} {w₁ : World σ}
      (hn : i.registry.now.run c (i.prepared request c w) = (.returned reading, w₁))
      (hv : view.Shows (i.handedOn request w.propagated)) :
      Begun i request c w
        (.returned (⟨w₁.exchanges, view, ⟨reading⟩⟩, i.handedOn request w.propagated))
        ((Exec.newExchange view).run c (w₁.note c.thread (.clockRead reading))).2

namespace Instrumentation

/-- What is offered to a request depends on nothing but the propagator, which is only asked. -/
theorem run_offers (i : LiveInstrumentation σ) (c : Context) (w : World σ) :
    i.offers.run c w = (.returned (i.offered w), w) := by
  rw [offers, offered]
  split <;> rfl

/-- The request is handed on with what is offered to it. -/
theorem taking_offered (i : LiveInstrumentation σ) (request : Request) (w : World σ) :
    request.taking (i.offered w) = i.handedOn request w.propagated := by
  rw [offered, handedOn]
  split <;> rfl

/-- Beginning an exchange comes to its end unless the clock panics. -/
theorem run_start (i : LiveInstrumentation σ) (request : Request) (c : Context) (w : World σ) :
    ∃ e w', (i.start request).run c w = (e, w') ∧ Begun i request c w e w' := by
  obtain ⟨captured, hclaim⟩ : ∃ captured, (Route.claim request.uri).run c w =
      (.returned captured, ((Route.claim request.uri).run c w).2) := ⟨_, rfl⟩
  have hoffered : i.offered ((Route.claim request.uri).run c w).2 = i.offered w := rfl
  have hskipped := run_forM_note ((i.offered w).filterMap whySkipped) c
    ((Route.claim request.uri).run c w).2
  rw [start_eq, Exec.run_bind_returned hclaim, Exec.run_bind_returned (i.run_offers c _), hoffered,
    Exec.run_bind_returned hskipped, taking_offered, ← World.noteSkipped]
  rcases hn : i.registry.now.run c (i.prepared request c w) with ⟨reading | message, w₁⟩
  · have hread : i.registry.read.run c (i.prepared request c w) =
        (.returned reading, w₁.note c.thread (.clockRead reading)) := Exec.run_bind_returned hn
    exact ⟨_, _, Exec.run_bind_returned hread, .begun hn ⟨rfl, rfl, rfl⟩⟩
  · have hread : i.registry.read.run c (i.prepared request c w) = (.panicked message, w₁) :=
      Exec.run_bind_panicked hn
    exact ⟨_, _, Exec.run_bind_panicked hread, .clockPanicked hn⟩

end Instrumentation

variable {i : LiveInstrumentation σ} {request : Request} {c : Context} {w : World σ}

/-- What is seen of an exchange that has begun is what is handed on. -/
theorem Instrumentation.shows_of_start {o : Observation} {r : Request} {w' : World σ}
    (h : (i.start request).run c w = (.returned (o, r), w')) :
    r = i.handedOn request w.propagated ∧ o.request.Shows r := by
  obtain ⟨e, w₁, hstart, hbegun⟩ := i.run_start request c w
  obtain ⟨rfl, -⟩ := Prod.mk.inj (hstart.symm.trans h)
  cases hbegun with
  | begun hn hv => exact ⟨rfl, hv⟩

/-- The scope of an exchange changes nothing about what is offered to it. -/
theorem Instrumentation.shows_of_exchange {o : Observation} {r : Request} {w' : World σ}
    (h : (i.start request).run c (Route.openScope.run c w).2 = (.returned (o, r), w')) :
    r = i.handedOn request w.propagated ∧ o.request.Shows r := by
  have hscope : (Route.openScope.run c w).2.propagated = w.propagated := rfl
  rw [← hscope]
  exact i.shows_of_start h

/-! ### Who gets to see what -/

variable {o : Observation} {provider : TagsProvider σ}

/-- A recording asks the tags provider for nothing but the view. -/
theorem Observation.record_congr (h : provider o.request = i.provider o.request) :
    o.record { i with provider := provider } = o.record i := by
  funext reply
  have htags : o.tags { i with provider := provider } reply = o.tags i reply := by
    simp only [tags, h]
  rw [record, record, attempt, attempt, htags]
  rfl

/-- Concluding an exchange that has a result asks the tags provider for nothing but the view. -/
theorem Observation.complete_congr (h : provider o.request = i.provider o.request) :
    o.complete { i with provider := provider } = o.complete i := by
  funext result
  rw [complete, complete]
  rcases result with failure | response
  · rw [stop, stop, record_congr h]
  · rw [stop, stop, record_congr h]

/-- So does concluding one that has none. -/
theorem Observation.forsake_congr (h : provider o.request = i.provider o.request) :
    o.forsake { i with provider := provider } = o.forsake i := by
  funext how
  rw [forsake, forsake, abandon, abandon, record_congr h]

/-- What runs in a scope begins with the scope open. -/
theorem Route.run_inScope_congr {α : Type} {m m' : Exec σ α}
    (h : m.run c (Route.openScope.run c w).2 = m'.run c (Route.openScope.run c w).2) :
    (Route.inScope m).run c w = (Route.inScope m').run c w := by
  rw [inScope, inScope]
  refine Exec.run_bind_congr fun _ w' hw' => ?_
  rw [hw'] at h
  rw [Exec.run_andThen, Exec.run_andThen, h]

/-- What returns in a scope returned after the scope was opened. -/
theorem Route.run_inScope_returned {α : Type} {m : Exec σ α} {a : α} {w' : World σ}
    (h : (Route.inScope m).run c w = (.returned a, w')) :
    ∃ w₁, m.run c (Route.openScope.run c w).2 = (.returned a, w₁) := by
  obtain ⟨_, w₀, hopen, h⟩ := Exec.run_bind_eq_returned.mp h
  rw [hopen]
  obtain ⟨e, w₁, hm, h⟩ := Exec.run_bind_eq_returned.mp h
  rw [Exec.run_guarded] at hm
  obtain ⟨he, rfl⟩ := Prod.mk.inj hm
  obtain ⟨_, w₂, -, h⟩ := Exec.run_bind_eq_returned.mp h
  obtain ⟨rfl, -⟩ := Prod.mk.inj h
  exact ⟨(m.run c w₀).2, Prod.ext (Ending.returned.inj he) rfl⟩

/-- An interceptor depends on the delegate at the request that is handed on, and on the tags provider
at the views that show it. -/
theorem Instrumentation.intercept_congr {delegate delegate' : Request → Exec σ Result}
    (hprovider : ∀ v : RequestView, v.Shows (i.handedOn request w.propagated) →
      provider v = i.provider v)
    (hdelegate : delegate' (i.handedOn request w.propagated) =
      delegate (i.handedOn request w.propagated)) :
    (Instrumentation.intercept { i with provider := provider } request delegate').run c w =
      (i.intercept request delegate).run c w := by
  refine Route.run_inScope_congr (Exec.run_bind_congr ?_)
  rintro ⟨o, r⟩ w' hstart
  obtain ⟨rfl, hshows⟩ := i.shows_of_exchange hstart
  have ho := hprovider o.request hshows
  simp only [hdelegate, o.complete_congr ho, o.forsake_congr ho]

/-- So does a measured service when it is called. -/
theorem Instrumentation.call_congr {φ : Type} {inner inner' : Request → Exec σ φ}
    (hprovider : ∀ v : RequestView, v.Shows (i.handedOn request w.propagated) →
      provider v = i.provider v)
    (hinner : inner' (i.handedOn request w.propagated) =
      inner (i.handedOn request w.propagated)) :
    (Instrumentation.call { i with provider := provider } inner' request).run c w =
      (i.call inner request).run c w := by
  refine Route.run_inScope_congr (Exec.run_bind_congr ?_)
  rintro ⟨o, r⟩ w' hstart
  obtain ⟨rfl, hshows⟩ := i.shows_of_exchange hstart
  have ho := hprovider o.request hshows
  simp only [hinner, o.forsake_congr ho]

/-- The exchange of a future began when the service was called. -/
theorem Instrumentation.start_of_call {φ : Type} {inner : Request → Exec σ φ} {flight : Flight φ}
    {w' : World σ} (h : (i.call inner request).run c w = (.returned flight, w')) :
    ∃ r w₁, (i.start request).run c (Route.openScope.run c w).2 =
      (.returned (flight.observation, r), w₁) := by
  obtain ⟨w₁, h⟩ := Route.run_inScope_returned h
  obtain ⟨⟨o, r⟩, w₂, hstart, h⟩ := Exec.run_bind_eq_returned.mp h
  obtain ⟨_, w₃, -, h⟩ := Exec.run_bind_eq_returned.mp h
  obtain ⟨future, w₄, -, h⟩ := Exec.run_bind_eq_returned.mp h
  obtain ⟨hflight, -⟩ := Prod.mk.inj h
  obtain rfl := Ending.returned.inj hflight
  exact ⟨r, w₂, hstart⟩

/-- The exchange of a future is seen as it was handed on. -/
theorem Instrumentation.shows_of_call {φ : Type} {inner : Request → Exec σ φ} {flight : Flight φ}
    {w' : World σ} (h : (i.call inner request).run c w = (.returned flight, w')) :
    flight.observation.request.Shows (i.handedOn request w.propagated) := by
  obtain ⟨r, w₁, hstart⟩ := i.start_of_call h
  obtain ⟨rfl, hshows⟩ := i.shows_of_exchange hstart
  exact hshows

/-- What is guaranteed about the request `r` that an exchange of `request` hands on. -/
structure HandsOn (i : LiveInstrumentation σ) (request : Request) (c : Context) (w : World σ)
    (r : Request) : Prop where
  /-- It is the caller's request but for the headers. -/
  rest : r = { request with headers := r.headers }
  /-- Without propagation it is the caller's request. -/
  untouched : i.propagates = false → r = request
  /-- With propagation a name that was offered has one value, the last one offered, and any other
  name has the values that it had. -/
  values : i.propagates = true → ∀ n, r.headers.values n =
    (lastOffered n w.propagated).elim (request.headers.values n) fun v => [v]
  /-- An offer that is not well formed changes neither the view nor the request and writes one
  event into the journal; no other offer writes any. -/
  skips : i.propagates = true → ∀ route, ∃ v : RequestView, v.Shows r ∧
    (propagate ((RequestView.ofRequest request).withRoute route) request).run c w =
      (.returned (v, r), w.noteSkipped c.thread w.propagated)
  /-- Unless the clock panics, the exchange begins with this request to be handed on, and what is
  seen of the exchange shows it. -/
  begins : (∃ message w₀ w₁, i.registry.now.run c w₀ = (.panicked message, w₁) ∧
      (i.start request).run c (Route.openScope.run c w).2 = (.panicked message, w₁)) ∨
    ∃ o w₁, (i.start request).run c (Route.openScope.run c w).2 = (.returned (o, r), w₁) ∧
      o.request.Shows r
  /-- When the exchange has begun, an interceptor asks the delegate for this request. -/
  asks : ∀ (delegate : Request → Exec σ Result) (o : Observation) (r' : Request) (w₁ : World σ),
    (i.start request).run c (Route.openScope.run c w).2 = (.returned (o, r'), w₁) →
      let d := (delegate r).run c (w₁.note c.thread (.dispatched o.exchange))
      r' = r ∧ o.request.Shows r ∧ ∃ e w₂, Concluded i o c d.2 d.1 e w₂ ∧
        (i.intercept request delegate).run c w =
          (e, (Route.closeScope.run c (w₂.note c.thread (.ended o.exchange))).2)
  /-- So does a measured service with the service, and gives the future that it gets, or goes on
  with its panic. -/
  calls : ∀ {φ : Type} (inner : Request → Exec σ φ) (o : Observation) (r' : Request) (w₁ : World σ),
    (i.start request).run c (Route.openScope.run c w).2 = (.returned (o, r'), w₁) →
      match (inner r).run c (w₁.note c.thread (.dispatched o.exchange)) with
      | (.returned future, w₂) =>
          (i.call inner request).run c w = (.returned ⟨o, future⟩, (Route.closeScope.run c w₂).2)
      | (.panicked message, w₂) =>
          ∃ w₃, Concluded i o c w₂ (.panicked message) (.panicked message) w₃ ∧
            (i.call inner request).run c w = (.panicked message,
              (Route.closeScope.run c (w₃.note c.thread (.ended o.exchange))).2)
  /-- An interceptor asks the delegate for nothing but this request, and the tags provider for
  nothing but views that show it. -/
  intercepted : ∀ (provider : TagsProvider σ) (delegate delegate' : Request → Exec σ Result),
    (∀ v : RequestView, v.Shows r → provider v = i.provider v) → delegate' r = delegate r →
      (Instrumentation.intercept { i with provider := provider } request delegate').run c w =
        (i.intercept request delegate).run c w
  /-- So does a measured service when it is called. -/
  called : ∀ {φ : Type} (provider : TagsProvider σ) (inner inner' : Request → Exec σ φ),
    (∀ v : RequestView, v.Shows r → provider v = i.provider v) → inner' r = inner r →
      (Instrumentation.call { i with provider := provider } inner' request).run c w =
        (i.call inner request).run c w
  /-- And so do the futures that it gives. -/
  flown : ∀ {φ : Type} (provider : TagsProvider σ) (inner : Request → Exec σ φ)
    (futures : Futures σ φ) (flight : Flight φ) (w' : World σ),
    (∀ v : RequestView, v.Shows r → provider v = i.provider v) →
      (i.call inner request).run c w = (.returned flight, w') → ∀ future,
        let flight' : Flight φ := { flight with inner := future }
        flight'.poll { i with provider := provider } futures = flight'.poll i futures ∧
          flight'.drop { i with provider := provider } futures = flight'.drop i futures

/-- Whatever was offered: the request that an exchange hands on is the caller's request with the
offers set in it, and nobody gets to see another one. -/
theorem Instrumentation.hands_on (i : LiveInstrumentation σ) (request : Request) (c : Context)
    (w : World σ) : HandsOn i request c w (i.handedOn request w.propagated) := by
  refine ⟨i.handedOn_eq request w.propagated, fun hp => ?_, fun hp n => ?_, fun hp route => ?_,
    ?_, ?_, ?_, ?_, ?_, ?_⟩
  · rw [handedOn, hp]
    rfl
  · rw [handedOn, if_pos hp]
    exact request.headers.values_taking w.propagated n
  · rw [handedOn, if_pos hp, run_propagate rfl rfl c w]
    exact ⟨_, ⟨rfl, rfl, rfl⟩, rfl⟩
  · obtain ⟨e, w₁, hstart, hbegun⟩ := i.run_start request c (Route.openScope.run c w).2
    cases hbegun with
    | clockPanicked hn => exact .inl ⟨_, _, w₁, hn, hstart⟩
    | begun hn hv => exact .inr ⟨_, _, hstart, hv⟩
  · intro delegate o r' w₁ hstart
    obtain ⟨rfl, hshows⟩ := i.shows_of_exchange hstart
    exact ⟨rfl, hshows, i.run_intercept delegate hstart rfl⟩
  · intro φ inner o r' w₁ hstart
    obtain ⟨rfl, -⟩ := i.shows_of_exchange hstart
    rcases hinner : (inner (i.handedOn request w.propagated)).run c
      (w₁.note c.thread (.dispatched o.exchange)) with ⟨future | message, w₂⟩
    · exact i.run_call_returned hstart hinner
    · exact i.run_call_panicked hstart hinner
  · exact fun provider delegate delegate' => i.intercept_congr
  · exact fun provider inner inner' => i.call_congr
  · intro φ provider inner futures flight w' hprovider hcall future
    have ho := hprovider flight.observation.request (i.shows_of_call hcall)
    constructor
    · rw [Flight.poll, Flight.poll, Observation.forsake_congr ho, Observation.complete_congr ho]
    · rw [Flight.drop, Flight.drop, Observation.forsake_congr ho]

end

end ExchangeMetrics
