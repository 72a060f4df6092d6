import ExchangeMetrics.Proofs.Nesting
import ExchangeMetrics.Proofs.Summaries
import Mathlib.Algebra.BigOperators.Group.Multiset.Basic

/-!
# Errands

An errand is what a thread has to do, step by step and with all arguments fixed: templates to
expand, exchanges to make through interceptors, services to call, futures to poll and to drop.
Threads that run errands share a registry that keeps its series in memory, a clock, and a place
where the futures of measured services are left by one thread and found by others.

What becomes of an errand can be told in advance. `Errand.turns` tells what happens to the scopes
and the route stack of the thread, `Errand.stand` how the thread stands afterwards, and
`Errand.dues` which observations the registry is due and which futures are due to be left. What
becomes of a future depends on nothing but how often it is polled and whether it is dropped; it
may be another thread that does so.

## Main definitions

* `Errand.exec`: the computation that runs an errand.
* `Errand.turns`, `Errand.stand`, `Errand.dues`: what becomes of it.
* `Voyage.course`, `Voyage.claims`: what becomes of a future.
-/

namespace ExchangeMetrics

/-- A future is known by a number. -/
abbrev FutureId := Nat

/-! ### What is shared -/

/-- What a future does. -/
structure Plan where
  /-- How often it is pending when it is polled. -/
  pending : Nat
  /-- What it gives then, or how it panics. -/
  outcome : Ending Result
  /-- How it ends if it is dropped before. -/
  sinking : Ending Unit := .returned ()

/-- An instrumentation that is shared by all threads, its registry apart. -/
structure Gauge where
  /-- The timer under which exchanges are recorded. -/
  timer : TimerId
  /-- Whether headers are propagated. -/
  propagates : Bool
  /-- The tags that the provider derives, or how it fails. -/
  provider : RequestView → Reply → Ending (Except MetricsError Tags)

/-- What a future was created for. -/
structure Booking where
  /-- The number of the future. -/
  id : FutureId
  /-- The label of the exchange. -/
  label : Nat
  /-- How the exchange is measured. -/
  gauge : Gauge
  /-- What is seen of the request, the route included. -/
  view : RequestView
  /-- What the future does from now on. -/
  plan : Plan

/-- A future of a measured service that somebody left. -/
structure Parked where
  /-- The number of the future. -/
  id : FutureId
  /-- The label of the exchange. -/
  label : Nat
  /-- How the exchange is measured. -/
  gauge : Gauge
  /-- The future. -/
  flight : Flight Plan

/-- What can be done with a future. -/
inductive Dealing where
  /-- It is polled. -/
  | polled
  /-- It is dropped, perhaps while the thread is unwinding. -/
  | dropped (unwinding : Bool)
deriving DecidableEq

/-- What has become of a future. -/
structure Voyage where
  /-- What the future was created for. -/
  booking : Booking
  /-- What was done with it since then, the newest first. -/
  dealings : List Dealing := []

/-- An observation that the registry was given, with the label of its exchange. -/
structure Sighting extends Intake where
  /-- The label. -/
  label : Nat

/-- What threads share. -/
structure Commons where
  /-- The readings of the clock. -/
  readings : Nat → Instant
  /-- How often the clock was read. -/
  reads : Nat := 0
  /-- The series that the registry keeps. -/
  store : TimerStore := {}
  /-- What the registry was given, the newest first. -/
  sightings : List Sighting := []
  /-- The futures that wait to be polled or dropped. -/
  parked : List Parked := []
  /-- All futures that were ever left, the newest first. -/
  voyages : List Voyage := []

/-- What a parked future was created for and what it does from now on. -/
def Parked.booking (p : Parked) : Booking :=
  ⟨p.id, p.label, p.gauge, p.flight.observation.request, p.flight.inner⟩

/-- Note what is done with the future of a number. -/
def Voyage.deal (id : FutureId) (d : Dealing) (v : Voyage) : Voyage :=
  if v.booking.id = id then { v with dealings := d :: v.dealings } else v

namespace Commons

/-- Read the clock. -/
def read : Exec Commons Instant :=
  Exec.access fun s => (s.readings s.reads, { s with reads := s.reads + 1 })

/-- Give the registry an observation. -/
def record (label : Nat) (timer : TimerId) (tags : Tags) (elapsed : Duration) :
    Exec Commons (Except MetricsError Unit) :=
  Exec.access fun s => (.ok (), { s with
    store := s.store.record timer tags elapsed
    sightings := ⟨⟨timer, tags, elapsed⟩, label⟩ :: s.sightings })

/-- Leave a new future. -/
def leave (p : Parked) : Exec Commons Unit :=
  Exec.access fun s => ((), { s with
    parked := p :: s.parked
    voyages := ⟨p.booking, []⟩ :: s.voyages })

/-- Take the future of a number, in order to do something with it. -/
def take (id : FutureId) (d : Dealing) : Exec Commons (Option Parked) :=
  Exec.access fun s =>
    match s.parked.find? (·.id = id) with
    | none => (none, s)
    | some p => (some p, { s with
        parked := s.parked.eraseP (·.id = id)
        voyages := s.voyages.map (Voyage.deal id d) })

/-- Put back a future that is still pending. -/
def putBack (p : Parked) : Exec Commons Unit :=
  Exec.access fun s => ((), { s with parked := p :: s.parked })

end Commons

/-- The futures that follow a plan. -/
def Plan.futures : Futures Commons Plan where
  poll
    | ⟨0, outcome, _⟩ => .ended (outcome.map .done)
    | ⟨n + 1, outcome, sinking⟩ => pure (.pending ⟨n, outcome, sinking⟩)
  drop plan := .ended plan.sinking

/-- How an exchange is described whose future is dropped. -/
def Plan.fault (plan : Plan) (unwinding : Bool) : Fault :=
  match plan.sinking with
  | .returned _ => if unwinding then .delegatePanicked else .cancelled
  | .panicked _ => .delegatePanicked

/-- The instrumentation with the shared clock and registry, for an exchange of this label. -/
def Gauge.live (g : Gauge) (label : Nat) : LiveInstrumentation Commons where
  registry := { now := Commons.read, record := Commons.record label }
  provider view reply := .ended (g.provider view reply)
  timer := g.timer
  propagates := g.propagates

/-! ### Errands -/

/-- What a thread has to do. -/
inductive Errand where
  /-- There is nothing left to do. -/
  | done
  /-- Expand a template by a capturing handler. The handler that it wraps runs an errand and then
  has the given outcome. -/
  | expand (template : String) (work : Errand) (outcome : Ending (Except MetricsError Uri))
      (next : Errand)
  /-- Clear the route stack. -/
  | clear (next : Errand)
  /-- Make an exchange through an interceptor. The delegate runs an errand and then has the given
  outcome. -/
  | exchange (label : Nat) (gauge : Gauge) (request : Request) (work : Errand)
      (outcome : Ending Result) (next : Errand)
  /-- Call a measured service and leave the future. The service runs an errand and then gives a
  future with the given plan, or panics. -/
  | call (id : FutureId) (label : Nat) (gauge : Gauge) (request : Request) (work : Errand)
      (plan : Ending Plan) (next : Errand)
  /-- Poll the future of a number, if it is there. -/
  | poll (id : FutureId) (next : Errand)
  /-- Drop the future of a number, if it is there, perhaps while the thread is unwinding. -/
  | drop (id : FutureId) (unwinding : Bool) (next : Errand)

namespace Errand

/-- Expand a template by a capturing handler; the handler that it wraps does not look at the
variables. -/
def expandTemplate (template : String) (work : Exec Commons Unit)
    (outcome : Ending (Except MetricsError Uri)) : Exec Commons Unit := do
  let handler : TemplateHandler Commons := fun _ _ => do work; Exec.ended outcome
  let _ ← (handler.capturing template (.positional [])).guarded

/-- Make an exchange through an interceptor. -/
def intercept (label : Nat) (g : Gauge) (request : Request) (work : Exec Commons Unit)
    (outcome : Ending Result) : Exec Commons Unit := do
  let _ ← ((g.live label).intercept request fun _ => do work; Exec.ended outcome).guarded

/-- Call a measured service and leave the future. -/
def callService (id : FutureId) (label : Nat) (g : Gauge) (request : Request)
    (work : Exec Commons Unit) (plan : Ending Plan) : Exec Commons Unit := do
  match ← ((g.live label).call (fun _ => do work; Exec.ended plan) request).guarded with
  | .returned flight => Commons.leave ⟨id, label, g, flight⟩
  | .panicked _ => pure ()

/-- Poll a future, and put it back if it is still pending. -/
def pollFuture (id : FutureId) : Exec Commons Unit := do
  match ← Commons.take id .polled with
  | none => pure ()
  | some p =>
      match ← (p.flight.poll (p.gauge.live p.label) Plan.futures).guarded with
      | .returned (.pending flight) => Commons.putBack { p with flight := flight }
      | _ => pure ()

/-- Drop a future. -/
def dropFuture (id : FutureId) (unwinding : Bool) : Exec Commons Unit := do
  match ← Commons.take id (.dropped unwinding) with
  | none => pure ()
  | some p => do
      let drop := p.flight.drop (p.gauge.live p.label) Plan.futures
      let _ ← (drop.within fun c => { c with unwinding := unwinding }).guarded

/-- The computation that runs an errand. A panic ends the step in which it is raised, and the
errand goes on with the next one. -/
def exec : Errand → Exec Commons Unit
  | done => pure ()
  | expand template work outcome next => do
      expandTemplate template work.exec outcome
      next.exec
  | clear next => do
      Route.clear
      next.exec
  | exchange label g request work outcome next => do
      intercept label g request work.exec outcome
      next.exec
  | call id label g request work plan next => do
      callService id label g request work.exec plan
      next.exec
  | poll id next => do
      pollFuture id
      next.exec
  | drop id unwinding next => do
      dropFuture id unwinding
      next.exec

/-- The numbers of the futures that an errand creates. -/
def creates : Errand → List FutureId
  | done => []
  | clear next | poll _ next | drop _ _ next => next.creates
  | expand _ work _ next | exchange _ _ _ work _ next => work.creates ++ next.creates
  | call id _ _ _ work (.returned _) next => id :: (work.creates ++ next.creates)
  | call _ _ _ _ work (.panicked _) next => work.creates ++ next.creates

/-- The requests with which an errand calls services, and the numbers of the futures that are
created by it. -/
def calls : Errand → List (FutureId × Request)
  | done => []
  | clear next | poll _ next | drop _ _ next => next.calls
  | expand _ work _ next | exchange _ _ _ work _ next => work.calls ++ next.calls
  | call id _ _ request work _ next => (id, request) :: (work.calls ++ next.calls)

end Errand

/-! ### What becomes of an errand -/

/-- What is due: an observation of the registry, a future that is to be created, or one that is to
be put back. -/
inductive Due where
  | sighting (label : Nat) (timer : TimerId) (tags : Tags)
  | creation (booking : Booking)
  | putBack (booking : Booking)

/-- The kinds of what is due. -/
inductive Due.Kind where
  | observation
  | newFuture
  | returnedFuture
deriving DecidableEq

/-- Of which kind it is. -/
def Due.kind : Due → Due.Kind
  | sighting .. => .observation
  | creation _ => .newFuture
  | putBack _ => .returnedFuture

/-- The due that an observation satisfies. -/
def Sighting.due (o : Sighting) : Due :=
  .sighting o.label o.timer o.tags

/-- A thread after a template was pushed. -/
def Thread.pushed (b : Thread) (template : String) : Thread :=
  { b with routes := b.routes.push template }

/-- A thread after an expansion whose entry has this token. -/
def Thread.expanded (b : Thread) (token : UInt64) : Ending (Except MetricsError Uri) → Thread
  | .returned (.ok uri) => { b with routes := b.routes.bind token uri }
  | .returned (.error _) => { b with routes := b.routes.discard token }
  | .panicked _ => b

/-- What happens to a thread when an expansion ends whose entry has this token. -/
def Thread.conclusion (b : Thread) (t : ThreadId) (token : UInt64) :
    Ending (Except MetricsError Uri) → List Moment
  | .returned (.ok uri) => [⟨t, .bound token uri, b.expanded token (.returned (.ok uri))⟩]
  | .returned (.error e) => [⟨t, .discarded token, b.expanded token (.returned (.error e))⟩]
  | .panicked _ => []

/-- What happens to a thread in an expansion, given what happens while the wrapped handler is at
work and how the thread stands then. -/
def Thread.inExpansion (b : Thread) (t : ThreadId) (template : String) (meanwhile : List Moment)
    (b' : Thread) (outcome : Ending (Except MetricsError Uri)) : List Moment :=
  ⟨t, .captured b.routes.next template, b.pushed template⟩ ::
    (meanwhile ++ b'.conclusion t b.routes.next outcome)

/-- The route of a request that is made on a thread. -/
def Thread.routeOf (b : Thread) (request : Request) : Option String :=
  request.route <|> (b.routes.claim request.uri).map (·.1.template)

/-- What an exchange finds when it claims its route. -/
def Thread.claiming (b : Thread) (request : Request) : Event :=
  .claimed request.uri ((b.routes.claim request.uri).map (·.1))

/-- A thread after an exchange claimed its route. -/
def Thread.claimed (b : Thread) (request : Request) : Thread :=
  { b with routes := ((b.routes.claim request.uri).map (·.2)).getD b.routes }

/-- What happens to a thread in an exchange, given what happens while its request is carried out and
how the thread stands then. -/
def Thread.inExchange (b : Thread) (t : ThreadId) (request : Request) (meanwhile : List Moment)
    (b' : Thread) : List Moment :=
  ⟨t, .scopeOpened, Route.opened b⟩ :: ⟨t, b.claiming request, (Route.opened b).claimed request⟩ ::
    (meanwhile ++ [⟨t, .scopeClosed, Route.closed b'⟩])

namespace Gauge

/-- What is seen of an exchange. -/
def view (g : Gauge) (offers : List (String × String)) (request : Request)
    (route : Option String) : RequestView :=
  (RequestView.ofRequest (request.taking (if g.propagates then offers else []))).withRoute route

/-- What the registry is due of an exchange that came to a reply. -/
def sighting (g : Gauge) (label : Nat) (view : RequestView) (reply : Reply) : Multiset Due :=
  match g.provider view reply with
  | .returned (.ok tags) => {.sighting label g.timer tags}
  | _ => 0

/-- What the registry is due of an exchange that ended in some way. -/
def concluded (g : Gauge) (label : Nat) (view : RequestView) : Ending Result → Multiset Due
  | .returned (.ok response) => g.sighting label view (.ofResponse response)
  | .returned (.error failure) =>
      match failure.display with
      | .text s => g.sighting label view (.failed ⟨Fault.bareTypeName failure.typeName, s⟩)
      | _ => 0
  | .panicked _ => g.sighting label view (.failed .delegatePanicked)

/-- What is due of a call to a service: a future, or an observation if the service panicked. -/
def called (g : Gauge) (id : FutureId) (label : Nat) (view : RequestView) :
    Ending Plan → Multiset Due
  | .returned plan => {.creation ⟨id, label, g, view, plan⟩}
  | .panicked _ => g.sighting label view (.failed .delegatePanicked)

end Gauge

namespace Errand

/-- How a thread stands after an errand, given how it stands before. -/
def stand : Errand → Thread → Thread
  | done, b => b
  | expand template work outcome next, b =>
      next.stand ((work.stand (b.pushed template)).expanded b.routes.next outcome)
  | clear next, b => next.stand { b with routes := b.routes.clear }
  | exchange _ _ request work _ next, b | call _ _ _ request work _ next, b =>
      next.stand (Route.closed (work.stand ((Route.opened b).claimed request)))
  | poll _ next, b | drop _ _ next, b => next.stand b

/-- What happens to the scopes and the route stack of a thread by an errand, in order. -/
def turns (t : ThreadId) : Errand → Thread → List Moment
  | done, _ => []
  | expand template work outcome next, b =>
      let b₁ := b.pushed template
      let b₂ := work.stand b₁
      b.inExpansion t template (work.turns t b₁) b₂ outcome ++
        next.turns t (b₂.expanded b.routes.next outcome)
  | clear next, b =>
      let b₁ := { b with routes := b.routes.clear }
      ⟨t, .cleared, b₁⟩ :: next.turns t b₁
  | exchange _ _ request work _ next, b | call _ _ _ request work _ next, b =>
      let b₁ := (Route.opened b).claimed request
      let b₂ := work.stand b₁
      b.inExchange t request (work.turns t b₁) b₂ ++ next.turns t (Route.closed b₂)
  | poll _ next, b | drop _ _ next, b => next.turns t b

/-- What is due of an errand, given how the thread stands before. -/
def dues (offers : List (String × String)) : Errand → Thread → Multiset Due
  | done, _ => 0
  | expand template work outcome next, b =>
      let b₁ := b.pushed template
      work.dues offers b₁ + next.dues offers ((work.stand b₁).expanded b.routes.next outcome)
  | clear next, b => next.dues offers { b with routes := b.routes.clear }
  | exchange label g request work outcome next, b =>
      let b₁ := (Route.opened b).claimed request
      g.concluded label (g.view offers request (b.routeOf request)) outcome +
        work.dues offers b₁ + next.dues offers (Route.closed (work.stand b₁))
  | call id label g request work plan next, b =>
      let b₁ := (Route.opened b).claimed request
      g.called id label (g.view offers request (b.routeOf request)) plan +
        work.dues offers b₁ + next.dues offers (Route.closed (work.stand b₁))
  | poll _ next, b | drop _ _ next, b => next.dues offers b

end Errand

/-! ### What becomes of a future -/

/-- How far a future has come. -/
inductive Course where
  /-- It is pending. -/
  | afloat (plan : Plan)
  /-- It was polled to its end. -/
  | landed (outcome : Ending Result)
  /-- It was dropped before. -/
  | sunk (fault : Fault)

/-- What becomes of a future when something is done with it. -/
def Course.deal : Course → Dealing → Course
  | afloat ⟨0, outcome, _⟩, .polled => landed outcome
  | afloat ⟨n + 1, outcome, sinking⟩, .polled => afloat ⟨n, outcome, sinking⟩
  | afloat plan, .dropped unwinding => sunk (plan.fault unwinding)
  | c, _ => c

/-- A future that is dropped under way is gone with the fault that its plan leaves it. -/
theorem Course.deal_dropped (plan : Plan) (unwinding : Bool) :
    (afloat plan).deal (.dropped unwinding) = sunk (plan.fault unwinding) := by
  obtain ⟨_ | _, _, _⟩ := plan <;> rfl

/-- What is due of a future that has come so far: to be put back as long as it is pending, and
then its observation. -/
def Booking.claims (b : Booking) : Course → Multiset Due
  | .afloat plan => {.putBack { b with plan := plan }}
  | .landed outcome => b.gauge.concluded b.label b.view outcome
  | .sunk fault => b.gauge.sighting b.label b.view (.failed fault)

namespace Voyage

/-- How far a future has come by what was done with it. -/
def course (v : Voyage) : Course :=
  v.dealings.foldr (fun d c => c.deal d) (.afloat v.booking.plan)

/-- What became due of a future. -/
def claims (v : Voyage) : Multiset Due :=
  v.booking.claims v.course

end Voyage

end ExchangeMetrics
