import ExchangeMetrics.Exchange.Interceptor
import ExchangeMetrics.Exchange.Service
import ExchangeMetrics.Proofs.Pool
import Mathlib.Data.Multiset.AddSub

/-!
# Programs

`Program` picks out of all computations those that a program can be made of: it returns, panics,
catches panics and cleans up after them, uses what is shared by all threads as it likes,
expands templates, clears the route stack, and runs exchanges through interceptors and measured
services, the futures of which it polls and drops. The delegates, services, futures, template
handlers, tags providers and registries that it brings along are programs in turn, to any depth.

What a program cannot do is write into the journal what did not happen, or make use of one
future twice. The second is told by what it owns: `Program kept own m gives` says that `m` owns
the observations `own` when it begins and that those of `gives a` are with the value `a` that it
returns. A future owns its observation and whatever its inner future owns; `kept` tells which
observations are owned by the shared state, where any thread may take them from or put them.
A program that panics owns nothing any more.
-/

namespace ExchangeMetrics

variable {σ : Type}

/-- What is noted about clocks, registries and meters that are used outside of any exchange. -/
def Event.IsAside : Event → Prop
  | clockRead _ => True
  | observed .. => True
  | metered _ => True
  | _ => False

/-- The observations owned by a future of a measured service. -/
def Flight.owned {φ : Type} (owned : φ → Multiset Observation) (f : Flight φ) :
    Multiset Observation :=
  f.observation ::ₘ owned f.inner

/-- The observations owned by what polling gives: those of the future, if it is not done. -/
def Poll.owned {φ : Type} (owned : φ → Multiset Observation) : Poll φ → Multiset Observation
  | pending future => owned future
  | done _ => 0

/-- The observations owned by the value that a guarded computation returned. -/
def Ending.owned {α : Type} (owned : α → Multiset Observation) : Ending α → Multiset Observation
  | returned a => owned a
  | panicked _ => 0

/-- The computations that a program is made of, with the observations that they own. -/
inductive Program (kept : σ → Multiset Observation) :
    {α : Type} → Multiset Observation → Exec σ α → (α → Multiset Observation) → Prop where
  /-- Return a value. -/
  | pure {α : Type} (a : α) (gives : α → Multiset Observation) :
      Program kept (gives a) (Pure.pure a) gives
  /-- Panic. -/
  | panic {α : Type} (message : String) (gives : α → Multiset Observation) :
      Program kept 0 (Exec.panic message) gives
  /-- One after the other. -/
  | bind {α β : Type} {own : Multiset Observation} {m : Exec σ α} {f : α → Exec σ β}
      {mid : α → Multiset Observation} {gives : β → Multiset Observation}
      (hm : Program kept own m mid) (hf : ∀ a, Program kept (mid a) (f a) gives) :
      Program kept own (m >>= f) gives
  /-- Catch panics; what is held outside is kept. -/
  | guarded {α : Type} {own : Multiset Observation} {m : Exec σ α}
      {gives : α → Multiset Observation} (hm : Program kept own m gives)
      (held : Multiset Observation) :
      Program kept (own + held) m.guarded fun e => e.owned gives + held
  /-- Clean up after a panic; what the cleanup gets rid of is kept if there is no panic. -/
  | onPanic {α : Type} {own held : Multiset Observation} {m : Exec σ α}
      {cleanup : Exec σ Unit} {gives : α → Multiset Observation}
      (hm : Program kept own m gives) (hc : Program kept held cleanup fun _ => 0) :
      Program kept (own + held) (m.onPanic cleanup) fun a => gives a + held
  /-- Ask whether the thread is unwinding. -/
  | context (own : Multiset Observation) : Program kept own Exec.context fun _ => own
  /-- Use what is shared; observations may change hands. -/
  | access {α : Type} {own : Multiset Observation} {gives : α → Multiset Observation}
      (f : σ → α × σ) (h : ∀ s, own + kept s = gives (f s).1 + kept (f s).2) :
      Program kept own (Exec.access f) gives
  /-- Ask for the headers of the global propagator. -/
  | propagated (own : Multiset Observation) : Program kept own Exec.propagated fun _ => own
  /-- Choose the headers of the global propagator. -/
  | setPropagated (own : Multiset Observation) (headers : List (String × String)) :
      Program kept own (Exec.setPropagated headers) fun _ => own
  /-- Use a clock, a registry or a meter outside of any exchange. -/
  | aside (own : Multiset Observation) {event : Event} (h : event.IsAside) :
      Program kept own (Exec.note event) fun _ => own
  /-- Ask for the depth of the route stack. -/
  | depth (own : Multiset Observation) : Program kept own Route.depth fun _ => own
  /-- Clear the route stack. -/
  | clear (own : Multiset Observation) : Program kept own Route.clear fun _ => own
  /-- Expand a template by a capturing handler. -/
  | expand {handler : TemplateHandler σ} {template : String} {vars : Variables}
      (hh : Program kept 0 (handler template vars) fun _ => 0) :
      Program kept 0 (handler.capturing template vars) fun _ => 0
  /-- Run an exchange through an interceptor. -/
  | intercept {i : LiveInstrumentation σ} (request : Request)
      {delegate : Request → Exec σ Result}
      (hnow : Program kept 0 i.registry.now fun _ => 0)
      (hrecord : ∀ timer tags elapsed,
        Program kept 0 (i.registry.record timer tags elapsed) fun _ => 0)
      (hprovider : ∀ view reply, Program kept 0 (i.provider view reply) fun _ => 0)
      (hd : ∀ request, Program kept 0 (delegate request) fun _ => 0) :
      Program kept 0 (i.intercept request delegate) fun _ => 0
  /-- Call a measured service. -/
  | call {φ : Type} {i : LiveInstrumentation σ} (request : Request)
      {inner : Request → Exec σ φ} (owned : φ → Multiset Observation)
      (hnow : Program kept 0 i.registry.now fun _ => 0)
      (hrecord : ∀ timer tags elapsed,
        Program kept 0 (i.registry.record timer tags elapsed) fun _ => 0)
      (hprovider : ∀ view reply, Program kept 0 (i.provider view reply) fun _ => 0)
      (hinner : ∀ request, Program kept 0 (inner request) owned) :
      Program kept 0 (i.call inner request) (Flight.owned owned)
  /-- Poll a future of a measured service. -/
  | poll {φ : Type} {i : LiveInstrumentation σ} {futures : Futures σ φ} (f : Flight φ)
      (owned : φ → Multiset Observation)
      (hnow : Program kept 0 i.registry.now fun _ => 0)
      (hrecord : ∀ timer tags elapsed,
        Program kept 0 (i.registry.record timer tags elapsed) fun _ => 0)
      (hprovider : ∀ view reply, Program kept 0 (i.provider view reply) fun _ => 0)
      (hpoll : Program kept (owned f.inner) (futures.poll f.inner) (Poll.owned owned)) :
      Program kept (f.owned owned) (f.poll i futures) (Poll.owned (Flight.owned owned))
  /-- Drop a future of a measured service. -/
  | drop {φ : Type} {i : LiveInstrumentation σ} {futures : Futures σ φ} (f : Flight φ)
      (owned : φ → Multiset Observation)
      (hnow : Program kept 0 i.registry.now fun _ => 0)
      (hrecord : ∀ timer tags elapsed,
        Program kept 0 (i.registry.record timer tags elapsed) fun _ => 0)
      (hprovider : ∀ view reply, Program kept 0 (i.provider view reply) fun _ => 0)
      (hdrop : Program kept (owned f.inner) (futures.drop f.inner) fun _ => 0) :
      Program kept (f.owned owned) (f.drop i futures) fun _ => 0

/-- A pool that nothing has happened on yet: its threads run programs that own nothing. -/
structure Pool.Fresh (kept : σ → Multiset Observation) (p : Pool σ) : Prop where
  /-- The journal is empty. -/
  journal : p.world.journal = []
  /-- No exchange has begun. -/
  exchanges : p.world.exchanges = 0
  /-- No thread has captured routes or opened scopes. -/
  idle : p.world.threads = {}
  /-- No exchange rests in the shared state. -/
  shared : kept p.world.shared = 0
  /-- Every thread has a program to run. -/
  threads : ∀ m ∈ p.threads, Program kept 0 m fun _ => 0

/-! ### A plain instrumentation -/

/-- The instrumentation whose clock stands still, whose registry takes every observation, and
whose tags are the standard ones. -/
def Instrumentation.plain (propagates : Bool) : LiveInstrumentation σ where
  registry := { now := pure ⟨0⟩, record := fun _ _ _ => pure (.ok ()) }
  provider := .standard "UNKNOWN"
  timer := { name := "http.client.requests" }
  propagates := propagates

section

variable {kept : σ → Multiset Observation} {propagates : Bool}

/-- The clock of the plain instrumentation is a program that owns nothing. -/
theorem Program.plain_now :
    Program kept 0 (Instrumentation.plain propagates).registry.now fun _ => 0 :=
  .pure _ fun _ => 0

/-- So is its registry, whatever it is given. -/
theorem Program.plain_record (timer : TimerId) (tags : Tags) (elapsed : Duration) :
    Program kept 0 ((Instrumentation.plain propagates).registry.record timer tags elapsed)
      fun _ => 0 :=
  .pure _ fun _ => 0

/-- And so is its tags provider, whatever it is asked. -/
theorem Program.plain_provider (view : RequestView) (reply : Reply) :
    Program kept 0 ((Instrumentation.plain propagates).provider view reply) fun _ => 0 :=
  .pure _ fun _ => 0

end

/-- A request for the root of a host. -/
def Request.plain : Request where
  method := ⟨"GET", by decide +kernel⟩
  uri := ⟨some "http", some "example.com", "/", none⟩

/-- A response that all went well. -/
def Response.plain : Response where
  status := ⟨200, by decide⟩

/-- An error that panics when it is asked for its text. -/
def Failure.broken : Failure := ⟨"app::Broken", .panics "no text"⟩

/-- An error that reports that it cannot give its text. -/
def Failure.failing : Failure := ⟨"app::Failing", .fails⟩

/-- A delegate that gives an error. -/
def Failure.delegate (f : Failure) : Request → Exec σ Result :=
  fun _ => pure (.error f)

/-- Futures that give an error when they are polled. -/
def Failure.futures (f : Failure) : Futures σ Unit where
  poll _ := pure (.done (.error f))
  drop _ := pure ()

end ExchangeMetrics
