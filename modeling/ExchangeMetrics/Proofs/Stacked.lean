import ExchangeMetrics.Proofs.Inheritance
import ExchangeMetrics.Proofs.Preference
import ExchangeMetrics.Proofs.Serving
import ExchangeMetrics.Proofs.Transparency

/-!
# Exchanges stacked on one request

Interceptors and measured services can be wrapped around one another, so that one request is
measured several times on its way to a delegate. Each of the exchanges claims a route of its own
before it hands the request on. The outermost is served first, with the entry that suits the
request best, the next one with the entry that is best among those that are left, and so on; a
template that is attached to the request is the route of them all, and what is claimed is claimed
nevertheless.

The clocks of the registries are asked on the way down. They are taken to leave the route stack
alone, as a clock does that does not itself expand templates or make exchanges.

## Main results

* `Instrumentation.routes_of_start`: what beginning an exchange does to the route stack.
* `Tower.run_around_congr`, `Tower.run_around_panicked`: the innermost delegate is asked once, for
  the request and in the world at which the descent arrives.
* `Tower.stacked`: the routes of all exchanges, and the stack that the innermost delegate finds.
-/

namespace ExchangeMetrics

variable {σ φ α β : Type}

/-! ### Leaving the route stack alone -/

/-- A computation leaves the route stack of its thread as it finds it. -/
def Exec.LeavesRoutes (m : Exec σ α) : Prop :=
  ∀ c w, ((m.run c w).2.thread c.thread).routes = (w.thread c.thread).routes

namespace Exec

/-- A computation that leaves the route stack alone and goes on so leaves it alone as a whole. -/
theorem LeavesRoutes.bind {m : Exec σ α} {f : α → Exec σ β} (hm : m.LeavesRoutes)
    (hf : ∀ a, (f a).LeavesRoutes) : (m >>= f).LeavesRoutes := by
  intro c w
  have hroutes := hm c w
  rw [run_bind]
  rcases hrun : m.run c w with ⟨a | message, w₁⟩ <;> rw [hrun] at hroutes
  · exact (hf a c w₁).trans hroutes
  · exact hroutes

/-- So does one that cleans up after a panic, if the cleanup leaves the stack alone. -/
theorem LeavesRoutes.onPanic {m : Exec σ α} {cleanup : Exec σ Unit} (hm : m.LeavesRoutes)
    (hc : cleanup.LeavesRoutes) : (m.onPanic cleanup).LeavesRoutes := by
  intro c w
  have hroutes := hm c w
  rcases hrun : m.run c w with ⟨a | message, w₁⟩ <;> rw [hrun] at hroutes
  · rw [run_onPanic_returned hrun]
    exact hroutes
  · rw [run_onPanic_panicked hrun]
    exact (hc c.unwound w₁).trans hroutes

/-- What is composed of computations that leave the route stack alone does so too. -/
theorem leavesRoutes_composes : Composes (@LeavesRoutes σ) where
  pure _ _ _ := rfl
  panic _ _ _ := rfl
  bind := LeavesRoutes.bind
  guarded hm c w := by
    rw [run_guarded]
    exact hm c w
  onPanic := LeavesRoutes.onPanic
  context _ _ := rfl
  access _ _ _ := rfl
  propagated _ _ := rfl
  setPropagated _ _ _ := rfl
  remark _ _ _ := rfl

/-- A panic ends the whole computation. -/
theorem bind_panics {m : Exec σ α} {f : α → Exec σ β} {c : Context} {w : World σ}
    {message : String} (h : (m.run c w).1 = .panicked message) :
    ((m >>= f).run c w).1 = .panicked message := by
  rcases hm : m.run c w with ⟨e, w₁⟩
  rw [hm] at h
  cases h
  rw [run_bind_panicked hm]

/-- What follows a computation sees nothing of it but how it ends. -/
theorem run_bind_congr_left {m m' : Exec σ α} {f : α → Exec σ β} {c : Context} {w : World σ}
    (h : m.run c w = m'.run c w) : (m >>= f).run c w = (m' >>= f).run c w := by
  rw [run_bind, run_bind, h]

/-- Cleaning up after a panic depends only on how the computation runs. -/
theorem run_onPanic_congr {m m' : Exec σ α} {cleanup : Exec σ Unit} {c : Context} {w : World σ}
    (h : m.run c w = m'.run c w) :
    (m.onPanic cleanup).run c w = (m'.onPanic cleanup).run c w := by
  rcases hm : m.run c w with ⟨a | message, w₁⟩
  · rw [run_onPanic_returned hm, run_onPanic_returned (h.symm.trans hm)]
  · rw [run_onPanic_panicked hm, run_onPanic_panicked (h.symm.trans hm)]

end Exec

/-! ### Beginning an exchange -/

section

variable {i : LiveInstrumentation σ} {request r : Request} {c : Context} {w w' : World σ}

/-- Opening a scope leaves the route stack alone. -/
theorem Route.routes_openScope :
    ((Route.openScope.run c w).2.thread c.thread).routes = (w.thread c.thread).routes := by
  rw [openScope, Exec.onThread, Exec.run_atomically, World.thread_note, World.thread_setThread,
    if_pos rfl]
  rfl

/-- A claim takes one entry off the route stack, if there is one to take. -/
theorem Route.routes_claim (uri : Uri) :
    (((Route.claim uri : Exec σ (Option String)).run c w).2.thread c.thread).routes =
      (w.thread c.thread).routes.afterClaim uri := by
  rw [run_claim, World.thread_note, World.thread_setThread, if_pos rfl]

namespace Instrumentation

/-- Beginning an exchange does to the route stack what its claim does, whether or not a template is
attached to the request. -/
theorem routes_of_start (hclock : i.registry.now.LeavesRoutes) :
    (((i.start request).run c w).2.thread c.thread).routes =
      (w.thread c.thread).routes.afterClaim request.uri := by
  have hQ : Exec.Composes (@Exec.LeavesRoutes σ) := Exec.leavesRoutes_composes
  have hroutes := Route.routes_claim (c := c) (w := w) request.uri
  obtain ⟨w₁, hclaim⟩ : ∃ w₁, (Route.claim request.uri : Exec σ (Option String)).run c w =
      (.returned _, w₁) := ⟨_, Route.run_claim request.uri c w⟩
  rw [hclaim] at hroutes
  rw [start_eq, Exec.run_bind_returned hclaim, ← hroutes]
  have hrest {captured : Option String} : Exec.LeavesRoutes (do
      let offers ← i.offers
      (offers.filterMap whySkipped).forM fun s => Exec.note (.headerSkipped s.1 s.2)
      let begun ← i.registry.read
      let view := (RequestView.ofRequest (request.taking offers)).withRoute
        (request.route <|> captured)
      let exchange ← Exec.newExchange view
      pure ((⟨exchange, view, ⟨begun⟩⟩ : Observation), request.taking offers)) := by
    refine hQ.bind hQ.offers fun offers => hQ.bind (hQ.skipped _) fun _ => ?_
    refine hQ.bind (hQ.read hclock) fun begun => hQ.bind (fun _ _ => rfl) fun _ => hQ.pure _
  exact hrest c w₁

/-- Nothing but the clock can panic when an exchange begins. -/
theorem clock_of_start_panicked {message : String}
    (h : (i.start request).run c w = (.panicked message, w')) :
    ∃ w₁ w₂, i.registry.now.run c w₁ = (.panicked message, w₂) := by
  rw [start_eq, Exec.run_bind_returned (Route.run_claim request.uri c w)] at h
  rcases Exec.run_bind_eq_panicked h with h | ⟨offers, w₂, -, h⟩
  · rw [offers] at h
    split at h <;> cases h
  rw [Exec.run_bind_returned (run_forM_note _ c w₂)] at h
  rcases Exec.run_bind_eq_panicked h with h | ⟨begun, w₃, -, h⟩
  · rcases Exec.run_bind_eq_panicked h with h | ⟨reading, w₄, -, h⟩
    · exact ⟨_, _, h⟩
    · cases h
  · cases h

/-- The request that an exchange hands on is the caller's but for the headers. -/
theorem handedOn_of_start {o : Observation}
    (h : (i.start request).run c w = (.returned (o, r), w')) :
    r = { request with headers := r.headers } := by
  obtain ⟨rfl, -⟩ := i.shows_of_start h
  exact i.handedOn_eq request w.propagated

end Instrumentation

/-- An interceptor does the same around two delegates that do the same when they are asked. -/
theorem Instrumentation.run_intercept_congr {delegate delegate' : Request → Exec σ Result}
    (h : ∀ o r w₁, (i.start request).run c (Route.openScope.run c w).2 = (.returned (o, r), w₁) →
      (delegate r).run c (o.dispatch.run c w₁).2 = (delegate' r).run c (o.dispatch.run c w₁).2) :
    (i.intercept request delegate).run c w = (i.intercept request delegate').run c w := by
  refine Route.run_inScope_congr (Exec.run_bind_congr ?_)
  rintro ⟨o, r⟩ w₁ hstart
  have hmeasured : Exec.run (do
        o.dispatch
        let result ← (delegate r).onPanic (o.forsake i .panicked)
        o.complete i result
        pure result) c w₁ =
      Exec.run (do
        o.dispatch
        let result ← (delegate' r).onPanic (o.forsake i .panicked)
        o.complete i result
        pure result) c w₁ :=
    Exec.run_bind_congr_left (Exec.run_onPanic_congr (h o r w₁ hstart))
  simp only [Observation.lastly, Exec.run_andThen, hmeasured]

/-- A measured service does the same with two services that do the same when they are called. -/
theorem Instrumentation.run_call_congr {inner inner' : Request → Exec σ φ}
    (h : ∀ o r w₁, (i.start request).run c (Route.openScope.run c w).2 = (.returned (o, r), w₁) →
      (inner r).run c (o.dispatch.run c w₁).2 = (inner' r).run c (o.dispatch.run c w₁).2) :
    (i.call inner request).run c w = (i.call inner' request).run c w := by
  refine Route.run_inScope_congr (Exec.run_bind_congr ?_)
  rintro ⟨o, r⟩ w₁ hstart
  exact Exec.run_bind_congr_left (Exec.run_onPanic_congr (h o r w₁ hstart))

/-- An interceptor panics if the delegate does. -/
theorem Instrumentation.intercept_panics {delegate : Request → Exec σ Result} {o : Observation}
    {message : String} {w₁ : World σ}
    (hstart : (i.start request).run c (Route.openScope.run c w).2 = (.returned (o, r), w₁))
    (h : ((delegate r).run c (o.dispatch.run c w₁).2).1 = .panicked message) :
    ((i.intercept request delegate).run c w).1 = .panicked message := by
  rcases hrun : (delegate r).run c (o.dispatch.run c w₁).2 with ⟨e, w₂⟩
  rw [hrun] at h
  obtain ⟨e', w₃, hconcluded, hintercept⟩ := i.run_intercept delegate hstart hrun
  rw [hintercept]
  cases h
  cases hconcluded
  rfl

/-- A measured service panics when it is called if the service inside it does. -/
theorem Instrumentation.call_panics {inner : Request → Exec σ φ} {o : Observation}
    {message : String} {w₁ : World σ}
    (hstart : (i.start request).run c (Route.openScope.run c w).2 = (.returned (o, r), w₁))
    (h : ((inner r).run c (o.dispatch.run c w₁).2).1 = .panicked message) :
    ((i.call inner request).run c w).1 = .panicked message := by
  rcases hrun : (inner r).run c (o.dispatch.run c w₁).2 with ⟨e, w₂⟩
  rw [hrun] at h
  cases h
  have hrest : Exec.run (do
      o.dispatch
      let future ← (inner r).onPanic (o.lastly (o.forsake i .panicked))
      pure (⟨o, future⟩ : Flight φ)) c w₁ = _ :=
    (Exec.run_bind_returned (m := o.dispatch) rfl).trans
      (Exec.run_bind_panicked (Exec.run_onPanic_panicked hrun))
  exact congrArg Prod.fst (Route.run_inScope ((Exec.run_bind_returned hstart).trans hrest))

/-- An exchange panics if the clock does when it begins. -/
theorem Instrumentation.exchange_panics {go : Observation × Request → Exec σ α}
    {message : String} {w₁ : World σ}
    (h : (i.start request).run c (Route.openScope.run c w).2 = (.panicked message, w₁)) :
    ((Route.inScope (i.start request >>= go)).run c w).1 = .panicked message :=
  congrArg Prod.fst (Route.run_inScope (Exec.run_bind_panicked h))

end

/-! ### Towers -/

/-- Interceptors and measured services that are wrapped around a delegate, which gives a `φ`. A
tower with a service on top gives futures of it, and any other tower gives results. -/
inductive Tower (σ φ : Type) : Type → Type 1 where
  /-- There is nothing around the delegate. -/
  | bare : Tower σ φ φ
  /-- An interceptor hands the request on to the tower inside it, and then finds out what the
  result is. -/
  | interceptor {α : Type} (i : LiveInstrumentation σ) (inside : Tower σ φ α)
      (conclude : α → Exec σ Result) : Tower σ φ Result
  /-- A measured service hands the request on to the tower inside it, and then makes a future. -/
  | service {α β : Type} (i : LiveInstrumentation σ) (inside : Tower σ φ α)
      (book : α → Exec σ β) : Tower σ φ (Flight β)

/-- The instrumentations of a tower, the outermost first. -/
def Tower.levels {α : Type} : Tower σ φ α → List (LiveInstrumentation σ)
  | bare => []
  | interceptor i inside _ => i :: inside.levels
  | service i inside _ => i :: inside.levels

/-- What a tower around a delegate makes of a request. -/
def Tower.around {α : Type} : Tower σ φ α → (Request → Exec σ φ) → Request → Exec σ α
  | bare, delegate => delegate
  | interceptor i inside conclude, delegate => fun request =>
      i.intercept request fun r => inside.around delegate r >>= conclude
  | service i inside book, delegate => fun request =>
      i.call (fun r => inside.around delegate r >>= book) request

/-- How a request comes down through exchanges that are begun one inside the other. -/
structure Descent (σ : Type) where
  /-- The exchanges that began, the outermost first. -/
  begun : List Observation
  /-- The request as it was handed on last. -/
  request : Request
  /-- The world at that time. -/
  world : World σ
  /-- The panic because of which it was not handed on any further. -/
  panic : Option String

/-- The same descent within one more exchange. -/
def Descent.within (o : Observation) (d : Descent σ) : Descent σ :=
  { d with begun := o :: d.begun }

/-- Begin exchanges one inside the other: each opens its scope, begins, and hands the request
on. -/
def descend (c : Context) : List (LiveInstrumentation σ) → Request → World σ → Descent σ
  | [], request, w => ⟨[], request, w, none⟩
  | i :: is, request, w =>
      match (i.start request).run c (Route.openScope.run c w).2 with
      | (.returned (o, r), w₁) => (descend c is r (o.dispatch.run c w₁).2).within o
      | (.panicked message, w₁) => ⟨[], request, w₁, some message⟩

section

variable {c : Context} {i : LiveInstrumentation σ} {is : List (LiveInstrumentation σ)}
  {request r : Request} {w w₁ : World σ} {o : Observation} {message : String}

/-- A descent goes on through an exchange that begins. -/
theorem descend_of_returned
    (h : (i.start request).run c (Route.openScope.run c w).2 = (.returned (o, r), w₁)) :
    descend c (i :: is) request w = (descend c is r (o.dispatch.run c w₁).2).within o := by
  rw [descend, h]

/-- A descent ends where an exchange does not begin. -/
theorem descend_of_panicked
    (h : (i.start request).run c (Route.openScope.run c w).2 = (.panicked message, w₁)) :
    descend c (i :: is) request w = ⟨[], request, w₁, some message⟩ := by
  rw [descend, h]

/-! ### The innermost delegate -/

/-- What comes of a delegate where a descent arrives: nothing but the panic if it was cut short. -/
def Descent.arrive (d : Descent σ) (c : Context) (delegate : Request → Exec σ φ) :
    Ending φ × World σ :=
  match d.panic with
  | none => (delegate d.request).run c d.world
  | some message => (.panicked message, d.world)

/-- One more exchange around a descent does not change where it arrives. -/
theorem Descent.arrive_within (o : Observation) (d : Descent σ) (delegate : Request → Exec σ φ) :
    (d.within o).arrive c delegate = d.arrive c delegate := rfl

namespace Tower

/-- Two delegates come to the same within a tower if they come to the same where the descent
arrives: nothing else is asked of them. -/
theorem run_around_congr {α : Type} (t : Tower σ φ α) {delegate delegate' : Request → Exec σ φ}
    (h : (descend c t.levels request w).arrive c delegate =
      (descend c t.levels request w).arrive c delegate') :
    (t.around delegate request).run c w = (t.around delegate' request).run c w := by
  induction t generalizing request w with
  | bare =>
      simp only [levels, descend, Descent.arrive] at h
      simp only [around, h]
  | interceptor i inside conclude ih =>
      simp only [around]
      refine i.run_intercept_congr fun o r w₁ hstart => Exec.run_bind_congr_left (ih ?_)
      simpa only [levels, descend_of_returned hstart, Descent.arrive_within] using h
  | service i inside book ih =>
      simp only [around]
      refine i.run_call_congr fun o r w₁ hstart => Exec.run_bind_congr_left (ih ?_)
      simpa only [levels, descend_of_returned hstart, Descent.arrive_within] using h

/-- A tower panics if the delegate panics where the descent arrives. -/
theorem run_around_panicked {α : Type} (t : Tower σ φ α) {delegate : Request → Exec σ φ}
    (h : ((descend c t.levels request w).arrive c delegate).1 = .panicked message) :
    ((t.around delegate request).run c w).1 = .panicked message := by
  induction t generalizing request w with
  | bare =>
      simp only [levels, descend, Descent.arrive] at h
      simp only [around, h]
  | interceptor i inside conclude ih =>
      simp only [around]
      rcases hstart : (i.start request).run c (Route.openScope.run c w).2 with
        ⟨⟨o, r⟩ | message', w₁⟩
      · simp only [levels, descend_of_returned hstart, Descent.arrive_within] at h
        exact i.intercept_panics hstart (Exec.bind_panics (ih h))
      · simp only [levels, descend_of_panicked hstart, Descent.arrive] at h
        cases h
        exact i.exchange_panics hstart
  | service i inside book ih =>
      simp only [around]
      rcases hstart : (i.start request).run c (Route.openScope.run c w).2 with
        ⟨⟨o, r⟩ | message', w₁⟩
      · simp only [levels, descend_of_returned hstart, Descent.arrive_within] at h
        exact i.call_panics hstart (Exec.bind_panics (ih h))
      · simp only [levels, descend_of_panicked hstart, Descent.arrive] at h
        cases h
        exact i.exchange_panics hstart

end Tower

/-! ### What is claimed on the way -/

/-- Between two exchanges that are begun one inside the other, one claim was made. -/
theorem routes_of_dispatch (hclock : i.registry.now.LeavesRoutes)
    (h : (i.start request).run c (Route.openScope.run c w).2 = (.returned (o, r), w₁)) :
    ((o.dispatch.run c w₁).2.thread c.thread).routes =
      (w.thread c.thread).routes.afterClaim request.uri := by
  have hroutes : (((i.start request).run c (Route.openScope.run c w).2).2.thread c.thread).routes =
      ((Route.openScope.run c w).2.thread c.thread).routes.afterClaim request.uri :=
    i.routes_of_start hclock
  rw [h, Route.routes_openScope] at hroutes
  exact hroutes

/-- The request comes down as it was but for the headers. -/
theorem descend_request (is : List (LiveInstrumentation σ)) (request : Request) (w : World σ) :
    (descend c is request w).request =
      { request with headers := (descend c is request w).request.headers } := by
  induction is generalizing request w with
  | nil => rfl
  | cons i is ih =>
      rcases hstart : (i.start request).run c (Route.openScope.run c w).2 with
        ⟨⟨o, r⟩ | message, w₁⟩
      · rw [descend_of_returned hstart]
        have hinside := ih r (o.dispatch.run c w₁).2
        rw [i.handedOn_of_start hstart] at hinside ⊢
        exact hinside
      · rw [descend_of_panicked hstart]

/-- An exchange has the template attached to the request as its route, or else what it finds after
the claims of the exchanges around it. -/
theorem route_of_descend (hclock : ∀ i ∈ is, i.registry.now.LeavesRoutes) {k : Nat}
    (h : (descend c is request w).begun[k]? = some o) :
    o.request.route = (request.route <|>
      (((w.thread c.thread).routes.afterClaims request.uri k).claim request.uri).map
        (·.1.template)) := by
  induction is generalizing request w k with
  | nil => cases h
  | cons i is ih =>
      rcases hstart : (i.start request).run c (Route.openScope.run c w).2 with
        ⟨⟨o', r⟩ | message, w₁⟩
      · rw [descend_of_returned hstart] at h
        cases k with
        | zero =>
            obtain rfl := Option.some.inj h
            rw [i.route_of_start hstart, Route.routes_openScope]
            rfl
        | succ k =>
            have hroute := ih (fun j hj => hclock j (List.mem_cons_of_mem i hj)) h
            have hr := i.handedOn_of_start hstart
            rw [routes_of_dispatch (hclock i List.mem_cons_self) hstart, hr] at hroute
            exact hroute
      · rw [descend_of_panicked hstart] at h
        cases h

/-- If the request gets through, every exchange has begun and has made its claim. -/
theorem claims_of_descend (hclock : ∀ i ∈ is, i.registry.now.LeavesRoutes)
    (h : (descend c is request w).panic = none) :
    (descend c is request w).begun.length = is.length ∧
      ((descend c is request w).world.thread c.thread).routes =
        (w.thread c.thread).routes.afterClaims request.uri is.length := by
  induction is generalizing request w with
  | nil => exact ⟨rfl, rfl⟩
  | cons i is ih =>
      rcases hstart : (i.start request).run c (Route.openScope.run c w).2 with
        ⟨⟨o, r⟩ | message, w₁⟩
      · rw [descend_of_returned hstart] at h ⊢
        obtain ⟨hlength, hroutes⟩ := ih (fun j hj => hclock j (List.mem_cons_of_mem i hj)) h
        have huri : r.uri = request.uri := by rw [i.handedOn_of_start hstart]
        rw [routes_of_dispatch (hclock i List.mem_cons_self) hstart, huri] at hroutes
        constructor
        · exact congrArg (· + 1) hlength
        · exact hroutes
      · rw [descend_of_panicked hstart] at h
        cases h

/-- The request gets through unless a clock panics. -/
theorem clock_of_descend (h : (descend c is request w).panic = some message) :
    ∃ i ∈ is, ∃ w₁ w₂, i.registry.now.run c w₁ = (.panicked message, w₂) := by
  induction is generalizing request w with
  | nil => cases h
  | cons i is ih =>
      rcases hstart : (i.start request).run c (Route.openScope.run c w).2 with
        ⟨⟨o, r⟩ | message', w₁⟩
      · rw [descend_of_returned hstart] at h
        obtain ⟨j, hj, hnow⟩ := ih h
        exact ⟨j, List.mem_cons_of_mem i hj, hnow⟩
      · rw [descend_of_panicked hstart] at h
        obtain rfl := Option.some.inj h
        exact ⟨i, List.mem_cons_self, i.clock_of_start_panicked hstart⟩

end

/-! ### The routes of a tower -/

/-- What is guaranteed of a tower that is given a request while the route stack of the thread
is `s`, if the request comes down as `d` says. -/
structure Stacked {α : Type} (t : Tower σ φ α) (request : Request) (c : Context) (w : World σ)
    (s : Route.Stack) (d : Descent σ) : Prop where
  /-- The delegate is asked for nothing but the request that came down, in the world that it came
  down to; all else is the same for two delegates that come to the same there. -/
  alike : ∀ delegate delegate', d.arrive c delegate = d.arrive c delegate' →
    (t.around delegate request).run c w = (t.around delegate' request).run c w
  /-- And it is asked: if it panics, then everything around it does. -/
  panics : ∀ delegate message, (d.arrive c delegate).1 = .panicked message →
    ((t.around delegate request).run c w).1 = .panicked message
  /-- The request that came down is the caller's but for the headers. -/
  handed : d.request = { request with headers := d.request.headers }
  /-- The route of every exchange is the template attached to the request, and if there is none,
  that of the entry whose place in the order of preference is the place of the exchange. -/
  routes : ∀ (k : Nat) (o : Observation), d.begun[k]? = some o →
    o.request.route = (request.route <|> ((s.order request.uri)[k]?).map (·.template))
  /-- If the request gets through, all exchanges began, and on the stack there is left what they
  did not claim, in the order in which it was. -/
  claims : d.panic = none → d.begun.length = t.levels.length ∧
    (d.world.thread c.thread).routes =
      { s with entries := s.entries.diff ((s.order request.uri).take t.levels.length) }
  /-- The request gets through unless a clock panics. -/
  clock : ∀ message, d.panic = some message →
    ∃ i ∈ t.levels, ∃ w₁ w₂, i.registry.now.run c w₁ = (.panicked message, w₂)

/-- Any number of interceptors and measured services, wrapped around one another in any way, serve
their exchanges one after the other, from the outermost to the innermost, with the entries of the
route stack in the order of preference. A template that is attached to the request changes their
routes, but not what is claimed. -/
theorem Tower.stacked {α : Type} (t : Tower σ φ α)
    (hclock : ∀ i ∈ t.levels, i.registry.now.LeavesRoutes) (request : Request) (c : Context)
    (w : World σ) :
    Stacked t request c w (w.thread c.thread).routes (descend c t.levels request w) := by
  refine ⟨fun _ _ => t.run_around_congr, fun _ _ => t.run_around_panicked,
    descend_request t.levels request w, ?_, ?_, fun _ => clock_of_descend⟩
  · intro k o h
    rw [route_of_descend hclock h, ← Route.Stack.claim_afterClaims, Option.map_map]
    rfl
  · intro h
    obtain ⟨hlength, hroutes⟩ := claims_of_descend hclock h
    rw [Route.Stack.afterClaims_eq] at hroutes
    exact ⟨hlength, hroutes⟩

/-! ### A tower of three -/

/-- A delegate in an interceptor, in a measured service, in another interceptor, which polls the
future of the service. -/
def threeLevels : Tower Unit Result Result :=
  .interceptor (.plain false)
    (.service (.plain true) (.interceptor (.plain false) .bare pure) pure)
    fun flight => do
      let _ ← flight.poll (.plain true) ⟨fun result => pure (.done result), fun _ => pure ()⟩
      pure flight.inner

/-- A stack with an entry for the next page of a host's root, one for the root itself, and one for
another path. -/
def threeEntries : Route.Stack where
  entries := [
    ⟨2, "/?page=\x7bpage\x7d", some ⟨some "http", some "example.com", "/", some "page=2"⟩⟩,
    ⟨1, "/rooms", some ⟨some "http", some "example.com", "/rooms", none⟩⟩,
    ⟨0, "/", some ⟨some "http", some "example.com", "/", none⟩⟩]
  next := 3

/-- The outermost of three exchanges for the root of a host is served with the entry for it, the
next one with that for a page, and the third with none; the entry for another path is left. -/
theorem stacked_threeLevels :
    let w := World.setThread { shared := () } 0 { routes := threeEntries }
    let d := descend { thread := 0 } threeLevels.levels .plain w
    (∀ i ∈ threeLevels.levels, i.registry.now.LeavesRoutes) ∧
      Stacked threeLevels .plain { thread := 0 } w (w.thread 0).routes d ∧
      d.begun.map (·.request.route) = [some "/", some "/?page=\x7bpage\x7d", none] ∧
      (d.world.thread 0).routes.entries.map (·.template) = ["/rooms"] := by
  have hclock : ∀ i ∈ threeLevels.levels, i.registry.now.LeavesRoutes := by
    intro i hi
    simp only [threeLevels, Tower.levels, List.mem_cons, List.not_mem_nil, or_false] at hi
    rcases hi with rfl | rfl | rfl <;> exact fun _ _ => rfl
  refine ⟨hclock, threeLevels.stacked hclock .plain _ _, ?_, ?_⟩
  · decide +kernel
  · decide +kernel

end ExchangeMetrics
