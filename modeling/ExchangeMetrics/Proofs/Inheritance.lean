import ExchangeMetrics.Proofs.Keeping
import ExchangeMetrics.Proofs.Program
import ExchangeMetrics.Proofs.Propagation

/-!
# What programs inherit from their parts

Programs are made of few things: single actions, composition, the handling of panics, expansions
and exchanges. A property of computations that all of these have, and that passes from the parts
of a computation to the whole, holds of every program. Recordings, and the futures of measured
services, need no thought of their own, since they are composed of the others.

## Main results

* `Exec.Composes.of_keeps`: which rules give such properties.
* `Exec.Inherited.intercept`, `Exec.Inherited.call`, `Exec.Composes.poll`,
  `Exec.Composes.drop`: the operations have them.
* `Program.inherits`: what every program inherits.
-/

namespace ExchangeMetrics

/-- Whether an event is only a remark: it is about neither scopes nor the route stack, and it
begins no exchange. -/
def Event.isRemark : Event → Bool
  | scopeOpened | scopeClosed | captured .. | bound .. | discarded _ | claimed .. | cleared
  | started .. => false
  | _ => true

variable {σ : Type}

/-- A property that computations have which have nothing to do with threads, and that passes to
what is composed of them. -/
structure Exec.Composes (Q : ∀ {α : Type}, Exec σ α → Prop) : Prop where
  pure : ∀ {α : Type} (a : α), Q (Pure.pure a : Exec σ α)
  panic : ∀ {α : Type} (message : String), Q (Exec.panic message : Exec σ α)
  bind : ∀ {α β : Type} {m : Exec σ α} {f : α → Exec σ β}, Q m → (∀ a, Q (f a)) → Q (m >>= f)
  guarded : ∀ {α : Type} {m : Exec σ α}, Q m → Q m.guarded
  onPanic : ∀ {α : Type} {m : Exec σ α} {cleanup : Exec σ Unit},
    Q m → Q cleanup → Q (m.onPanic cleanup)
  context : Q (Exec.context : Exec σ Context)
  access : ∀ {α : Type} (f : σ → α × σ), Q (Exec.access f)
  propagated : Q (Exec.propagated : Exec σ (List (String × String)))
  setPropagated : ∀ headers, Q (Exec.setPropagated headers : Exec σ Unit)
  /-- An action that only writes a remark into the journal. -/
  remark : ∀ {e : Event}, e.isRemark = true → Q (Exec.note e : Exec σ Unit)

/-- A property that passes from the parts of a program to the program. -/
structure Exec.Inherited (Q : ∀ {α : Type}, Exec σ α → Prop) : Prop extends Exec.Composes Q where
  depth : Q (Route.depth : Exec σ Nat)
  clear : Q (Route.clear : Exec σ Unit)
  expand : ∀ {handler : TemplateHandler σ} {template : String} {vars : Variables},
    Q (handler template vars) → Q (handler.capturing template vars)
  /-- A scope in which an exchange begins and something else follows. -/
  exchange : ∀ {α : Type} {i : LiveInstrumentation σ} {request : Request}
    {go : Observation × Request → Exec σ α},
    Q i.registry.now → (∀ r, Q (go r)) → Q (Route.inScope (i.start request >>= go))

/-- The clock, the registry and the tags provider of an instrumentation have a property. -/
structure Instrumentation.Consists (Q : ∀ {α : Type}, Exec σ α → Prop)
    (i : LiveInstrumentation σ) : Prop where
  /-- Reading the clock. -/
  now : Q i.registry.now
  /-- Giving the registry an observation. -/
  record : ∀ timer tags elapsed, Q (i.registry.record timer tags elapsed)
  /-- Asking the tags provider. -/
  provider : ∀ view reply, Q (i.provider view reply)

/-- The plain instrumentation has every property that computations have which only return. -/
theorem Instrumentation.plain_consists {Q : ∀ {α : Type}, Exec σ α → Prop} {propagates : Bool}
    (hpure : ∀ {α : Type} (a : α), Q (Pure.pure a : Exec σ α)) :
    (Instrumentation.plain propagates).Consists Q where
  now := hpure _
  record _ _ _ := hpure _
  provider _ _ := hpure _

/-! ### Properties given by rules -/

/-- A computation keeps a rule, and however it ends, its account is as good as before. -/
def Exec.Restores {α G : Type} (rule : Rule σ G) (R : G → G → Prop) (m : Exec σ α) : Prop :=
  ∀ g, m.Keeps rule g (fun _ => R g) (R g)

namespace Exec

variable {G : Type} {rule : Rule σ G} {R : G → G → Prop}

/-- An action keeps a rule that changes nothing about threads and writes nothing into the
journal. -/
theorem restores_quietly {α : Type} (hrefl : ∀ g, R g g)
    (hquietly : ∀ {t w w' g}, (∀ u, w'.thread u = w.thread u) → w'.journal = w.journal →
      rule t w g w' g)
    {f : Context → World σ → α × World σ} (ht : ∀ c w u, (f c w).2.thread u = w.thread u)
    (hj : ∀ c w, (f c w).2.journal = w.journal) : (atomically f).Restores rule R :=
  fun g c w => ⟨g, hquietly (ht c w) (hj c w), hrefl g⟩

/-- If actions that change nothing about threads keep a rule, so does what is composed of them. -/
theorem Composes.of_keeps (hrefl : ∀ g, R g g)
    (htrans : ∀ {g₁ g₂ g₃}, R g₁ g₂ → R g₂ g₃ → R g₁ g₃)
    (hquietly : ∀ {t w w' g}, (∀ u, w'.thread u = w.thread u) → w'.journal = w.journal →
      rule t w g w' g)
    (hremark : ∀ {t w g} {e : Event}, e.isRemark = true → rule t w g (w.note t e) g) :
    Composes (Restores (σ := σ) rule R) where
  pure _ g := keeps_pure (hrefl g)
  panic _ g := keeps_panic (hrefl g)
  bind hm hf g := by
    refine Keeps.bind ((hm g).mono (fun a g' hg' => ?_) fun _ hg' => hg')
    exact (hf a g').mono (fun _ _ => htrans hg') fun _ => htrans hg'
  guarded hm g := Keeps.guarded ((hm g).mono (fun _ _ hg' => hg') fun _ hg' _ => hg')
  onPanic hm hc g := by
    refine Keeps.onPanic ((hm g).mono (fun _ _ hg' => hg') fun g' hg' => ?_)
    exact (hc g').mono (fun _ _ => htrans hg') fun _ => htrans hg'
  context := restores_quietly hrefl hquietly (fun _ _ _ => rfl) fun _ _ => rfl
  access _ := restores_quietly hrefl hquietly (fun _ _ _ => rfl) fun _ _ => rfl
  propagated := restores_quietly hrefl hquietly (fun _ _ _ => rfl) fun _ _ => rfl
  setPropagated _ := restores_quietly hrefl hquietly (fun _ _ _ => rfl) fun _ _ => rfl
  remark he g _ _ := ⟨g, hremark he, hrefl g⟩

end Exec

/-! ### The operations -/

section

variable {Q : ∀ {α : Type}, Exec σ α → Prop} {i : LiveInstrumentation σ} {o : Observation}

namespace Exec.Composes

/-- Running something last is composed of guarding, going on and giving the ending back. -/
theorem andThen {α : Type} {m : Exec σ α} {last : Exec σ Unit} (hQ : Composes Q) (hm : Q m)
    (hl : Q last) : Q (m.andThen last) := by
  refine hQ.bind (hQ.guarded hm) fun e => hQ.bind hl fun _ => ?_
  cases e with
  | returned a => exact hQ.pure a
  | panicked message => exact hQ.panic message

/-- Reading the clock of a registry is reading its clock, and noting it. -/
theorem read (hQ : Composes Q) {registry : MeterRegistry σ} (hnow : Q registry.now) :
    Q registry.read :=
  hQ.bind hnow fun reading => hQ.bind (hQ.remark rfl) fun _ => hQ.pure reading

/-- Asking for the offers is asking the propagator, or nothing. -/
theorem offers (hQ : Composes Q) : Q i.offers := by
  rw [Instrumentation.offers]
  cases i.propagates with
  | true => exact hQ.propagated
  | false => exact hQ.pure []

/-- What a propagator skips is only remarked upon. -/
theorem skipped (hQ : Composes Q) (skipped : List (String × MetricsError)) :
    Q (skipped.forM fun s => (Exec.note (.headerSkipped s.1 s.2) : Exec σ Unit)) := by
  induction skipped with
  | nil => exact hQ.pure ()
  | cons s skipped ih => exact hQ.bind (hQ.remark rfl) fun _ => ih

/-- Beginning an exchange is composed of claiming, asking, reading the clock and numbering. -/
theorem start (hQ : Composes Q) {request : Request}
    (hclaim : Q (Route.claim request.uri : Exec σ (Option String)))
    (hnew : ∀ view, Q (newExchange view : Exec σ ExchangeId)) (hnow : Q i.registry.now) :
    Q (i.start request) := by
  rw [Instrumentation.start_eq]
  refine hQ.bind hclaim fun captured => hQ.bind hQ.offers fun offers => ?_
  refine hQ.bind (hQ.skipped _) fun _ => hQ.bind (hQ.read hnow) fun begun => ?_
  exact hQ.bind (hnew _) fun exchange => hQ.pure _

/-- Deriving tags is asking the provider, guarded. -/
theorem tags (hQ : Composes Q) (hi : i.Consists Q) (reply : Reply) : Q (o.tags i reply) := by
  refine hQ.bind (hQ.guarded (hi.provider o.request reply)) fun e => ?_
  cases e <;> exact hQ.pure _

/-- Submitting an observation is reading the clock and asking the registry, guarded. -/
theorem submit (hQ : Composes Q) (hi : i.Consists Q) (tags : Tags) : Q (o.submit i tags) := by
  have hanswer (elapsed : Duration) :
      Q ((i.registry.onBehalfOf o.exchange).observe i.timer tags elapsed) := by
    refine hQ.bind (hQ.remark rfl) fun _ => hQ.bind (hQ.remark rfl) fun _ => ?_
    refine hQ.bind (hi.record _ _ _) fun answer => ?_
    exact hQ.bind (hQ.remark rfl) fun _ => hQ.pure answer
  have hstop : Q (o.sample.stop (i.registry.onBehalfOf o.exchange) i.timer tags) := by
    refine hQ.bind (hQ.read hi.now) fun reading => hQ.bind (hanswer _) fun answer => ?_
    cases answer <;> exact hQ.pure _
  refine hQ.bind (hQ.guarded hstop) fun e => ?_
  cases e <;> exact hQ.pure _

/-- Recording is deriving tags and submitting, with remarks in between. -/
theorem record (hQ : Composes Q) (hi : i.Consists Q) (reply : Reply) : Q (o.record i reply) := by
  refine hQ.bind (hQ.remark rfl) fun _ => hQ.bind ?_ fun _ => hQ.remark rfl
  refine hQ.bind (hQ.tags hi reply) fun tags => hQ.bind (hQ.remark rfl) fun _ => ?_
  cases tags with
  | error reason => exact hQ.pure _
  | ok tags =>
      refine hQ.bind (hQ.submit hi tags) fun answer => ?_
      cases answer <;> exact hQ.pure _

/-- Concluding an exchange that has a result is recording it, unless its error gives no text. -/
theorem complete (hQ : Composes Q) (hi : i.Consists Q) (result : Result) :
    Q (o.complete i result) := by
  refine hQ.bind (hQ.remark rfl) fun _ => ?_
  rcases result with failure | response
  · refine hQ.bind (hQ.bind ?_ fun _ => hQ.pure _) fun _ => hQ.record hi _
    cases failure.display with
    | text s => exact hQ.pure s
    | fails => exact hQ.panic _
    | panics message => exact hQ.panic message
  · exact hQ.record hi _

/-- Concluding an exchange that has no result is recording it. -/
theorem forsake (hQ : Composes Q) (hi : i.Consists Q) (how : Departure) : Q (o.forsake i how) :=
  hQ.bind (hQ.remark rfl) fun _ => hQ.bind hQ.context fun _ => hQ.record hi _

/-- What is left to do when an exchange ends is a remark. -/
theorem lastly {α : Type} {m : Exec σ α} (hQ : Composes Q) (hm : Q m) : Q (o.lastly m) :=
  hQ.andThen hm (hQ.remark rfl)

variable {φ : Type} {futures : Futures σ φ}

/-- Polling is polling the future inside, and concluding the exchange if that is done. -/
theorem poll (hQ : Composes Q) (hi : i.Consists Q) (flight : Flight φ)
    (hpoll : Q (futures.poll flight.inner)) : Q (flight.poll i futures) := by
  refine hQ.bind (hQ.onPanic hpoll (hQ.lastly (hQ.forsake hi _))) fun result => ?_
  cases result with
  | pending future => exact hQ.pure _
  | done result =>
      exact hQ.lastly (hQ.bind (hQ.complete hi result) fun _ => hQ.pure _)

/-- Dropping is dropping the future inside, and concluding the exchange. -/
theorem drop (hQ : Composes Q) (hi : i.Consists Q) (flight : Flight φ)
    (hdrop : Q (futures.drop flight.inner)) : Q (flight.drop i futures) := by
  refine hQ.lastly (hQ.bind (hQ.onPanic hdrop (hQ.forsake hi _)) fun _ => ?_)
  exact hQ.forsake hi _

/-- An interceptor has every property that a scope has in which an exchange begins, if what follows
in the scope is composed of the delegate and of the parts of the instrumentation. -/
theorem intercept (hQ : Composes Q) (hi : i.Consists Q) {P : Exec σ Result → Prop}
    {request : Request} (hexchange : ∀ {go : Observation × Request → Exec σ Result},
      (∀ r, Q (go r)) → P (Route.inScope (i.start request >>= go)))
    {delegate : Request → Exec σ Result} (hd : ∀ request, Q (delegate request)) :
    P (i.intercept request delegate) := by
  refine hexchange fun r => hQ.lastly (hQ.bind (hQ.remark rfl) fun _ => ?_)
  refine hQ.bind (hQ.onPanic (hd r.2) (hQ.forsake hi _)) fun result => ?_
  exact hQ.bind (hQ.complete hi result) fun _ => hQ.pure result

/-- So has the call of a measured service. -/
theorem call (hQ : Composes Q) (hi : i.Consists Q) {P : Exec σ (Flight φ) → Prop}
    {request : Request} (hexchange : ∀ {go : Observation × Request → Exec σ (Flight φ)},
      (∀ r, Q (go r)) → P (Route.inScope (i.start request >>= go)))
    {inner : Request → Exec σ φ} (hinner : ∀ request, Q (inner request)) :
    P (i.call inner request) := by
  refine hexchange fun r => hQ.bind (hQ.remark rfl) fun _ => ?_
  refine hQ.bind (hQ.onPanic (hinner r.2) ?_) fun _ => hQ.pure _
  exact hQ.lastly (hQ.forsake hi _)

end Exec.Composes

namespace Exec.Inherited

/-- An interceptor inherits what its delegate and its instrumentation have. -/
theorem intercept (hQ : Inherited Q) (hi : i.Consists Q) (request : Request)
    {delegate : Request → Exec σ Result} (hd : ∀ request, Q (delegate request)) :
    Q (i.intercept request delegate) :=
  hQ.toComposes.intercept hi (fun hgo => hQ.exchange hi.now hgo) hd

/-- So does the call of a measured service. -/
theorem call {φ : Type} (hQ : Inherited Q) (hi : i.Consists Q) (request : Request)
    {inner : Request → Exec σ φ} (hinner : ∀ request, Q (inner request)) :
    Q (i.call inner request) :=
  hQ.toComposes.call hi (fun hgo => hQ.exchange hi.now hgo) hinner

end Exec.Inherited

/-! ### Programs -/

/-- Every program has what programs inherit from their parts. -/
theorem Program.inherits {kept : σ → Multiset Observation} {α : Type}
    {own : Multiset Observation} {m : Exec σ α} {gives : α → Multiset Observation}
    (hQ : Exec.Inherited Q) (h : Program kept own m gives) : Q m := by
  induction h with
  | pure a gives => exact hQ.pure a
  | panic message gives => exact hQ.panic message
  | bind _ _ ihm ihf => exact hQ.bind ihm ihf
  | guarded _ held ihm => exact hQ.guarded ihm
  | onPanic _ _ ihm ihc => exact hQ.onPanic ihm ihc
  | context own => exact hQ.context
  | access f _ => exact hQ.access f
  | propagated own => exact hQ.propagated
  | setPropagated own headers => exact hQ.setPropagated headers
  | @aside own event he =>
      refine hQ.remark ?_
      cases event <;> first | rfl | exact he.elim
  | depth own => exact hQ.depth
  | clear own => exact hQ.clear
  | expand _ ihh => exact hQ.expand ihh
  | intercept request _ _ _ _ hnow hrecord hprovider hd =>
      exact hQ.intercept ⟨hnow, hrecord, hprovider⟩ request hd
  | call request _ _ _ _ _ hnow hrecord hprovider hinner =>
      exact hQ.call ⟨hnow, hrecord, hprovider⟩ request hinner
  | poll flight _ _ _ _ _ hnow hrecord hprovider hpoll =>
      exact hQ.toComposes.poll ⟨hnow, hrecord, hprovider⟩ flight hpoll
  | drop flight _ _ _ _ _ hnow hrecord hprovider hdrop =>
      exact hQ.toComposes.drop ⟨hnow, hrecord, hprovider⟩ flight hdrop

end

end ExchangeMetrics
