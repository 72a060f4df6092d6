import ExchangeMetrics.Proofs.Inheritance
import Mathlib.Algebra.Order.Group.Multiset

/-!
# Scopes and expansions on a thread

The account that is kept of a thread here is its `Nesting`: how many exchange scopes are open on
it, and which expansions of templates have begun without having been bound or discarded. A
`Turn` is what one event makes of the thread and of its nesting.

An operation that has ended has closed every scope that it opened, whichever way it ended; at
most it leaves expansions behind, those whose handlers panicked. Programs are made of such
operations.

## Main results

* `Exec.Restores.inScope`, `TemplateHandler.keeps_capturing`: scopes and expansions.
* `Nesting.composes`: what passes from the parts of a computation to the whole.
* `Program.nested`: every program closes the scopes that it opens.
-/

namespace ExchangeMetrics

/-- How deeply the operations of a thread are nested. -/
structure Nesting where
  /-- The number of scopes open. -/
  scopes : Nat := 0
  /-- The tokens of the expansions that have not ended with a URI or an error. -/
  expanding : Multiset UInt64 := 0

/-- Whether an event is about scopes or the route stack. -/
def Event.isRouting : Event → Bool
  | scopeOpened | scopeClosed | captured .. | bound .. | discarded _ | claimed .. | cleared => true
  | _ => false

/-- A remark is about neither scopes nor the route stack. -/
theorem Event.isRouting_of_isRemark {e : Event} (h : e.isRemark = true) : e.isRouting = false := by
  cases e <;> first | rfl | cases h

/-- What an event makes of the thread on which it happens and of the nesting there. -/
inductive Turn (b : Thread) : Nesting → Event → Thread → Nesting → Prop where
  | opened (n : Nesting) :
      Turn b n .scopeOpened (Route.opened b) { n with scopes := n.scopes + 1 }
  | closed (n : Nesting) :
      Turn b { n with scopes := n.scopes + 1 } .scopeClosed (Route.closed b) n
  | captured (n : Nesting) (template : String) :
      Turn b n (.captured b.routes.next template) { b with routes := b.routes.push template }
        { n with expanding := b.routes.next ::ₘ n.expanding }
  | bound (n : Nesting) (token : UInt64) (uri : Uri) :
      Turn b { n with expanding := token ::ₘ n.expanding } (.bound token uri)
        { b with routes := b.routes.bind token uri } n
  | discarded (n : Nesting) (token : UInt64) :
      Turn b { n with expanding := token ::ₘ n.expanding } (.discarded token)
        { b with routes := b.routes.discard token } n
  | claimed (n : Nesting) {uri : Uri} {entry : Route.Entry} {routes : Route.Stack}
      (h : b.routes.claim uri = some (entry, routes)) :
      Turn b n (.claimed uri (some entry)) { b with routes := routes } n
  | unclaimed (n : Nesting) (uri : Uri) : Turn b n (.claimed uri none) b n
  | cleared (n : Nesting) : Turn b n .cleared { b with routes := b.routes.clear } n
  | other (n : Nesting) {e : Event} (h : e.isRouting = false) : Turn b n e b n

/-- An action leaves other threads alone, and whatever it does to its own it writes into the
journal. -/
def Nesting.rule {σ : Type} : Rule σ Nesting := fun t w n w' n' =>
  (∀ u, u ≠ t → w'.thread u = w.thread u) ∧
    ((w'.journal = w.journal ∧ w'.thread t = w.thread t ∧ n' = n) ∨
      ∃ e, w'.journal = ⟨t, e, w'.thread t⟩ :: w.journal ∧ Turn (w.thread t) n e (w'.thread t) n')

/-- The nesting in which an operation ends that began in another one: all its scopes are closed,
and at most it leaves expansions behind. -/
def Nesting.Recovers (n n' : Nesting) : Prop :=
  n'.scopes = n.scopes ∧ n.expanding ≤ n'.expanding

/-- A nesting is recovered by doing nothing. -/
theorem Nesting.Recovers.refl (n : Nesting) : n.Recovers n :=
  ⟨rfl, le_refl _⟩

/-- What is recovered by one computation and then by another is recovered by both. -/
theorem Nesting.Recovers.trans {n₁ n₂ n₃ : Nesting} (h : n₁.Recovers n₂) (h' : n₂.Recovers n₃) :
    n₁.Recovers n₃ :=
  ⟨h'.1.trans h.1, h.2.trans h'.2⟩

/-- A computation closes the scopes that it opens, whichever way it ends. -/
def Exec.Nested {σ α : Type} (m : Exec σ α) : Prop :=
  ∀ n : Nesting, m.Keeps Nesting.rule n (fun _ => n.Recovers) n.Recovers

namespace Exec

variable {σ α β : Type} {m : Exec σ α}

/-- A nested computation after others. -/
theorem Nested.keeps {n : Nesting} {ret : α → Nesting → Prop} {pan : Nesting → Prop}
    (h : m.Nested) (hret : ∀ a n', n.Recovers n' → ret a n') (hpan : ∀ n', n.Recovers n' → pan n') :
    m.Keeps Nesting.rule n ret pan :=
  (h n).mono hret hpan

/-- A nested computation that goes on nested is nested as a whole. -/
theorem Nested.bind {f : α → Exec σ β} (hm : m.Nested) (hf : ∀ a, (f a).Nested) :
    (m >>= f).Nested := by
  intro n
  refine Keeps.bind (hm.keeps (fun a n' h => ?_) fun n' h => h)
  exact (hf a).keeps (fun _ _ h' => h.trans h') fun _ h' => h.trans h'

/-- A change of what belongs to the thread. -/
theorem keeps_onThread {f : Thread → α × Thread × Event} {n : Nesting}
    {ret : α → Nesting → Prop} {pan : Nesting → Prop}
    (h : ∀ t, ∃ n', Turn t n (f t).2.2 (f t).2.1 n' ∧ ret (f t).1 n') :
    (onThread f : Exec σ α).Keeps Nesting.rule n ret pan := by
  intro c w
  obtain ⟨n', hturn, hret⟩ := h (w.thread c.thread)
  have hself : ((w.setThread c.thread (f (w.thread c.thread)).2.1).note c.thread
      (f (w.thread c.thread)).2.2).thread c.thread = (f (w.thread c.thread)).2.1 := by
    rw [World.thread_note, World.thread_setThread, if_pos rfl]
  refine ⟨n', ⟨fun u hu => ?_, .inr ⟨(f (w.thread c.thread)).2.2, rfl, ?_⟩⟩, hret⟩
  · exact (World.thread_setThread _ _ _ _).trans (if_neg (Ne.symm hu))
  · rw [← hself] at hturn
    exact hturn

end Exec

/-- A computation closes every scope that it opens and concludes every expansion that it begins,
whichever way it ends. -/
def Exec.Settles {σ α : Type} (m : Exec σ α) : Prop :=
  m.Restores Nesting.rule fun n n' => n' = n

/-- A computation that concludes all its expansions is nested. -/
theorem Exec.Settles.nested {σ α : Type} {m : Exec σ α} (h : m.Settles) : m.Nested := by
  intro n
  refine (h n).mono (fun a n' hn => ?_) fun n' hn => ?_
  · exact hn ▸ .refl n
  · exact hn ▸ .refl n

variable {σ α : Type}

/-! ### Scopes and expansions -/

/-- The scope around a computation is closed if the computation closes all others. -/
theorem Exec.Restores.inScope {R : Nesting → Nesting → Prop} {m : Exec σ α}
    (hm : m.Restores Nesting.rule R)
    (hR : ∀ {n n'}, R { n with scopes := n.scopes + 1 } n' →
      ∃ rest : Nesting, n' = { rest with scopes := rest.scopes + 1 } ∧ R n rest) :
    (Route.inScope m).Restores Nesting.rule R := by
  intro n
  refine Exec.Keeps.bind (Exec.keeps_onThread fun t => ⟨_, .opened n, ?_⟩)
  have hclose (n' : Nesting) (h : R { n with scopes := n.scopes + 1 } n') :
      (Route.closeScope : Exec σ Unit).Keeps Nesting.rule n' (fun _ => R n) (R n) := by
    obtain ⟨rest, rfl, hrest⟩ := hR h
    exact Exec.keeps_onThread fun t => ⟨rest, .closed rest, hrest⟩
  exact Exec.Keeps.andThen ((hm _).mono (fun _ => hclose) hclose)

/-- A scope is closed again, whichever way what runs in it ends. -/
theorem Exec.Nested.inScope {m : Exec σ α} (hm : m.Nested) : (Route.inScope m).Nested := by
  refine Exec.Restores.inScope hm fun {n n'} h => ?_
  obtain ⟨scopes, expanding⟩ := n'
  obtain ⟨rfl, hle⟩ := h
  exact ⟨⟨n.scopes, expanding⟩, rfl, rfl, hle⟩

/-- An expansion ends with a URI or an error, which concludes it, or its handler panics. -/
theorem TemplateHandler.keeps_capturing {handler : TemplateHandler σ} {template : String}
    {vars : Variables} {n : Nesting} {ret : Except MetricsError Uri → Nesting → Prop}
    {pan : Nesting → Prop}
    (hh : ∀ token, (handler template vars).Keeps Nesting.rule
      { n with expanding := token ::ₘ n.expanding }
      (fun result n' => ∃ rest : Nesting,
        n' = { rest with expanding := token ::ₘ rest.expanding } ∧ ret result rest) pan) :
    (handler.capturing template vars).Keeps Nesting.rule n ret pan := by
  refine Exec.Keeps.bind (Exec.keeps_onThread fun t => ⟨_, .captured n template, ?_⟩)
  refine Exec.Keeps.bind ((hh _).mono (fun result n' h => ?_) fun _ h => h)
  obtain ⟨rest, rfl, hret⟩ := h
  cases result with
  | ok uri => exact Exec.Keeps.bind (Exec.keeps_onThread fun t => ⟨rest, .bound rest _ uri, hret⟩)
  | error reason =>
      exact Exec.Keeps.bind (Exec.keeps_onThread fun t => ⟨rest, .discarded rest _, hret⟩)

/-- An expansion is nested if its handler is: at most it leaves its own expansion behind, if the
handler panics. -/
theorem TemplateHandler.capturing_nested {handler : TemplateHandler σ} {template : String}
    {vars : Variables} (hh : (handler template vars).Nested) :
    (handler.capturing template vars).Nested := by
  refine fun n => keeps_capturing fun token => hh.keeps (fun result n' h => ?_) fun n' h => ?_
  · obtain ⟨scopes, expanding⟩ := n'
    obtain ⟨rfl, hle⟩ := h
    obtain ⟨stale, rfl⟩ := Multiset.le_iff_exists_add.mp hle
    exact ⟨⟨n.scopes, n.expanding + stale⟩, by rw [Multiset.cons_add], rfl,
      Multiset.le_add_right _ _⟩
  · exact ⟨h.1, le_trans (Multiset.le_cons_self _ _) h.2⟩

/-- A claim opens no scope and begins no expansion. -/
theorem Route.claim_settles (uri : Uri) : (Route.claim uri : Exec σ (Option String)).Settles := by
  refine fun n => Exec.keeps_onThread fun t => ⟨n, ?_, rfl⟩
  cases h : t.routes.claim uri with
  | none => exact .unclaimed n uri
  | some claimed => exact .claimed n h

/-- Nor does clearing the stack. -/
theorem Route.clear_settles : (Route.clear : Exec σ Unit).Settles :=
  fun n => Exec.keeps_onThread fun _ => ⟨n, .cleared n, rfl⟩

/-- Nor does asking for its depth. -/
theorem Route.depth_settles : (Route.depth : Exec σ Nat).Settles :=
  fun n _ _ => ⟨n, ⟨fun _ _ => rfl, .inl ⟨rfl, rfl, rfl⟩⟩, rfl⟩

/-- Nor does numbering an exchange. -/
theorem Exec.settles_newExchange (view : RequestView) :
    (newExchange view : Exec σ ExchangeId).Settles :=
  fun n _ _ => ⟨n, ⟨fun _ _ => rfl, .inr ⟨_, rfl, .other n rfl⟩⟩, rfl⟩

/-! ### Programs -/

/-- What is composed of computations that keep the rule keeps it. -/
theorem Nesting.composes {R : Nesting → Nesting → Prop} (hrefl : ∀ n, R n n)
    (htrans : ∀ {n₁ n₂ n₃}, R n₁ n₂ → R n₂ n₃ → R n₁ n₃) :
    Exec.Composes (Exec.Restores (σ := σ) Nesting.rule R) := by
  refine .of_keeps hrefl htrans ?_ ?_
  · intro t w w' n ht hj
    exact ⟨fun u _ => ht u, .inl ⟨hj, ht t, rfl⟩⟩
  · intro t w n e he
    exact ⟨fun _ _ => rfl, .inr ⟨e, rfl, .other n (Event.isRouting_of_isRemark he)⟩⟩

/-- What is composed of nested computations is nested. -/
theorem Exec.nested_composes : Exec.Composes (@Exec.Nested σ) :=
  Nesting.composes Nesting.Recovers.refl Nesting.Recovers.trans

/-- What is composed of settling computations settles. -/
theorem Exec.settles_composes : Exec.Composes (@Exec.Settles σ) :=
  Nesting.composes (fun _ => rfl) fun h h' => h'.trans h

/-- Beginning an exchange is nested if reading the clock is. -/
theorem Instrumentation.start_nested {i : LiveInstrumentation σ} (request : Request)
    (hnow : i.registry.now.Nested) : (i.start request).Nested :=
  Exec.nested_composes.start (Route.claim_settles request.uri).nested
    (fun view => (Exec.settles_newExchange view).nested) hnow

/-- Expansions and exchanges are nested if their parts are. -/
theorem Exec.nested_inherited : Exec.Inherited (@Exec.Nested σ) where
  toComposes := Exec.nested_composes
  depth := Route.depth_settles.nested
  clear := Route.clear_settles.nested
  expand := TemplateHandler.capturing_nested
  exchange hnow hgo := ((Instrumentation.start_nested _ hnow).bind hgo).inScope

/-- Every program closes the scopes that it opens, whichever way it ends. -/
theorem Program.nested {kept : σ → Multiset Observation} {own : Multiset Observation}
    {m : Exec σ α} {gives : α → Multiset Observation} (h : Program kept own m gives) :
    m.Nested :=
  h.inherits Exec.nested_inherited

end ExchangeMetrics
