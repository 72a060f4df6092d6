import ExchangeMetrics.Exec.Journal
import ExchangeMetrics.Table

/-!
# Computations that may panic

`Exec σ α` is a computation that runs on a thread and acts on a `World`, one action after
another, until it either returns a value or panics with a text. A panic skips everything up to
the place where it is caught, except for the cleanup that `onPanic` attaches to a computation;
while such a cleanup runs the thread is unwinding, and whatever the cleanup runs can tell.

Each action is taken at one go. Between two of them other threads may act on the same world;
`run` is the run of a computation that is left alone.

The world holds what threads have of their own, what is global, a journal, and a part `σ` that
is shared by all threads and left to those who write the computations.

## Main results

* `Exec` is a lawful monad.
* `Exec.run_bind`, `Exec.run_guarded`, `Exec.run_within`, `Exec.run_onPanic_returned` and
  `Exec.run_onPanic_panicked`: how a computation that is left alone runs.
-/

namespace ExchangeMetrics

/-- How a computation ends. -/
inductive Ending (α : Type) where
  /-- It returns a value. -/
  | returned (value : α)
  /-- It panics with a text. -/
  | panicked (message : String)
deriving DecidableEq

/-- The same end with a function applied to the value. -/
def Ending.map {α β : Type} (f : α → β) : Ending α → Ending β
  | returned a => returned (f a)
  | panicked message => panicked message

/-- Changing nothing about the value of an ending leaves the ending as it is. -/
@[simp]
theorem Ending.map_id {α : Type} (e : Ending α) : e.map id = e := by
  cases e <;> rfl

/-- Where a computation runs. -/
structure Context where
  /-- The thread. -/
  thread : ThreadId := 0
  /-- Whether the thread is unwinding, that is, cleaning up after a panic. -/
  unwinding : Bool := false
deriving DecidableEq

/-- The same place while the thread cleans up after a panic. -/
def Context.unwound (c : Context) : Context :=
  { c with unwinding := true }

/-- What computations act on. -/
structure World (σ : Type) where
  /-- What belongs to each thread; a thread that has done nothing yet is not listed. -/
  threads : Table ThreadId Thread := {}
  /-- The number of threads begun besides the first. -/
  spawned : Nat := 0
  /-- The number of exchanges whose measurement has begun. -/
  exchanges : Nat := 0
  /-- The headers that the global propagator offers to every request, in order. -/
  propagated : List (String × String) := []
  /-- What has happened, the newest first. -/
  journal : List Moment := []
  /-- What is shared by all threads. -/
  shared : σ

namespace World

variable {σ : Type}

/-- What belongs to a thread. -/
def thread (w : World σ) (id : ThreadId) : Thread :=
  (w.threads.find? id).getD {}

/-- The world after what belongs to a thread was changed. -/
def setThread (w : World σ) (id : ThreadId) (t : Thread) : World σ :=
  { w with threads := w.threads.insert id t }

/-- The world after something was written into the journal. -/
def note (w : World σ) (id : ThreadId) (event : Event) : World σ :=
  { w with journal := ⟨id, event, w.thread id⟩ :: w.journal }

/-- What belongs to one thread can be set without a change to any other. -/
theorem thread_setThread (w : World σ) (id id' : ThreadId) (t : Thread) :
    (w.setThread id t).thread id' = if id = id' then t else w.thread id' := by
  by_cases h : id = id' <;> simp [thread, setThread, Table.find?_insert, h]

/-- Writing into the journal changes nothing that belongs to a thread. -/
@[simp]
theorem thread_note (w : World σ) (id id' : ThreadId) (event : Event) :
    (w.note id event).thread id' = w.thread id' := rfl

end World

/-- A computation that may panic: it is over, or it has an action still to take. -/
inductive Exec (σ α : Type) : Type where
  /-- It is over. -/
  | ended (e : Ending α)
  /-- It acts on the world, and goes on according to the world that it found. -/
  | act (action : Context → World σ → World σ) (next : Context → World σ → Exec σ α)

namespace Exec

variable {σ α β γ : Type}

/-- Run a computation that is left alone, in a context and from a world. -/
def run : Exec σ α → Context → World σ → Ending α × World σ
  | ended e, _, w => (e, w)
  | act action next, c, w => (next c w).run c (action c w)

/-- Go on with what a computation returns. -/
def andGoOn : Exec σ α → (α → Exec σ β) → Exec σ β
  | ended (.returned a), f => f a
  | ended (.panicked message), _ => ended (.panicked message)
  | act action next, f => act action fun c w => (next c w).andGoOn f

instance : Monad (Exec σ) where
  pure a := ended (.returned a)
  bind := andGoOn

/-- A computation that has returned goes on with its value. -/
@[simp]
theorem ended_bind_returned (a : α) (f : α → Exec σ β) :
    (ended (.returned a) : Exec σ α) >>= f = f a := rfl

/-- A computation that has panicked does not go on. -/
@[simp]
theorem ended_bind_panicked (message : String) (f : α → Exec σ β) :
    (ended (.panicked message) : Exec σ α) >>= f = ended (.panicked message) := rfl

/-- The first action of a computation is the first one of what goes on from it. -/
@[simp]
theorem act_bind (action : Context → World σ → World σ) (next : Context → World σ → Exec σ α)
    (f : α → Exec σ β) :
    act action next >>= f = act action fun c w => next c w >>= f := rfl

instance : LawfulMonad (Exec σ) := by
  refine LawfulMonad.mk' (Exec σ) (fun m => ?_) (fun _ _ => rfl) (fun m f g => ?_)
  · change (m >>= fun a => ended (.returned a)) = m
    induction m with
    | ended e => cases e <;> rfl
    | act action next ih =>
        rw [act_bind]
        exact congrArg (act action) (funext fun c => funext fun w => ih c w)
  · induction m with
    | ended e => cases e <;> rfl
    | act action next ih =>
        simp only [act_bind]
        exact congrArg (act action) (funext fun c => funext fun w => ih c w)

/-- A computation that has ended leaves the world as it is. -/
@[simp]
theorem run_ended (e : Ending α) (c : Context) (w : World σ) :
    (ended e : Exec σ α).run c w = (e, w) := rfl

/-- Returning a value leaves the world as it is. -/
@[simp]
theorem run_pure (a : α) (c : Context) (w : World σ) :
    (pure a : Exec σ α).run c w = (.returned a, w) := rfl

/-- A computation is run to its end, and what goes on from its value after it. -/
theorem run_bind (m : Exec σ α) (f : α → Exec σ β) (c : Context) (w : World σ) :
    (m >>= f).run c w =
      match m.run c w with
      | (.returned a, w') => (f a).run c w'
      | (.panicked message, w') => (.panicked message, w') := by
  induction m generalizing w with
  | ended e => cases e <;> rfl
  | act action next ih => exact ih c w (action c w)

/-- What goes on from a value runs in the world in which the value was returned. -/
theorem run_bind_returned {m : Exec σ α} {f : α → Exec σ β} {c : Context} {w w' : World σ}
    {a : α} (h : m.run c w = (.returned a, w')) : (m >>= f).run c w = (f a).run c w' := by
  rw [run_bind, h]

/-- What would have gone on from a value does not run after a panic. -/
theorem run_bind_panicked {m : Exec σ α} {f : α → Exec σ β} {c : Context} {w w' : World σ}
    {message : String} (h : m.run c w = (.panicked message, w')) :
    (m >>= f).run c w = (.panicked message, w') := by
  rw [run_bind, h]

/-- A composed computation returns exactly if its parts do, one after the other. -/
theorem run_bind_eq_returned {m : Exec σ α} {f : α → Exec σ β} {c : Context} {w w' : World σ}
    {b : β} : (m >>= f).run c w = (.returned b, w') ↔
      ∃ a w₁, m.run c w = (.returned a, w₁) ∧ (f a).run c w₁ = (.returned b, w') := by
  rw [run_bind]
  rcases hm : m.run c w with ⟨a | message, w₁⟩
  · constructor
    · exact fun h => ⟨a, w₁, rfl, h⟩
    · rintro ⟨a', w₂, heq, h⟩
      obtain ⟨ha, rfl⟩ := Prod.mk.inj heq
      obtain rfl := Ending.returned.inj ha
      exact h
  · constructor
    · exact fun h => nomatch h
    · rintro ⟨a, w₂, heq, -⟩
      cases heq

/-- A composition panics in its first part or in its second. -/
theorem run_bind_eq_panicked {m : Exec σ α} {f : α → Exec σ β} {c : Context} {w w' : World σ}
    {message : String} (h : (m >>= f).run c w = (.panicked message, w')) :
    m.run c w = (.panicked message, w') ∨
      ∃ a w₁, m.run c w = (.returned a, w₁) ∧ (f a).run c w₁ = (.panicked message, w') := by
  rw [run_bind] at h
  rcases hm : m.run c w with ⟨a | message', w₁⟩ <;> rw [hm] at h
  · exact .inr ⟨a, w₁, rfl, h⟩
  · obtain ⟨hmessage, rfl⟩ := Prod.mk.inj h
    obtain rfl := Ending.panicked.inj hmessage
    exact .inl rfl

/-- What follows a computation matters only for the values that it returns. -/
theorem run_bind_congr {m : Exec σ α} {f f' : α → Exec σ β} {c : Context} {w : World σ}
    (h : ∀ a w', m.run c w = (.returned a, w') → (f a).run c w' = (f' a).run c w') :
    (m >>= f).run c w = (m >>= f').run c w := by
  rw [run_bind, run_bind]
  rcases hm : m.run c w with ⟨a | message, w₁⟩
  · exact h a w₁ hm
  · rfl

/-! ### Panics -/

/-- Panic with a text. -/
def panic (message : String) : Exec σ α :=
  ended (.panicked message)

/-- Run a computation and catch its panic. -/
def guarded : Exec σ α → Exec σ (Ending α)
  | ended e => ended (.returned e)
  | act action next => act action fun c w => (next c w).guarded

/-- Run a computation in another context than the present one. -/
def within (f : Context → Context) : Exec σ α → Exec σ α
  | ended e => ended e
  | act action next => act (fun c => action (f c)) fun c w => (next (f c) w).within f

/-- Run a computation and, if it panics, a cleanup while the thread unwinds; the panic goes on
afterwards. -/
def onPanic (m : Exec σ α) (cleanup : Exec σ Unit) : Exec σ α :=
  match m with
  | ended (.returned a) => ended (.returned a)
  | ended (.panicked message) => do
      let _ ← (cleanup.within Context.unwound).guarded
      panic message
  | act action next => act action fun c w => (next c w).onPanic cleanup

/-- Run a computation and then, whichever way it ends, another one. -/
def andThen (m : Exec σ α) (last : Exec σ Unit) : Exec σ α := do
  let e ← guarded m
  last
  ended e

/-- Panicking leaves the world as it is. -/
@[simp]
theorem run_panic (message : String) (c : Context) (w : World σ) :
    (panic message : Exec σ α).run c w = (.panicked message, w) := rfl

/-- A guarded computation returns how it ended. -/
theorem run_guarded (m : Exec σ α) (c : Context) (w : World σ) :
    (guarded m).run c w = (.returned (m.run c w).1, (m.run c w).2) := by
  induction m generalizing w with
  | ended e => rfl
  | act action next ih => exact ih c w (action c w)

/-- A computation runs in the changed context throughout. -/
theorem run_within (f : Context → Context) (m : Exec σ α) (c : Context) (w : World σ) :
    (m.within f).run c w = m.run (f c) w := by
  induction m generalizing w with
  | ended e => rfl
  | act action next ih => exact ih (f c) w (action (f c) w)

/-- Nothing is cleaned up after a computation that returns. -/
theorem run_onPanic_returned {m : Exec σ α} {cleanup : Exec σ Unit} {c : Context}
    {w w' : World σ} {a : α} (h : m.run c w = (.returned a, w')) :
    (m.onPanic cleanup).run c w = (.returned a, w') := by
  induction m generalizing w with
  | ended e =>
      rw [run_ended, Prod.mk.injEq] at h
      obtain ⟨rfl, rfl⟩ := h
      rfl
  | act action next ih => exact ih c w h

/-- What is cleaned up after a panic runs while the thread unwinds, and the panic goes on. -/
theorem run_onPanic_panicked {m : Exec σ α} {cleanup : Exec σ Unit} {c : Context}
    {w w' : World σ} {message : String} (h : m.run c w = (.panicked message, w')) :
    (m.onPanic cleanup).run c w =
      (.panicked message, (cleanup.run c.unwound w').2) := by
  induction m generalizing w with
  | ended e =>
      rw [run_ended, Prod.mk.injEq] at h
      obtain ⟨rfl, rfl⟩ := h
      change ((cleanup.within Context.unwound).guarded >>= fun _ => panic message).run c w = _
      rw [run_bind_returned (run_guarded _ c w), run_within, run_panic]
  | act action next ih => exact ih c w h

/-- What comes last runs however the computation before it ended, and keeps that ending unless it
panics itself. -/
theorem run_andThen (m : Exec σ α) (last : Exec σ Unit) (c : Context) (w : World σ) :
    (m.andThen last).run c w =
      match last.run c (m.run c w).2 with
      | (.returned (), w') => ((m.run c w).1, w')
      | (.panicked message, w') => (.panicked message, w') := by
  rw [andThen, run_bind_returned (run_guarded m c w), run_bind]
  rcases last.run c (m.run c w).2 with ⟨_ | _, _⟩ <;> rfl

/-! ### Single actions -/

/-- Look at the world and change it at one go. -/
def atomically (f : Context → World σ → α × World σ) : Exec σ α :=
  act (fun c w => (f c w).2) fun c w => ended (.returned (f c w).1)

/-- A single action returns what it gives, in the world that it leaves. -/
@[simp]
theorem run_atomically (f : Context → World σ → α × World σ) (c : Context) (w : World σ) :
    (atomically f).run c w = (.returned (f c w).1, (f c w).2) := rfl

/-- The context in which the computation runs. -/
def context : Exec σ Context :=
  atomically fun c w => (c, w)

/-- What belongs to the thread. -/
def thread : Exec σ Thread :=
  atomically fun c w => (w.thread c.thread, w)

/-- Change what belongs to the thread, and write into the journal what happened. -/
def onThread (f : Thread → α × Thread × Event) : Exec σ α :=
  atomically fun c w =>
    let r := f (w.thread c.thread)
    (r.1, (w.setThread c.thread r.2.1).note c.thread r.2.2)

/-- Write something into the journal. -/
def note (event : Event) : Exec σ Unit :=
  atomically fun c w => ((), w.note c.thread event)

/-- The headers that the global propagator offers. -/
def propagated : Exec σ (List (String × String)) :=
  atomically fun _ w => (w.propagated, w)

/-- Change the headers that the global propagator offers. -/
def setPropagated (headers : List (String × String)) : Exec σ Unit :=
  atomically fun _ w => ((), { w with propagated := headers })

/-- Number a new exchange, and note that its measurement has begun. -/
def newExchange (request : RequestView) : Exec σ ExchangeId :=
  atomically fun c w =>
    (w.exchanges, { w with exchanges := w.exchanges + 1 }.note c.thread
      (.started w.exchanges request))

/-- What has happened so far, the newest first. -/
def journal : Exec σ (List Moment) :=
  atomically fun _ w => (w.journal, w)

/-- Look at what is shared by all threads and change it. -/
def access (f : σ → α × σ) : Exec σ α :=
  atomically fun _ w => ((f w.shared).1, { w with shared := (f w.shared).2 })

/-- What is shared by all threads. -/
def shared : Exec σ σ :=
  access fun s => (s, s)

/-- Change what is shared by all threads. -/
def setShared (s : σ) : Exec σ Unit :=
  access fun _ => ((), s)

/-- Change what is shared by all threads by a function. -/
def modifyShared (f : σ → σ) : Exec σ Unit :=
  access fun s => ((), f s)

/-! ### Further threads -/

/-- Run a computation on a new thread and wait for its end. -/
def onNewThread (m : Exec σ α) : Exec σ (Ending α) :=
  act (fun _ w => { w with spawned := w.spawned + 1 }) fun _ w =>
    (m.within fun _ => { thread := w.spawned + 1 }).guarded

end Exec

end ExchangeMetrics
