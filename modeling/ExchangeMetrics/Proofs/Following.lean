import ExchangeMetrics.Proofs.Pool
import Mathlib.Logic.Function.Basic

/-!
# Computations that follow a protocol

Of a computation that runs beside others more can be said if it may count on them. A `Protocol`
says what a thread may rely on whenever it acts, and what it guarantees in turn, in terms of an
account that is kept of the thread. `Exec.Follows P c m g post` says that `m`, run in the context
`c` with the account `g`, guarantees what it has to in each action, as long as it finds what it
may rely on; and that `post` holds of its end and of the account that it ends with.

## Main results

* `Exec.follows_bind`, `Exec.follows_guarded`, `Exec.Follows.onPanic`, `Exec.Follows.andThen`:
  composed computations follow a protocol if their parts do.
* `Pool.Step.follows`: a step of a pool is an action that follows the protocol.
-/

namespace ExchangeMetrics

/-- What threads rely on and what they guarantee, given the accounts that are kept of them. -/
structure Protocol (σ G : Type) where
  /-- What a thread may rely on when it acts. -/
  relies : ThreadId → G → World σ → Prop
  /-- What an action of a thread guarantees, with the accounts before and after it. -/
  guarantees : ThreadId → World σ → G → World σ → G → Prop

namespace Exec

variable {σ α β G : Type} {P : Protocol σ G} {c : Context} {g : G}

/-- A computation follows a protocol. -/
def Follows (P : Protocol σ G) (c : Context) (m : Exec σ α) (g : G) (post : Ending α → G → Prop) :
    Prop :=
  match m with
  | ended e => post e g
  | act action next => ∀ w, P.relies c.thread g w →
      ∃ g', P.guarantees c.thread w g (action c w) g' ∧ (next c w).Follows P c g' post

/-- The end of a computation that goes on with what it returned. -/
def after (P : Protocol σ G) (c : Context) (f : α → Exec σ β) (post : Ending β → G → Prop) :
    Ending α → G → Prop
  | .returned a, g => (f a).Follows P c g post
  | .panicked message, g => post (.panicked message) g

variable {m : Exec σ α} {post post' : Ending α → G → Prop}

/-- What holds of the end of a computation may be said more weakly. -/
theorem Follows.mono (h : m.Follows P c g post) (hpost : ∀ e g, post e g → post' e g) :
    m.Follows P c g post' := by
  induction m generalizing g with
  | ended e => exact hpost e g h
  | act action next ih =>
      intro w hw
      obtain ⟨g', hguarantees, hnext⟩ := h w hw
      exact ⟨g', hguarantees, ih c w hnext⟩

/-- A single action follows a protocol if it guarantees what it has to, given what it may rely on.
-/
theorem follows_atomically {f : Context → World σ → α × World σ} :
    (atomically f).Follows P c g post ↔ ∀ w, P.relies c.thread g w →
      ∃ g', P.guarantees c.thread w g (f c w).2 g' ∧ post (.returned (f c w).1) g' :=
  Iff.rfl

/-! ### Composed computations -/

/-- A composed computation follows a protocol exactly if its first part does and ends as its second
part needs to begin. -/
theorem follows_bind {f : α → Exec σ β} {post : Ending β → G → Prop} :
    (m >>= f).Follows P c g post ↔ m.Follows P c g (after P c f post) := by
  induction m generalizing g with
  | ended e => cases e <;> rfl
  | act action next ih =>
      rw [act_bind]
      refine forall₂_congr fun w _ => exists_congr fun g' => ?_
      rw [ih c w]

/-- A computation after one that returns. -/
theorem Follows.bind {f : α → Exec σ β} {post : Ending β → G → Prop}
    (h : m.Follows P c g (after P c f post)) : (m >>= f).Follows P c g post :=
  follows_bind.mpr h

/-- A guarded computation follows a protocol exactly if the computation does, and it always returns.
-/
theorem follows_guarded {post : Ending (Ending α) → G → Prop} :
    m.guarded.Follows P c g post ↔ m.Follows P c g fun e => post (.returned e) := by
  induction m generalizing g with
  | ended e => rfl
  | act action next ih =>
      refine forall₂_congr fun w _ => exists_congr fun g' => ?_
      rw [ih c w]

/-- Running in another context of the same thread makes no difference to what is guaranteed. -/
theorem follows_within {f : Context → Context} (hf : (f c).thread = c.thread) :
    (m.within f).Follows P c g post ↔ m.Follows P (f c) g post := by
  induction m generalizing g with
  | ended e => rfl
  | act action next ih =>
      rw [within, Follows, Follows, hf]
      refine forall₂_congr fun w _ => exists_congr fun g' => ?_
      rw [ih (f c) w]

/-- The end of a computation that cleans up after a panic. -/
def afterCleanup (P : Protocol σ G) (c : Context) (cleanup : Exec σ Unit)
    (post : Ending α → G → Prop) : Ending α → G → Prop
  | .returned a, g => post (.returned a) g
  | .panicked message, g => cleanup.Follows P c.unwound g fun _ => post (.panicked message)

/-- A computation with a cleanup follows a protocol if it does so itself and the cleanup does so
after a panic. -/
theorem Follows.onPanic {cleanup : Exec σ Unit}
    (h : m.Follows P c g (afterCleanup P c cleanup post)) :
    (m.onPanic cleanup).Follows P c g post := by
  induction m generalizing g with
  | ended e =>
      cases e with
      | returned a => exact h
      | panicked message =>
          have hcleanup : cleanup.Follows P c.unwound g fun _ => post (.panicked message) := h
          refine Follows.bind (follows_guarded.mpr ((follows_within rfl).mpr ?_))
          exact hcleanup
  | act action next ih =>
      intro w hw
      obtain ⟨g', hguarantees, hnext⟩ := h w hw
      exact ⟨g', hguarantees, ih c w hnext⟩

/-- What is run in the end may end the computation in another way. -/
def afterLast (post : Ending α → G → Prop) (e : Ending α) : Ending Unit → G → Prop
  | .returned _, g => post e g
  | .panicked message, g => post (.panicked message) g

/-- A computation with something to be run last follows a protocol if both do, whichever way the
first one ends. -/
theorem Follows.andThen {last : Exec σ Unit}
    (h : m.Follows P c g fun e g' => last.Follows P c g' (afterLast post e)) :
    (m.andThen last).Follows P c g post := by
  refine Follows.bind (follows_guarded.mpr (h.mono fun e g' hlast => ?_))
  refine Follows.bind (hlast.mono fun e' g'' hpost => ?_)
  cases e' with
  | returned _ => cases e <;> exact hpost
  | panicked message => exact hpost

end Exec

/-! ### Pools -/

/-- Each thread follows a protocol with an account of its own, and ends with a final one. -/
def Pool.Follows {σ G : Type} (P : Protocol σ G) (final : G → Prop) (p : Pool σ)
    (accounts : ThreadId → G) : Prop :=
  ∀ t (m : Exec σ Unit), p.threads[t]? = some m →
    m.Follows P { thread := t } (accounts t) fun _ => final

/-- Only a thread of the pool takes a step. -/
theorem Pool.Step.lt_length {σ : Type} {p q : Pool σ} {t : ThreadId} (hs : Step t p q) :
    t < p.threads.length := by
  obtain @⟨action, next, hact⟩ := hs
  exact (List.getElem?_eq_some_iff.mp hact).1

/-- A step leaves the number of threads as it is. -/
theorem Pool.Step.length_eq {σ : Type} {p q : Pool σ} {t : ThreadId} (hs : Step t p q) :
    q.threads.length = p.threads.length := by
  obtain @⟨action, next, hact⟩ := hs
  exact List.length_set

/-- A step of a pool is an action of a thread that follows the protocol, if the thread finds what
it relies on. -/
theorem Pool.Step.follows {σ G : Type} {P : Protocol σ G} {final : G → Prop} {p q : Pool σ}
    {t : ThreadId} {accounts : ThreadId → G} (hs : Step t p q) (h : p.Follows P final accounts)
    (hrelies : P.relies t (accounts t) p.world) :
    ∃ g', P.guarantees t p.world (accounts t) q.world g' ∧
      q.Follows P final (Function.update accounts t g') := by
  obtain @⟨action, next, hact⟩ := hs
  obtain ⟨g', hguarantees, hnext⟩ := h t _ hact p.world hrelies
  refine ⟨g', hguarantees, fun u m hm => ?_⟩
  by_cases hu : u = t
  · subst hu
    obtain ⟨ht, -⟩ := List.getElem?_eq_some_iff.mp hact
    rw [List.getElem?_set_self ht] at hm
    obtain rfl := Option.some.inj hm
    rw [Function.update_self]
    exact hnext
  · rw [List.getElem?_set_ne (Ne.symm hu)] at hm
    rw [Function.update_of_ne hu]
    exact h u m hm

end ExchangeMetrics
