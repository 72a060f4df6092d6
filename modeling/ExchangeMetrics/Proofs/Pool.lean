import ExchangeMetrics.Exec.Basic

/-!
# Threads side by side

A `Pool` is a world and the computations that threads have still to run on it. In a step one of
the threads takes its next action; any thread may be the next to do so, so the runs of a pool
are all the interleavings of what its threads do.

## Main results

* `Pool.Reaches.invariant`: what holds at first and is kept by every step holds throughout.
* `Pool.reaches_run`: a thread that is left alone ends as `Exec.run` says.
-/

namespace ExchangeMetrics

variable {σ : Type}

/-- Threads that act on one world; the thread known by the number `t` is the one at `t`. -/
structure Pool (σ : Type) where
  /-- What the threads act on. -/
  world : World σ
  /-- What each thread has still to run. -/
  threads : List (Exec σ Unit)

namespace Pool

/-- The thread `t` takes its next action. -/
inductive Step (t : ThreadId) (p : Pool σ) : Pool σ → Prop where
  | act {action : Context → World σ → World σ} {next : Context → World σ → Exec σ Unit}
      (h : p.threads[t]? = some (.act action next)) :
      Step t p
        { world := action { thread := t } p.world,
          threads := p.threads.set t (next { thread := t } p.world) }

/-- Some steps lead from one pool to another. -/
inductive Reaches (p : Pool σ) : Pool σ → Prop where
  | refl : Reaches p p
  | step {t : ThreadId} {q r : Pool σ} (h : Reaches p q) (hs : Step t q r) : Reaches p r

/-- What holds at first and is kept by every step holds throughout. -/
theorem Reaches.invariant {p q : Pool σ} {I : Pool σ → Prop} (h : p.Reaches q) (hp : I p)
    (hstep : ∀ t r r', I r → Step t r r' → I r') : I q := by
  induction h with
  | refl => exact hp
  | step _ hs ih => exact hstep _ _ _ ih hs

/-- What is reached from a state that is reached is reached. -/
theorem Reaches.trans {p q r : Pool σ} (h : p.Reaches q) (h' : q.Reaches r) : p.Reaches r := by
  induction h' with
  | refl => exact h
  | step _ hs ih => exact .step ih hs

/-- A thread that is left alone ends as its run does. -/
theorem reaches_run {p : Pool σ} {t : ThreadId} {m : Exec σ Unit}
    (h : p.threads[t]? = some m) :
    p.Reaches
      { world := (m.run { thread := t } p.world).2,
        threads := p.threads.set t (.ended (m.run { thread := t } p.world).1) } := by
  induction m generalizing p with
  | ended e =>
      have hset : p.threads.set t (.ended e) = p.threads := by
        obtain ⟨ht, he⟩ := List.getElem?_eq_some_iff.mp h
        rw [← he, List.set_getElem_self]
      rw [Exec.run_ended, hset]
      exact .refl
  | act action next ih =>
      refine (Reaches.refl.step (.act h)).trans ?_
      obtain ⟨ht, -⟩ := List.getElem?_eq_some_iff.mp h
      have hnext := ih { thread := t } p.world (p :=
        { world := action { thread := t } p.world,
          threads := p.threads.set t (next { thread := t } p.world) })
        (List.getElem?_set_self ht)
      rw [List.set_set] at hnext
      exact hnext

end Pool

end ExchangeMetrics
