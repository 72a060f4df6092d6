import ExchangeMetrics.Proofs.Pool
import Mathlib.Data.List.Forall2

/-!
# Computations that keep a rule

While a thread runs, an account is kept of it: what it answers for, or how deeply its operations
are nested. A `Rule` says what an action of a thread may do to the world, and what the account
is after it. `Exec.Keeps rule m g ret pan` says that `m` may begin with the account `g` and
keeps the rule in each of its actions, whatever other threads do in between; that the account
satisfies `ret` if `m` returns; and that it satisfies `pan` if `m` panics.

## Main results

* `Exec.keeps_bind`, `Exec.Keeps.guarded`, `Exec.Keeps.within`, `Exec.Keeps.onPanic`,
  `Exec.Keeps.andThen`: composed computations keep a rule if their parts do.
* `Exec.Keeps.translate`: a computation that keeps a rule keeps one that says less.
* `Exec.Keeps.invariant_run`: what every action keeps that keeps the rule holds after a run.
* `Pool.Step.keeps`: a step of a pool is an action that keeps the rule.
-/

namespace ExchangeMetrics

/-- What an action of a thread may do to the world, with the accounts before and after it. -/
abbrev Rule (σ G : Type) : Type :=
  ThreadId → World σ → G → World σ → G → Prop

namespace Exec

variable {σ α β G : Type} {rule : Rule σ G} {m : Exec σ α} {g : G} {pan : G → Prop}

/-- A computation keeps a rule, whatever other threads do between its actions. -/
def Keeps (rule : Rule σ G) (m : Exec σ α) (g : G) (ret : α → G → Prop) (pan : G → Prop) : Prop :=
  match m with
  | ended (.returned a) => ret a g
  | ended (.panicked _) => pan g
  | act action next => ∀ c w, ∃ g',
      rule c.thread w g (action c w) g' ∧ (next c w).Keeps rule g' ret pan

/-- What holds of the account in the end may be said more weakly. -/
theorem Keeps.mono {ret ret' : α → G → Prop} {pan' : G → Prop} (h : m.Keeps rule g ret pan)
    (hret : ∀ a g, ret a g → ret' a g) (hpan : ∀ g, pan g → pan' g) :
    m.Keeps rule g ret' pan' := by
  induction m generalizing g with
  | ended e =>
      cases e with
      | returned a => exact hret a g h
      | panicked message => exact hpan g h
  | act action next ih =>
      intro c w
      obtain ⟨g', hrule, hnext⟩ := h c w
      exact ⟨g', hrule, ih c w hnext⟩

/-! ### Composed computations -/

/-- A computation that only returns keeps any rule. -/
theorem keeps_pure {a : α} {ret : α → G → Prop} (h : ret a g) :
    (pure a : Exec σ α).Keeps rule g ret pan := h

/-- So does one that only panics. -/
theorem keeps_panic {message : String} {ret : α → G → Prop} (h : pan g) :
    (panic message : Exec σ α).Keeps rule g ret pan := h

/-- A composed computation keeps a rule exactly if its first part does and leaves an account with
which the second part does. -/
theorem keeps_bind {f : α → Exec σ β} {ret : β → G → Prop} :
    (m >>= f).Keeps rule g ret pan ↔
      m.Keeps rule g (fun a g => (f a).Keeps rule g ret pan) pan := by
  induction m generalizing g with
  | ended e => cases e <;> rfl
  | act action next ih =>
      rw [act_bind]
      refine forall₂_congr fun c w => exists_congr fun g' => ?_
      rw [ih c w]

/-- A composed computation keeps a rule if its parts do, one after the other. -/
theorem Keeps.bind {f : α → Exec σ β} {ret : β → G → Prop}
    (h : m.Keeps rule g (fun a g => (f a).Keeps rule g ret pan) pan) :
    (m >>= f).Keeps rule g ret pan :=
  keeps_bind.mpr h

/-- A guarded computation keeps a rule if the computation does, and a panic is one of the values
that it returns. -/
theorem Keeps.guarded {ret : Ending α → G → Prop}
    (h : m.Keeps rule g (fun a g => ret (.returned a) g)
      fun g => ∀ message, ret (.panicked message) g) :
    m.guarded.Keeps rule g ret pan := by
  induction m generalizing g with
  | ended e =>
      cases e with
      | returned a => exact h
      | panicked message => exact h message
  | act action next ih =>
      intro c w
      obtain ⟨g', hrule, hnext⟩ := h c w
      exact ⟨g', hrule, ih c w hnext⟩

/-- Running in another context of the same thread makes no difference to a rule. -/
theorem Keeps.within {ret : α → G → Prop} (h : m.Keeps rule g ret pan)
    {f : Context → Context} (hf : ∀ c, (f c).thread = c.thread) :
    (m.within f).Keeps rule g ret pan := by
  induction m generalizing g with
  | ended e => exact h
  | act action next ih =>
      intro c w
      obtain ⟨g', hrule, hnext⟩ := h (f c) w
      rw [hf c] at hrule
      exact ⟨g', hrule, ih (f c) w hnext⟩

/-- A computation with a cleanup keeps a rule if it does so itself and the cleanup does so with the
account that a panic leaves. -/
theorem Keeps.onPanic {cleanup : Exec σ Unit} {ret : α → G → Prop}
    (h : m.Keeps rule g ret fun g => cleanup.Keeps rule g (fun _ => pan) pan) :
    (m.onPanic cleanup).Keeps rule g ret pan := by
  induction m generalizing g with
  | ended e =>
      cases e with
      | returned a => exact h
      | panicked message =>
          have hc : cleanup.Keeps rule g (fun _ => pan) pan := h
          have hw := hc.within (f := Context.unwound) fun _ => rfl
          exact Keeps.bind (Keeps.guarded (hw.mono (fun _ _ hg => hg) fun _ hg _ => hg))
  | act action next ih =>
      intro c w
      obtain ⟨g', hrule, hnext⟩ := h c w
      exact ⟨g', hrule, ih c w hnext⟩

/-- A computation with something to be run last keeps a rule if that does so whichever way the
computation ends. -/
theorem Keeps.andThen {last : Exec σ Unit} {ret : α → G → Prop}
    (h : m.Keeps rule g (fun a g => last.Keeps rule g (fun _ => ret a) pan)
      fun g => last.Keeps rule g (fun _ => pan) pan) :
    (m.andThen last).Keeps rule g ret pan := by
  refine Keeps.bind (Keeps.guarded (h.mono (fun a g hg => ?_) fun g hg message => ?_))
  · exact Keeps.bind (hg.mono (fun _ _ hg' => hg') fun _ hg' => hg')
  · exact Keeps.bind (hg.mono (fun _ _ hg' => hg') fun _ hg' => hg')

/-- A computation keeps another rule as well if each action that keeps the first one keeps the
other, with accounts that are in a relation to those of the first. -/
theorem Keeps.translate {H : Type} (rule' : Rule σ H) (I : G → H → Prop) {h : H}
    {ret : α → G → Prop} (hm : m.Keeps rule g ret pan) (hI : I g h)
    (hstep : ∀ {t w g w' g' h}, rule t w g w' g' → I g h → ∃ h', rule' t w h w' h' ∧ I g' h') :
    m.Keeps rule' h (fun a h' => ∃ g', ret a g' ∧ I g' h') fun h' => ∃ g', pan g' ∧ I g' h' := by
  induction m generalizing g h with
  | ended e => cases e <;> exact ⟨g, hm, hI⟩
  | act action next ih =>
      intro c w
      obtain ⟨g', hrule, hnext⟩ := hm c w
      obtain ⟨h', hrule', hI'⟩ := hstep hrule hI
      exact ⟨h', hrule', ih c w hnext hI'⟩

/-- What every action keeps that keeps the rule holds at the end of a run, if it holds first. -/
theorem Keeps.invariant_run {ret : α → G → Prop} {I : World σ → G → Prop} {c : Context}
    {w : World σ} (h : m.Keeps rule g ret pan) (hI : I w g)
    (hstep : ∀ w g w' g', rule c.thread w g w' g' → I w g → I w' g') :
    ∃ g', I (m.run c w).2 g' := by
  induction m generalizing g w with
  | ended e => exact ⟨g, hI⟩
  | act action next ih =>
      obtain ⟨g', hrule, hnext⟩ := h c w
      exact ih c w hnext (hstep _ _ _ _ hrule hI)

end Exec

/-! ### Pools -/

section

variable {σ G : Type}

/-- The account of a thread is found at its place. -/
theorem forall₂_getElem? {α β : Type} {r : α → β → Prop} {l : List α} {l' : List β}
    (h : List.Forall₂ r l l') {i : Nat} {a : α} (ha : l[i]? = some a) :
    ∃ b, l'[i]? = some b ∧ r a b := by
  induction h generalizing i with
  | nil => cases ha
  | @cons a' b' l l' hab _ ih =>
      cases i with
      | zero =>
          obtain rfl := Option.some.inj ha
          exact ⟨b', rfl, hab⟩
      | succ i => exact ih ha

/-- What is related place by place stays so when one place is changed in both lists. -/
theorem forall₂_set {α β : Type} {r : α → β → Prop} {l : List α} {l' : List β}
    (h : List.Forall₂ r l l') (i : Nat) {a : α} {b : β} (hab : r a b) :
    List.Forall₂ r (l.set i a) (l'.set i b) := by
  induction h generalizing i with
  | nil => exact .nil
  | cons hab' hl ih =>
      cases i with
      | zero => exact .cons hab hl
      | succ i => exact .cons hab' (ih i)

/-- Each thread keeps a rule with an account of its own, and ends with a final one. -/
def Pool.Keeps (rule : Rule σ G) (final : G → Prop) (p : Pool σ) (accounts : List G) : Prop :=
  List.Forall₂ (fun m g => m.Keeps rule g (fun _ => final) final) p.threads accounts

/-- A step of a pool is an action that keeps the rule. -/
theorem Pool.Step.keeps {rule : Rule σ G} {final : G → Prop} {p q : Pool σ} {t : ThreadId}
    {accounts : List G} (hs : Step t p q) (h : p.Keeps rule final accounts) :
    ∃ g g', accounts[t]? = some g ∧ rule t p.world g q.world g' ∧
      q.Keeps rule final (accounts.set t g') := by
  obtain @⟨action, next, hact⟩ := hs
  obtain ⟨g, hg, hkeeps⟩ := forall₂_getElem? h hact
  obtain ⟨g', hrule, hnext⟩ := hkeeps { thread := t } p.world
  exact ⟨g, g', hg, hrule, forall₂_set h t hnext⟩

end

end ExchangeMetrics
