import ExchangeMetrics.Proofs.Delivery
import Mathlib.Algebra.BigOperators.Group.Finset.Basic
import Mathlib.Algebra.BigOperators.Fin

/-!
# The books of threads that run errands

Each thread of a pool has an account with which it follows the protocol of errands. The accounts
and what is shared add up: what was delivered and what is still due of the threads is what was due
of them at first and what became due of the futures since. From this it follows that threads find
what they rely on, so that they keep to the protocol for as long as they run.

## Main results

* `Errand.Audited.sound`: no two futures have the same number, and what is parked is as its
  dealings say.
* `Errand.Audited.step`: a step of any thread keeps the books.
* `Errand.Untouched.audited`: so they are kept in every state that threads running errands can
  reach.
-/

namespace ExchangeMetrics

/-! ### What is due at all -/

/-- Whether a new future of this number is due. -/
def Due.creates (id : FutureId) : Due → Bool
  | creation booking => booking.id = id
  | _ => false

/-- What is due of creating a future is a new future. -/
theorem Due.kind_of_creates {id : FutureId} {x : Due} (h : x.creates id = true) :
    x.kind = .newFuture := by
  cases x <;> first | rfl | cases h

/-- Where only observations are due, no new future is. -/
theorem Due.countP_creates_eq_zero {due : Multiset Due} (h : ∀ x ∈ due, x.kind ≠ .newFuture)
    (id : FutureId) : due.countP (·.creates id = true) = 0 :=
  Multiset.countP_eq_zero.mpr fun x hx hcreates => h x hx (kind_of_creates hcreates)

section

variable {offers : List (String × String)}

/-- No future is due to be put back of a call, only to be created. -/
theorem Gauge.kind_of_mem_called {g : Gauge} {id : FutureId} {label : Nat} {view : RequestView}
    {plan : Ending Plan} {x : Due} (h : x ∈ g.called id label view plan) :
    x.kind ≠ .returnedFuture := by
  cases plan with
  | returned plan =>
      obtain rfl := Multiset.mem_singleton.mp h
      exact nofun
  | panicked message => exact (kind_of_mem_sighting h).trans_ne nofun

namespace Errand

/-- No future is due to be put back of an errand. -/
theorem kind_of_mem_dues {e : Errand} {b : Thread} {x : Due} (h : x ∈ e.dues offers b) :
    x.kind ≠ .returnedFuture := by
  induction e generalizing b with
  | done => exact absurd h (Multiset.notMem_zero x)
  | clear _ ih | poll _ _ ih | drop _ _ _ ih => exact ih h
  | expand template work outcome next ihwork ihnext =>
      rw [dues, Multiset.mem_add] at h
      exact h.elim ihwork ihnext
  | exchange label g request work outcome next ihwork ihnext =>
      simp only [dues, Multiset.mem_add] at h
      rcases h with (h | h) | h
      · exact (Gauge.kind_of_mem_concluded h).trans_ne nofun
      · exact ihwork h
      · exact ihnext h
  | call id label g request work plan next ihwork ihnext =>
      simp only [dues, Multiset.mem_add] at h
      rcases h with (h | h) | h
      · exact Gauge.kind_of_mem_called h
      · exact ihwork h
      · exact ihnext h

/-- The futures that are due of an errand are those that it creates. -/
theorem countP_dues (e : Errand) (b : Thread) (id : FutureId) :
    (e.dues offers b).countP (·.creates id = true) = e.creates.count id := by
  induction e generalizing b with
  | done => rfl
  | clear _ ih | poll _ _ ih | drop _ _ _ ih => exact ih _
  | expand template work outcome next ihwork ihnext =>
      rw [dues, Multiset.countP_add, ihwork, ihnext, creates, List.count_append]
  | exchange label g request work outcome next ihwork ihnext =>
      have hconcluded : (g.concluded label (g.view offers request (b.routeOf request))
          outcome).countP (·.creates id = true) = 0 :=
        Due.countP_creates_eq_zero (fun _ hx => (Gauge.kind_of_mem_concluded hx).trans_ne nofun) id
      rw [dues, Multiset.countP_add, Multiset.countP_add, hconcluded, zero_add, ihwork, ihnext,
        creates, List.count_append]
  | call id' label g request work plan next ihwork ihnext =>
      rw [dues, Multiset.countP_add, Multiset.countP_add, ihwork, ihnext]
      cases plan with
      | returned plan =>
          have hcalled : ({.creation ⟨id', label, g, g.view offers request (b.routeOf request),
              plan⟩} : Multiset Due).countP (·.creates id = true) = if id' = id then 1 else 0 := by
            rw [← Multiset.cons_zero, Multiset.countP_cons, Multiset.countP_zero, zero_add]
            simp only [Due.creates, decide_eq_true_eq]
          rw [Gauge.called, hcalled, creates, List.count_cons, List.count_append]
          simp only [beq_iff_eq]
          omega
      | panicked message =>
          have hcalled : (g.sighting label (g.view offers request (b.routeOf request))
              (.failed .delegatePanicked)).countP (·.creates id = true) = 0 :=
            Due.countP_creates_eq_zero (fun _ hx => (Gauge.kind_of_mem_sighting hx).trans_ne nofun)
              id
          rw [Gauge.called, hcalled, zero_add, creates, List.count_append]

end Errand

/-- No new future becomes due of a future. -/
theorem Commons.kind_of_mem_claims {s : Commons} {x : Due} (h : x ∈ s.claims) :
    x.kind ≠ .newFuture := by
  obtain ⟨v, -, hx⟩ := Multiset.mem_bind.mp h
  rw [Voyage.claims] at hx
  cases hc : v.course with
  | afloat plan =>
      rw [hc] at hx
      obtain rfl := Multiset.mem_singleton.mp hx
      exact ne_of_beq_false rfl
  | landed outcome =>
      rw [hc] at hx
      exact (Gauge.kind_of_mem_concluded hx).trans_ne (by decide)
  | sunk fault =>
      rw [hc] at hx
      exact (Gauge.kind_of_mem_sighting hx).trans_ne (by decide)

end

/-! ### The books of a pool -/

namespace Errand

/-- Threads that run errands. -/
def pool (es : List Errand) (w : World Commons) : Pool Commons :=
  ⟨w, es.map exec⟩

/-- The account with which a thread begins; a thread without an errand has nothing to do. -/
def account (es : List Errand) (w : World Commons) (t : ThreadId) : Standing :=
  let e := es[t]?.getD .done
  ⟨w.thread t, e.turns t (w.thread t), e.dues w.propagated (w.thread t)⟩

/-- What is due of all errands. -/
def owed (es : List Errand) (w : World Commons) : Multiset Due :=
  ∑ t ∈ Finset.range es.length, (account es w t).due

/-- A world in which nothing has been written down and no future has been created. -/
structure Untouched (w : World Commons) : Prop where
  journal : w.journal = []
  sightings : w.shared.sightings = []
  parked : w.shared.parked = []
  voyages : w.shared.voyages = []

/-- The books are kept: each thread has an account, and everything adds up. -/
structure Audited (es : List Errand) (w : World Commons) (accounts : ThreadId → Standing)
    (q : Pool Commons) : Prop where
  /-- The threads follow the protocol of errands. -/
  follows : q.Follows (protocol w.propagated w.shared.store) (fun g => g.ahead = [] ∧ g.due = 0)
    accounts
  /-- There are as many threads as errands. -/
  length : q.threads.length = es.length
  /-- Threads stand as their accounts say. -/
  stand : ∀ t, q.world.thread t = (accounts t).stand
  /-- What happened to a thread and what is ahead of it is what was ahead of it at first. -/
  ahead : ∀ t, (happenings t q.world.journal).reverse ++ (accounts t).ahead = (account es w t).ahead
  /-- Threads stand as they did after what happened to them last. -/
  noted : ∀ t, q.world.thread t = latest (w.thread t) (happenings t q.world.journal)
  /-- The propagator offers what it did at first. -/
  propagated : q.world.propagated = w.propagated
  /-- The store is what the sightings make of it. -/
  tallied : q.world.shared.Tallied w.shared.store
  /-- What was delivered and what is still due is what was due at first and what became due
  since. -/
  balanced : q.world.shared.assets + ∑ t ∈ Finset.range es.length, (accounts t).due =
    owed es w + q.world.shared.claims

variable {es : List Errand} {w : World Commons} {accounts : ThreadId → Standing}
  {q : Pool Commons}

/-- The futures that are due of all errands are those that they create. -/
theorem countP_owed (es : List Errand) (w : World Commons) (id : FutureId) :
    (owed es w).countP (·.creates id = true) = (es.flatMap creates).count id := by
  have hcount (t : Fin es.length) : (account es w t).due.countP (·.creates id = true) =
      es[t].creates.count id := by
    rw [account, countP_dues, List.getElem?_eq_getElem t.isLt]
    rfl
  calc (owed es w).countP (·.creates id = true)
      = ∑ t ∈ Finset.range es.length, (account es w t).due.countP (·.creates id = true) :=
        map_sum (Multiset.countPAddMonoidHom fun x : Due => x.creates id = true) _ _
    _ = ∑ t : Fin es.length, es[t].creates.count id := by
        rw [Finset.sum_range]
        exact Finset.sum_congr rfl fun t _ => hcount t
    _ = (es.map fun e => e.creates.count id).sum :=
        Fin.sum_univ_fun_getElem es fun e => e.creates.count id
    _ = (es.flatMap creates).count id := List.count_flatMap.symm

/-- What is owed is due of some errand. -/
theorem exists_of_mem_owed {x : Due} (h : x ∈ owed es w) :
    ∃ t, ∃ e : Errand, es[t]? = some e ∧ x ∈ e.dues w.propagated (w.thread t) := by
  obtain ⟨t, ht, hx⟩ := Multiset.mem_sum.mp h
  have hget := List.getElem?_eq_getElem (Finset.mem_range.mp ht)
  rw [account, hget] at hx
  exact ⟨t, _, hget, hx⟩

/-- What was delivered was owed or became due of a future. -/
theorem Audited.mem_of_mem_assets (h : Audited es w accounts q) {x : Due}
    (hx : x ∈ q.world.shared.assets) : x ∈ owed es w ∨ x ∈ q.world.shared.claims :=
  Multiset.mem_add.mp (h.balanced ▸ Multiset.mem_add.mpr (.inl hx))

/-- Threads find what they rely on. -/
theorem Audited.sound (h : Audited es w accounts q) (hes : (es.flatMap creates).Nodup) :
    q.world.shared.Sound := by
  constructor
  · refine List.nodup_iff_count_le_one.mpr fun id => ?_
    have hcreations : (q.world.shared.voyages.map fun v => Due.creation v.booking :
        Multiset Due).countP (·.creates id = true) =
          (q.world.shared.voyages.map (·.booking.id)).count id := by
      rw [Multiset.coe_countP, List.countP_map, List.count, List.countP_map]
      exact List.countP_congr fun v _ => by simp [Due.creates]
    have hclaims : q.world.shared.claims.countP (·.creates id = true) = 0 :=
      Due.countP_creates_eq_zero (fun _ hx => Commons.kind_of_mem_claims hx) id
    have hbalanced := congrArg (Multiset.countP (·.creates id = true)) h.balanced
    rw [Commons.assets] at hbalanced
    simp only [Multiset.countP_add, hcreations, hclaims, countP_owed] at hbalanced
    have hone := List.nodup_iff_count_le_one.mp hes id
    omega
  · intro p hp
    have hassets : Due.putBack p.booking ∈ q.world.shared.assets :=
      Multiset.mem_add.mpr (.inr (Multiset.mem_coe.mpr (List.mem_map_of_mem hp)))
    refine (h.mem_of_mem_assets hassets).resolve_left fun howed => ?_
    obtain ⟨t, e, -, hdue⟩ := exists_of_mem_owed howed
    exact kind_of_mem_dues hdue rfl

/-- What an action changes of one thread's account and of what is shared is balanced for all
threads together if it is for this one. -/
theorem Audited.balanced_update {s : Commons} {t : ThreadId} {g : Standing}
    (h : Audited es w accounts q) (ht : t ∈ Finset.range es.length)
    (hkept : q.world.shared.Balanced (accounts t).due s g.due) :
    s.assets + ∑ u ∈ Finset.range es.length, (Function.update accounts t g u).due =
      owed es w + s.claims := by
  let rest := ∑ u ∈ Finset.range es.length \ {t}, (accounts u).due
  have hbefore : ∑ u ∈ Finset.range es.length, (accounts u).due = (accounts t).due + rest :=
    Finset.sum_eq_add_sum_sdiff_singleton_of_mem ht _
  have hafter : ∑ u ∈ Finset.range es.length, (Function.update accounts t g u).due =
      g.due + rest := by
    rw [Finset.sum_eq_add_sum_sdiff_singleton_of_mem ht, Function.update_self]
    refine congrArg (g.due + ·) (Finset.sum_congr rfl fun u hu => ?_)
    rw [Function.update_of_ne (Finset.notMem_singleton.mp (Finset.mem_sdiff.mp hu).2)]
  have hbalanced := h.balanced
  rw [Commons.Balanced] at hkept
  rw [hbefore] at hbalanced
  rw [hafter]
  refine add_right_cancel (b := q.world.shared.claims) ?_
  calc _ = s.assets + g.due + q.world.shared.claims + rest := by abel
    _ = q.world.shared.assets + ((accounts t).due + rest) + s.claims := by
      rw [← hkept]
      abel
    _ = _ := by
      rw [hbalanced]
      abel

/-- A step of any thread keeps the books. -/
theorem Audited.step {r : Pool Commons} {t : ThreadId} (h : Audited es w accounts q)
    (hes : (es.flatMap creates).Nodup) (hs : Pool.Step t q r) :
    ∃ accounts', Audited es w accounts' r := by
  obtain ⟨g', hkept, hfollows⟩ := hs.follows h.follows ⟨h.stand t, h.propagated, h.sound hes⟩
  have hlt : t ∈ Finset.range es.length := Finset.mem_range.mpr (h.length ▸ hs.lt_length)
  refine ⟨Function.update accounts t g', hfollows, hs.length_eq.trans h.length, fun u => ?_,
    fun u => ?_, fun u => ?_, hkept.propagated.trans h.propagated, hkept.tallied h.tallied, ?_⟩
  · by_cases hu : u = t
    · subst hu
      rw [Function.update_self, hkept.stand]
    · rw [Function.update_of_ne hu, (hkept.others u hu).1, h.stand]
  · by_cases hu : u = t
    · subst hu
      rw [Function.update_self, hkept.ahead, h.ahead]
    · rw [Function.update_of_ne hu, (hkept.others u hu).2, h.ahead]
  · by_cases hu : u = t
    · subst hu
      exact hkept.noted _ (h.noted u)
    · rw [(hkept.others u hu).1, (hkept.others u hu).2, h.noted]
  · exact h.balanced_update hlt hkept.balanced

/-- The books are kept at first. -/
theorem Untouched.audited (hw : Untouched w) (es : List Errand) :
    Audited es w (account es w) (pool es w) where
  follows t m hm := by
    rw [pool, List.getElem?_map, Option.map_eq_some_iff] at hm
    obtain ⟨e, he, rfl⟩ := hm
    have hfollows : e.exec.Runs w.propagated w.shared.store { thread := t }
        ⟨w.thread t, e.turns t (w.thread t) ++ [], e.dues w.propagated (w.thread t) + 0⟩ _ :=
      e.follows t (w.thread t) [] 0
    rw [List.append_nil, add_zero] at hfollows
    rw [account, he]
    refine hfollows.mono ?_
    rintro _ _ ⟨-, rfl⟩
    exact ⟨rfl, rfl⟩
  length := List.length_map _
  stand _ := rfl
  ahead t := by
    change (happenings t w.journal).reverse ++ _ = _
    rw [hw.journal]
    rfl
  noted t := by
    change w.thread t = latest _ (happenings t w.journal)
    rw [hw.journal]
    rfl
  propagated := rfl
  tallied := by
    change w.shared.store = w.shared.store.taking (w.shared.sightings.map _)
    rw [hw.sightings]
    rfl
  balanced := by
    change Commons.assets w.shared + _ = _ + Commons.claims w.shared
    rw [Commons.assets, Commons.claims, hw.sightings, hw.parked, hw.voyages]
    exact (zero_add _).trans (add_zero _).symm

/-- The books are kept in every state that threads running errands can reach. -/
theorem Untouched.audited_of_reaches (hw : Untouched w) (hes : (es.flatMap creates).Nodup)
    (h : (pool es w).Reaches q) : ∃ accounts, Audited es w accounts q :=
  h.invariant (I := fun r => ∃ accounts, Audited es w accounts r) ⟨_, hw.audited es⟩
    fun _ _ _ ⟨_, hr⟩ hs => hr.step hes hs

/-! ### What the books say in the end -/

/-- All threads have come to their ends. -/
def AllEnded (q : Pool Commons) : Prop :=
  ∀ m ∈ q.threads, ∃ e, m = .ended e

/-- In the end everything that was due has been delivered. -/
theorem Audited.assets_eq (h : Audited es w accounts q) (hq : AllEnded q) :
    q.world.shared.assets = owed es w + q.world.shared.claims := by
  have hzero : ∑ t ∈ Finset.range es.length, (accounts t).due = 0 := by
    refine Finset.sum_eq_zero fun t ht => ?_
    have hlt : t < q.threads.length := h.length.symm ▸ Finset.mem_range.mp ht
    obtain ⟨e, he⟩ := hq _ (List.getElem_mem hlt)
    have hended := h.follows t _ (List.getElem?_eq_getElem hlt)
    rw [he] at hended
    exact hended.2
  rw [← h.balanced, hzero, add_zero]

/-- Of what is all of one kind, everything or nothing is of some kind. -/
theorem filter_kind_map {α : Type} (f : α → Due) (l : List α) {k : Due.Kind}
    (hf : ∀ a, (f a).kind = k) (k' : Due.Kind) :
    Multiset.filter (fun x : Due => x.kind = k') (l.map f : List Due) =
      (if k = k' then l.map f else [] : List Due) := by
  have hmem (x : Due) (hx : x ∈ Multiset.ofList (l.map f)) : x.kind = k := by
    obtain ⟨a, -, rfl⟩ := List.mem_map.mp (Multiset.mem_coe.mp hx)
    exact hf a
  by_cases hk : k = k'
  · rw [if_pos hk]
    exact Multiset.filter_eq_self.mpr fun x hx => (hmem x hx).trans hk
  · rw [if_neg hk]
    exact Multiset.filter_eq_nil.mpr fun x hx => (hmem x hx).trans_ne hk

/-- What was delivered of a kind. -/
theorem filter_kind_assets (s : Commons) (k : Due.Kind) :
    s.assets.filter (·.kind = k) = match k with
      | .observation => (s.sightings.map Sighting.due : List Due)
      | .newFuture => (s.voyages.map fun v => Due.creation v.booking : List Due)
      | .returnedFuture => (s.parked.map fun p => Due.putBack p.booking : List Due) := by
  have hsightings := filter_kind_map Sighting.due s.sightings (fun _ => rfl) k
  have hvoyages := filter_kind_map (fun v => Due.creation v.booking) s.voyages (fun _ => rfl) k
  have hparked := filter_kind_map (fun p => Due.putBack p.booking) s.parked (fun _ => rfl) k
  rw [Commons.assets, Multiset.filter_add, Multiset.filter_add, hsightings, hvoyages, hparked]
  cases k <;> simp

end Errand

end ExchangeMetrics
