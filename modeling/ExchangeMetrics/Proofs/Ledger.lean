import ExchangeMetrics.Exchange.Instrumentation
import ExchangeMetrics.Proofs.Keeping
import ExchangeMetrics.Proofs.Life
import Mathlib.Algebra.Order.Group.Multiset
import Mathlib.Data.Multiset.MapFold

/-!
# The ledger of exchanges

A `Ledger` lists exchanges that are not over, each with the stage to which it has come. The
ledger of a whole run balances if it lists each of these exchanges once and the journal bears it
out; everything an action may do to an exchange keeps the balance.

Each thread has a part of the ledger in hand. `Ledger.rule kept` says what an action may do to it:
it advances what the thread has in hand together with what rests in the shared state. A
computation that keeps this rule keeps account of its exchanges, whatever other threads do in
between.

## Main results

* `Advance.balances`: what an action does keeps the balance.
* `Exec.Carries.frame`: a computation leaves alone what it does not have in hand.
* `Exec.Carries.listed_eq`: what a computation does tells which exchanges it has in hand.
-/

namespace ExchangeMetrics

/-- Exchanges that are not over, each with how far it has come. -/
abbrev Ledger : Type := Multiset (ExchangeId × Stage)

/-- The entries of exchanges that rest in futures: their requests were handed on. -/
def Ledger.resting (os : Multiset Observation) : Ledger :=
  os.map fun o => (o.exchange, .underway)

/-- One more event in the life of one exchange, and none in that of another. -/
def Adds (x : ExchangeId) (e : Event) (j j' : List Moment) : Prop :=
  ∀ y, life y j' = if y = x then life y j ++ [e] else life y j

/-- What an action that leads from one world to another may do to the exchanges of a ledger. -/
inductive Advance {σ : Type} (w w' : World σ) : Ledger → Ledger → Prop where
  /-- Nothing. -/
  | idle {l : Ledger} (hx : w'.exchanges = w.exchanges)
      (hj : ∀ y, life y w'.journal = life y w.journal) : Advance w w' l l
  /-- A new exchange begins. -/
  | begins {l : Ledger} (request : RequestView) (hx : w'.exchanges = w.exchanges + 1)
      (hj : Adds w.exchanges (.started w.exchanges request) w.journal w'.journal) :
      Advance w w' l ((w.exchanges, .begun) ::ₘ l)
  /-- An exchange comes to its next stage. -/
  | moves {x : ExchangeId} {s s' : Stage} {e : Event} {l : Ledger} (hn : s.Next x e s')
      (hs : s'.hasEnded = false) (hx : w'.exchanges = w.exchanges)
      (hj : Adds x e w.journal w'.journal) : Advance w w' ((x, s) ::ₘ l) ((x, s') ::ₘ l)
  /-- An exchange is over. -/
  | ends {x : ExchangeId} {s s' : Stage} {e : Event} {l : Ledger} (hn : s.Next x e s')
      (hs : s'.hasEnded = true) (hx : w'.exchanges = w.exchanges)
      (hj : Adds x e w.journal w'.journal) : Advance w w' ((x, s) ::ₘ l) l

/-- A ledger lists every exchange that is not over, and the journal bears it out. -/
structure Ledger.Balances {σ : Type} (l : Ledger) (w : World σ) : Prop where
  /-- No exchange is listed twice. -/
  nodup : (l.map Prod.fst).Nodup
  /-- An exchange that is listed has come as far as the ledger says. -/
  listed : ∀ x s, (x, s) ∈ l → x < w.exchanges ∧ s.hasEnded = false ∧ Life x s (life x w.journal)
  /-- An exchange that is not listed is over. -/
  unlisted : ∀ x < w.exchanges, (∀ s, (x, s) ∉ l) →
    ∃ s, s.hasEnded = true ∧ Life x s (life x w.journal)
  /-- An exchange that has not begun has no life. -/
  fresh : ∀ x, w.exchanges ≤ x → life x w.journal = []

section

variable {σ : Type} {w w' : World σ} {l l' : Ledger}

/-! ### Entries at rest -/

/-- Nothing rests where there are no observations. -/
@[simp]
theorem Ledger.resting_zero : Ledger.resting 0 = 0 := rfl

/-- What rests with some observations and with others rests with both together. -/
@[simp]
theorem Ledger.resting_add (os os' : Multiset Observation) :
    resting (os + os') = resting os + resting os' := Multiset.map_add _ os os'

/-- An observation that rests is underway. -/
@[simp]
theorem Ledger.resting_cons (o : Observation) (os : Multiset Observation) :
    resting (o ::ₘ os) = (o.exchange, .underway) ::ₘ resting os := Multiset.map_cons _ o os

/-! ### The balance -/

/-- An event about an exchange adds to its life. -/
theorem Adds.of_cons {m : Moment} {x : ExchangeId} (older : List Moment)
    (h : m.event.exchange? = some x) : Adds x m.event older (m :: older) := by
  intro y
  by_cases hy : y = x
  · rw [if_pos hy, life_cons_of_eq y (hy ▸ h)]
  · have hne : m.event.exchange? ≠ some y := fun h' => hy (Option.some.inj (h' ▸ h))
    rw [if_neg hy, life_cons_of_ne y hne]

/-- The life of the exchange that an event is about gets longer by the event. -/
theorem Adds.life_eq {x : ExchangeId} {e : Event} {j j' : List Moment} (h : Adds x e j j') :
    life x j' = life x j ++ [e] := by
  rw [h x, if_pos rfl]

/-- The lives of all other exchanges stay as they are. -/
theorem Adds.life_eq_of_ne {x y : ExchangeId} {e : Event} {j j' : List Moment}
    (h : Adds x e j j') (hy : y ≠ x) : life y j' = life y j := by
  rw [h y, if_neg hy]

namespace Ledger.Balances

/-- An action that does nothing to exchanges. -/
theorem idle (h : l.Balances w) (hx : w'.exchanges = w.exchanges)
    (hj : ∀ y, life y w'.journal = life y w.journal) : l.Balances w' := by
  refine ⟨h.nodup, fun x s hxs => ?_, fun x hlt hx' => ?_, fun x hle => ?_⟩
  · rw [hx, hj]
    exact h.listed x s hxs
  · rw [hx] at hlt
    rw [hj]
    exact h.unlisted x hlt hx'
  · rw [hx] at hle
    rw [hj]
    exact h.fresh x hle

/-- A new exchange is listed as begun. -/
theorem begins {request : RequestView} (h : l.Balances w)
    (hx : w'.exchanges = w.exchanges + 1)
    (hj : Adds w.exchanges (.started w.exchanges request) w.journal w'.journal) :
    Balances ((w.exchanges, .begun) ::ₘ l) w' := by
  have hlt {x : ExchangeId} {s : Stage} (hxs : (x, s) ∈ l) : x < w.exchanges :=
    (h.listed x s hxs).1
  refine ⟨?_, fun x s hxs => ?_, fun x hlt' hx' => ?_, fun x hle => ?_⟩
  · rw [Multiset.map_cons, Multiset.nodup_cons]
    refine ⟨fun hmem => ?_, h.nodup⟩
    obtain ⟨⟨x, s⟩, hxs, heq⟩ := Multiset.mem_map.mp hmem
    exact absurd heq (Nat.ne_of_lt (hlt hxs))
  · rcases Multiset.mem_cons.mp hxs with heq | hxs
    · obtain ⟨rfl, rfl⟩ := Prod.mk.inj heq
      rw [hx, hj.life_eq, h.fresh _ (Nat.le_refl _)]
      exact ⟨Nat.lt_succ_self _, rfl, .started request⟩
    · obtain ⟨hxlt, hs, hlife⟩ := h.listed x s hxs
      rw [hx, hj.life_eq_of_ne (Nat.ne_of_lt hxlt)]
      exact ⟨Nat.lt_succ_of_lt hxlt, hs, hlife⟩
  · have hne : x ≠ w.exchanges := fun heq =>
      hx' .begun (heq ▸ Multiset.mem_cons_self _ _)
    rw [hj.life_eq_of_ne hne]
    exact h.unlisted x (by omega) fun s hxs => hx' s (Multiset.mem_cons_of_mem hxs)
  · rw [hx] at hle
    rw [hj.life_eq_of_ne (Nat.ne_of_gt hle)]
    exact h.fresh x (Nat.le_of_succ_le hle)

section

variable {x : ExchangeId} {s s' : Stage} {e : Event}

/-- An exchange is listed under one stage only. -/
theorem ne_of_mem {y : ExchangeId} {t : Stage} (h : Balances ((x, s) ::ₘ l) w)
    (hy : (y, t) ∈ l) : y ≠ x := by
  rintro rfl
  have hnodup := h.nodup
  rw [Multiset.map_cons, Multiset.nodup_cons] at hnodup
  exact hnodup.1 (Multiset.mem_map.mpr ⟨(y, t), hy, rfl⟩)

/-- The exchange that an event is about goes on to its next stage. -/
theorem life_next (h : Balances ((x, s) ::ₘ l) w) (hn : s.Next x e s')
    (hj : Adds x e w.journal w'.journal) : Life x s' (life x w'.journal) := by
  rw [hj.life_eq]
  exact (h.listed x s (Multiset.mem_cons_self _ _)).2.2.next hn

/-- Other exchanges that are listed stay where they are. -/
theorem listed_rest (h : Balances ((x, s) ::ₘ l) w) (hx : w'.exchanges = w.exchanges)
    (hj : Adds x e w.journal w'.journal) {y : ExchangeId} {t : Stage} (hy : (y, t) ∈ l) :
    y < w'.exchanges ∧ t.hasEnded = false ∧ Life y t (life y w'.journal) := by
  rw [hx, hj.life_eq_of_ne (h.ne_of_mem hy)]
  exact h.listed y t (Multiset.mem_cons_of_mem hy)

/-- Other exchanges that are not listed stay over. -/
theorem unlisted_rest (h : Balances ((x, s) ::ₘ l) w) (hx : w'.exchanges = w.exchanges)
    (hj : Adds x e w.journal w'.journal) {y : ExchangeId} (hlt : y < w'.exchanges) (hne : y ≠ x)
    (hy : ∀ t, (y, t) ∉ l) : ∃ t, t.hasEnded = true ∧ Life y t (life y w'.journal) := by
  rw [hj.life_eq_of_ne hne]
  refine h.unlisted y (hx ▸ hlt) fun t hyt => ?_
  rcases Multiset.mem_cons.mp hyt with heq | hyt
  · exact hne (Prod.mk.inj heq).1
  · exact hy t hyt

/-- Exchanges that have not begun still have no life. -/
theorem fresh_rest (h : Balances ((x, s) ::ₘ l) w) (hx : w'.exchanges = w.exchanges)
    (hj : Adds x e w.journal w'.journal) {y : ExchangeId} (hle : w'.exchanges ≤ y) :
    life y w'.journal = [] := by
  have hlt := (h.listed x s (Multiset.mem_cons_self _ _)).1
  rw [hx] at hle
  rw [hj.life_eq_of_ne (Nat.ne_of_gt (Nat.lt_of_lt_of_le hlt hle))]
  exact h.fresh y hle

/-- An exchange that comes to its next stage is listed under that. -/
theorem moves (h : Balances ((x, s) ::ₘ l) w) (hn : s.Next x e s') (hs : s'.hasEnded = false)
    (hx : w'.exchanges = w.exchanges) (hj : Adds x e w.journal w'.journal) :
    Balances ((x, s') ::ₘ l) w' := by
  refine ⟨?_, fun y t hyt => ?_, fun y hlt hy => ?_, fun y hle => h.fresh_rest hx hj hle⟩
  · have hnodup := h.nodup
    rw [Multiset.map_cons] at hnodup ⊢
    exact hnodup
  · rcases Multiset.mem_cons.mp hyt with heq | hyt
    · obtain ⟨rfl, rfl⟩ := Prod.mk.inj heq
      have hlt := (h.listed y s (Multiset.mem_cons_self _ _)).1
      exact ⟨hx ▸ hlt, hs, h.life_next hn hj⟩
    · exact h.listed_rest hx hj hyt
  · have hne : y ≠ x := fun heq => hy s' (heq ▸ Multiset.mem_cons_self _ _)
    exact h.unlisted_rest hx hj hlt hne fun t hyt => hy t (Multiset.mem_cons_of_mem hyt)

/-- An exchange that is over is not listed any more. -/
theorem ends (h : Balances ((x, s) ::ₘ l) w) (hn : s.Next x e s') (hs : s'.hasEnded = true)
    (hx : w'.exchanges = w.exchanges) (hj : Adds x e w.journal w'.journal) : l.Balances w' := by
  refine ⟨?_, fun y t hyt => h.listed_rest hx hj hyt, fun y hlt hy => ?_,
    fun y hle => h.fresh_rest hx hj hle⟩
  · have hnodup := h.nodup
    rw [Multiset.map_cons, Multiset.nodup_cons] at hnodup
    exact hnodup.2
  · by_cases heq : y = x
    · subst heq
      exact ⟨s', hs, h.life_next hn hj⟩
    · exact h.unlisted_rest hx hj hlt heq hy

end

end Ledger.Balances

/-- What an action does keeps the balance. -/
theorem Advance.balances (h : Advance w w' l l') (hl : l.Balances w) : l'.Balances w' := by
  cases h with
  | idle hx hj => exact hl.idle hx hj
  | begins request hx hj => exact hl.begins hx hj
  | moves hn hs hx hj => exact hl.moves hn hs hx hj
  | ends hn hs hx hj => exact hl.ends hn hs hx hj

/-- An action does nothing to other exchanges. -/
theorem Advance.frame (h : Advance w w' l l') (f : Ledger) : Advance w w' (l + f) (l' + f) := by
  cases h with
  | idle hx hj => exact .idle hx hj
  | begins request hx hj =>
      rw [Multiset.cons_add]
      exact .begins request hx hj
  | moves hn hs hx hj =>
      rw [Multiset.cons_add, Multiset.cons_add]
      exact .moves hn hs hx hj
  | ends hn hs hx hj =>
      rw [Multiset.cons_add]
      exact .ends hn hs hx hj

end

/-! ### Which exchanges are listed -/

/-- The exchanges that a ledger lists. -/
def Ledger.listed (l : Ledger) : Multiset ExchangeId :=
  l.map Prod.fst

/-- A ledger lists its first exchange and those that the rest of it lists. -/
@[simp]
theorem Ledger.listed_cons (x : ExchangeId) (s : Stage) (l : Ledger) :
    listed ((x, s) ::ₘ l) = x ::ₘ listed l := Multiset.map_cons _ _ l

/-- Two ledgers list together what each of them lists. -/
@[simp]
theorem Ledger.listed_add (l l' : Ledger) : listed (l + l') = listed l + listed l' :=
  Multiset.map_add _ l l'

/-- The exchanges that rest are those of the observations. -/
theorem Ledger.mem_listed_resting {x : ExchangeId} {os : Multiset Observation} :
    x ∈ (resting os).listed ↔ ∃ o ∈ os, o.exchange = x := by
  rw [listed, resting, Multiset.map_map, Multiset.mem_map]
  rfl

section

variable {σ : Type} {w w' : World σ} {l l' : Ledger}

/-- An action brings an exchange to its end. -/
def EndsAt (x : ExchangeId) (w w' : World σ) : Prop :=
  life x w'.journal = life x w.journal ++ [.ended x]

/-- An event that is added to the life of an exchange ends no other one. -/
theorem Adds.eq_of_endsAt {x y : ExchangeId} {e : Event} (h : Adds x e w.journal w'.journal)
    (hy : EndsAt y w w') : y = x ∧ e = .ended x := by
  rw [EndsAt, h y] at hy
  split at hy
  · rename_i heq
    subst heq
    exact ⟨rfl, List.singleton_inj.mp (List.append_cancel_left hy)⟩
  · exact absurd hy (by simp)

/-- Which exchanges are listed before an action is known from which are listed after it. -/
theorem Advance.listed_eq (h : Advance w w' l l') :
    (w'.exchanges = w.exchanges + 1 ∧ (∀ x, ¬ EndsAt x w w') ∧
        l'.listed = w.exchanges ::ₘ l.listed) ∨
      (w'.exchanges = w.exchanges ∧ (∀ x, ¬ EndsAt x w w') ∧ l'.listed = l.listed) ∨
      (w'.exchanges = w.exchanges ∧ ∃ x, (∀ y, EndsAt y w w' ↔ y = x) ∧
        l.listed = x ::ₘ l'.listed) := by
  cases h with
  | idle hx hj =>
      refine .inr (.inl ⟨hx, fun x hend => ?_, rfl⟩)
      rw [EndsAt, hj] at hend
      exact absurd hend (by simp)
  | begins request hx hj =>
      refine .inl ⟨hx, fun x hend => ?_, Ledger.listed_cons _ _ _⟩
      cases (hj.eq_of_endsAt hend).2
  | moves hn hs hx hj =>
      refine .inr (.inl ⟨hx, fun y hend => ?_, ?_⟩)
      · rw [hn.eq_ended_iff.mp (hj.eq_of_endsAt hend).2] at hs
        cases hs
      · rw [Ledger.listed_cons, Ledger.listed_cons]
  | @ends x s s' e _ hn hs hx hj =>
      refine .inr (.inr ⟨hx, x, fun y => ⟨fun hend => (hj.eq_of_endsAt hend).1, ?_⟩, ?_⟩)
      · rintro rfl
        rw [EndsAt, hj.life_eq, hn.eq_ended_iff.mpr hs]
      · exact Ledger.listed_cons x s l'

end

/-! ### Keeping account -/

/-- An action advances what the thread has in hand and what rests in the shared state. -/
def Ledger.rule {σ : Type} (kept : σ → Multiset Observation) : Rule σ Ledger :=
  fun _ w hand w' hand' =>
    Advance w w' (hand + resting (kept w.shared)) (hand' + resting (kept w'.shared))

namespace Exec

variable {σ α : Type} {kept : σ → Multiset Observation}

/-- A computation keeps account of the exchanges that it has in hand and of those that rest in
the shared state. -/
abbrev Carries (kept : σ → Multiset Observation) (m : Exec σ α) (hand : Ledger)
    (ret : α → Ledger → Prop) (pan : Ledger → Prop) : Prop :=
  m.Keeps (Ledger.rule kept) hand ret pan

/-- A computation leaves alone what it does not have in hand. -/
theorem Carries.frame {m : Exec σ α} {hand f : Ledger} {ret : α → Ledger → Prop}
    {pan : Ledger → Prop}
    (h : m.Carries kept hand (fun a l => ret a (l + f)) fun l => pan (l + f)) :
    m.Carries kept (hand + f) ret pan := by
  induction m generalizing hand with
  | ended e => cases e <;> exact h
  | act action next ih =>
      intro c w
      obtain ⟨hand', hadv, hnext⟩ := h c w
      refine ⟨hand' + f, ?_, ih c w hnext⟩
      rw [Ledger.rule, add_right_comm, add_right_comm hand']
      exact hadv.frame f

/-- Which exchanges a computation has in hand, if nothing is left in the end, is known from what
it does: two accounts of one action begin the same exchange, or end the same one, or do neither. -/
theorem Carries.listed_eq {m : Exec σ α} {hand₁ hand₂ : Ledger}
    (h₁ : m.Carries kept hand₁ (fun _ l => l = 0) fun l => l = 0)
    (h₂ : m.Carries kept hand₂ (fun _ l => l = 0) fun l => l = 0) (w : World σ) :
    hand₁.listed = hand₂.listed := by
  induction m generalizing hand₁ hand₂ with
  | ended e =>
      have hzero {hand : Ledger}
          (h : (ended e : Exec σ α).Carries kept hand (fun _ l => l = 0) fun l => l = 0) :
          hand = 0 := by
        cases e <;> exact h
      rw [hzero h₁, hzero h₂]
  | act action next ih =>
      obtain ⟨hand₁', hadv₁, hnext₁⟩ := h₁ {} w
      obtain ⟨hand₂', hadv₂, hnext₂⟩ := h₂ {} w
      have hlater := ih {} w hnext₁ hnext₂
      have hnow : (hand₁ + .resting (kept w.shared)).listed =
          (hand₂ + .resting (kept w.shared)).listed := by
        have hsame := Ledger.listed_add hand₁' (.resting (kept (action {} w).shared))
        rw [hlater, ← Ledger.listed_add] at hsame
        rcases hadv₁.listed_eq with ⟨hx₁, -, he₁⟩ | ⟨hx₁, hno₁, he₁⟩ | ⟨hx₁, x₁, hend₁, he₁⟩ <;>
          rcases hadv₂.listed_eq with ⟨hx₂, -, he₂⟩ | ⟨hx₂, hno₂, he₂⟩ | ⟨hx₂, x₂, hend₂, he₂⟩
        · exact Multiset.cons_inj_right _ |>.mp (he₁ ▸ he₂ ▸ hsame)
        · omega
        · omega
        · omega
        · rw [← he₁, ← he₂, hsame]
        · exact absurd ((hend₂ x₂).mpr rfl) (hno₁ x₂)
        · omega
        · exact absurd ((hend₁ x₁).mpr rfl) (hno₂ x₁)
        · rw [he₁, he₂, hsame, (hend₂ x₁).mp ((hend₁ x₁).mpr rfl)]
      rw [Ledger.listed_add, Ledger.listed_add] at hnow
      exact add_right_cancel hnow

/-! ### Single actions -/

section

variable {hand : Ledger} {pan : Ledger → Prop}

/-- An action that does nothing to exchanges and leaves the shared state alone. -/
theorem carries_quietly {f : Context → World σ → α × World σ} {ret : α → Ledger → Prop}
    (hs : ∀ c w, (f c w).2.shared = w.shared) (hx : ∀ c w, (f c w).2.exchanges = w.exchanges)
    (hj : ∀ c w y, life y (f c w).2.journal = life y w.journal) (hret : ∀ a, ret a hand) :
    (atomically f).Carries kept hand ret pan := by
  intro c w
  refine ⟨hand, ?_, hret (f c w).1⟩
  rw [Ledger.rule, hs c w]
  exact .idle (hx c w) (hj c w)

/-- Asking for the context leaves all that is in hand as it is. -/
theorem carries_context {ret : Context → Ledger → Prop} (h : ∀ c, ret c hand) :
    (context : Exec σ Context).Carries kept hand ret pan :=
  carries_quietly (fun _ _ => rfl) (fun _ _ => rfl) (fun _ _ _ => rfl) h

/-- So does asking how the thread stands. -/
theorem carries_thread {ret : Thread → Ledger → Prop} (h : ∀ t, ret t hand) :
    (thread : Exec σ Thread).Carries kept hand ret pan :=
  carries_quietly (fun _ _ => rfl) (fun _ _ => rfl) (fun _ _ _ => rfl) h

/-- So does asking for the headers of the propagator. -/
theorem carries_propagated {ret : List (String × String) → Ledger → Prop}
    (h : ∀ headers, ret headers hand) :
    (propagated : Exec σ (List (String × String))).Carries kept hand ret pan :=
  carries_quietly (fun _ _ => rfl) (fun _ _ => rfl) (fun _ _ _ => rfl) h

/-- And so does choosing them. -/
theorem carries_setPropagated {headers : List (String × String)} {ret : Unit → Ledger → Prop}
    (h : ret () hand) : (setPropagated headers : Exec σ Unit).Carries kept hand ret pan :=
  carries_quietly (fun _ _ => rfl) (fun _ _ => rfl) (fun _ _ _ => rfl) fun _ => h

/-- A change of what belongs to the thread leaves all that is in hand as it is, unless its event is
about an exchange. -/
theorem carries_onThread {f : Thread → α × Thread × Event} {ret : α → Ledger → Prop}
    (he : ∀ t, (f t).2.2.exchange? = none) (h : ∀ a, ret a hand) :
    (onThread f : Exec σ α).Carries kept hand ret pan := by
  refine carries_quietly (fun _ _ => rfl) (fun _ _ => rfl) (fun c w y => ?_) h
  refine life_cons_of_ne y ?_
  rw [he (w.thread c.thread)]
  exact nofun

/-- So does noting an event that is about no exchange. -/
theorem carries_note_aside {event : Event} {ret : Unit → Ledger → Prop}
    (he : event.exchange? = none) (h : ret () hand) :
    (note event : Exec σ Unit).Carries kept hand ret pan := by
  refine carries_quietly (fun _ _ => rfl) (fun _ _ => rfl) (fun c w y => ?_) fun _ => h
  refine life_cons_of_ne y ?_
  rw [he]
  exact nofun

/-- An event about an exchange that is in hand takes it to its next stage. -/
theorem carries_note {x : ExchangeId} {s s' : Stage} {event : Event}
    {ret : Unit → Ledger → Prop} (hn : s.Next x event s') (hs : s'.hasEnded = false)
    (h : ret () ((x, s') ::ₘ hand)) :
    (note event : Exec σ Unit).Carries kept ((x, s) ::ₘ hand) ret pan := by
  intro c w
  refine ⟨(x, s') ::ₘ hand, ?_, h⟩
  rw [Ledger.rule, Multiset.cons_add, Multiset.cons_add]
  exact .moves hn hs rfl (.of_cons w.journal hn.exchange?_eq)

/-- The last event about an exchange takes it out of hand. -/
theorem carries_note_ended {x : ExchangeId} {s s' : Stage} {event : Event}
    {ret : Unit → Ledger → Prop} (hn : s.Next x event s') (hs : s'.hasEnded = true)
    (h : ret () hand) :
    (note event : Exec σ Unit).Carries kept ((x, s) ::ₘ hand) ret pan := by
  intro c w
  refine ⟨hand, ?_, h⟩
  rw [Ledger.rule, Multiset.cons_add]
  exact .ends hn hs rfl (.of_cons w.journal hn.exchange?_eq)

/-- A new exchange is in hand from its beginning on. -/
theorem carries_newExchange {request : RequestView} {ret : ExchangeId → Ledger → Prop}
    (h : ∀ x, ret x ((x, .begun) ::ₘ hand)) :
    (newExchange request : Exec σ ExchangeId).Carries kept hand ret pan := by
  intro c w
  refine ⟨(w.exchanges, .begun) ::ₘ hand, ?_, h w.exchanges⟩
  rw [Ledger.rule, Multiset.cons_add]
  exact .begins request rfl (.of_cons w.journal rfl)

/-- What is shared is used; futures may be put there or taken from it. -/
theorem carries_access {own : Multiset Observation} {gives : α → Multiset Observation}
    {f : σ → α × σ} {ret : α → Ledger → Prop}
    (hf : ∀ s, own + kept s = gives (f s).1 + kept (f s).2)
    (h : ∀ a, ret a (.resting (gives a))) :
    (access f : Exec σ α).Carries kept (.resting own) ret pan := by
  intro c w
  refine ⟨.resting (gives (f w.shared).1), ?_, h (f w.shared).1⟩
  rw [Ledger.rule, ← Ledger.resting_add, hf, Ledger.resting_add]
  exact .idle rfl fun _ => rfl

end

end Exec

end ExchangeMetrics
