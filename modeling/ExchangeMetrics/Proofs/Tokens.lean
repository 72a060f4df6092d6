import ExchangeMetrics.Proofs.Scopes

/-!
# Tokens of the route stack

Every template that is pushed on a thread is given the next token. As long as no more than
`2 ^ 64` templates were pushed there, no token is given out twice, and a token tells which push an
entry came from. An entry that has left the stack never comes back: the entries with a token that
are on the stack, and the claims of such entries, are together no more than the pushes.

## Main results

* `Replays.next_eq`, `Replays.captures_le_one`: which tokens were given out.
* `Replays.holds_add_claims_le`: what is on the stack or was claimed from it was pushed.
* `Replays.not_holds_of_removes`, `Replays.holds_le_append`: what left the stack is gone.
-/

namespace ExchangeMetrics

namespace Event

/-- Whether a template is pushed. -/
def isCapture : Event → Bool
  | captured .. => true
  | _ => false

/-- Whether an entry with this token is claimed. -/
def claims (k : UInt64) : Event → Bool
  | claimed _ (some entry) => entry.token = k
  | _ => false

/-- What is not about the route stack claims no entry. -/
theorem not_claims_of_isRouting {e : Event} (h : e.isRouting = false) (k : UInt64) :
    e.claims k = false := by
  cases e <;> first | rfl | cases h

/-- It begins no expansion with a token. -/
theorem not_captures_of_isRouting {e : Event} (h : e.isRouting = false) (k : UInt64) :
    e.captures k = false := by
  cases e <;> first | rfl | cases h

/-- It begins no expansion at all. -/
theorem not_isCapture_of_isRouting {e : Event} (h : e.isRouting = false) :
    e.isCapture = false := by
  cases e <;> first | rfl | cases h

end Event

/-- The number of templates pushed on a thread. -/
def pushes (t : ThreadId) (journal : List Moment) : Nat :=
  countOn t Event.isCapture journal

/-- An event takes the entries with a token off the route stack of a thread, if there are any. -/
def Removes (t : ThreadId) (k : UInt64) (older : List Moment) (m : Moment) : Prop :=
  m.thread = t ∧ (m.event.claims k = true ∨ m.event = .discarded k ∨ m.event = .cleared ∨
    (m.event = .scopeClosed ∧ openScopes t older = 1))

/-- What happened on a thread is counted in two parts. -/
theorem countOn_append (t : ThreadId) (p : Event → Bool) (l l' : List Moment) :
    countOn t p (l ++ l') = countOn t p l + countOn t p l' :=
  List.countP_append

/-! ### Which tokens are given out -/

namespace Route.Stack

/-- Taking an entry off the stack does not change which token is issued next. -/
theorem next_take {s s' : Stack} {p : Entry → Bool} {e : Entry} (h : s.take p = some (e, s')) :
    s'.next = s.next := by
  simp only [take, Option.map_eq_some_iff, Prod.mk.injEq] at h
  obtain ⟨e', -, -, rfl⟩ := h
  rfl

/-- Nor does claiming one. -/
theorem next_claim {s s' : Stack} {uri : Uri} {e : Entry} (h : s.claim uri = some (e, s')) :
    s'.next = s.next := by
  rw [claim, Option.orElse_eq_orElse, Option.orElse_eq_or, Option.or_eq_some_iff] at h
  rcases h with h | ⟨-, h⟩ <;> exact next_take h

/-- A push puts one entry on the stack, with the token that is issued next. -/
theorem holds_push (s : Stack) (template : String) (k : UInt64) :
    (s.push template).holds k = s.holds k + if s.next = k then 1 else 0 := by
  rw [holds, push, List.countP_cons, holds]
  simp only [decide_eq_true_eq]

/-- No entry has a token that was discarded. -/
theorem holds_discard_self (s : Stack) (k : UInt64) : (s.discard k).holds k = 0 := by
  rw [holds, discard, List.countP_filter]
  simp

/-- A claim takes one entry with the token of the claimed one off the stack. -/
theorem holds_claim_self {s s' : Stack} {uri : Uri} {e : Entry} (h : s.claim uri = some (e, s')) :
    s'.holds e.token + 1 = s.holds e.token := by
  obtain ⟨newer, older, hs, hs'⟩ := claim_eq_some h
  rw [holds, holds, hs, hs', List.countP_append, List.countP_append,
    List.countP_cons_of_pos (by simp)]
  omega

end Route.Stack

section

variable {b b' : Thread} {n n' : Nesting} {e : Event}

/-- Every push gives out the next token, and nothing else does. -/
theorem Turn.next_eq (h : Turn b n e b' n') :
    b'.routes.next = b.routes.next + if e.isCapture then 1 else 0 := by
  cases h with
  | closed =>
      rw [Route.routes_closed]
      split <;> exact (UInt64.add_zero _).symm
  | captured => rfl
  | claimed _ hclaim => exact (Route.Stack.next_claim hclaim).trans (UInt64.add_zero _).symm
  | other _ he =>
      rw [Event.not_isCapture_of_isRouting he]
      exact (UInt64.add_zero _).symm
  | _ => exact (UInt64.add_zero _).symm

/-- What is on the stack or is claimed from it was there before or is pushed. -/
theorem Turn.holds_add_claims_le (h : Turn b n e b' n') (k : UInt64) :
    b'.routes.holds k + (if e.claims k then 1 else 0) ≤
      b.routes.holds k + if e.captures k then 1 else 0 := by
  cases h with
  | opened | unclaimed => exact Nat.le_refl _
  | closed =>
      rw [Route.routes_closed]
      split
      · exact Nat.zero_le _
      · exact Nat.le_refl _
  | captured _ template =>
      have hpush := b.routes.holds_push template k
      simp [Event.claims, Event.captures, hpush]
  | bound _ token uri =>
      rw [b.routes.holds_bind]
      exact Nat.le_refl _
  | discarded _ token =>
      by_cases htoken : token = k
      · subst htoken
        rw [b.routes.holds_discard_self]
        exact Nat.zero_le _
      · rw [Route.Stack.holds_discard htoken]
        exact Nat.le_refl _
  | @claimed _ uri entry routes hclaim =>
      by_cases htoken : entry.token = k
      · subst htoken
        have hself := Route.Stack.holds_claim_self hclaim
        simp [Event.claims, Event.captures, hself]
      · have hothers := Route.Stack.holds_claim hclaim htoken
        simp [Event.claims, Event.captures, htoken, hothers]
  | cleared => exact Nat.zero_le _
  | other _ he =>
      rw [Event.not_claims_of_isRouting he, Event.not_captures_of_isRouting he]

end

/-! ### What the journal of a thread says about a token -/

namespace Replays

variable {t : ThreadId} {j : List Moment} {b : Thread} {n : Nesting}

/-- The token given out next is the number of pushes. -/
theorem next_eq (h : Replays t j b n) : b.routes.next = UInt64.ofNat (pushes t j) := by
  induction h with
  | nil => rfl
  | skip _ hm ih => rw [pushes, countOn_cons_of_ne hm, ih, pushes]
  | @turn older b b' n n' e _ ht ih =>
      have hpushes : pushes t (⟨t, e, b'⟩ :: older) =
          pushes t older + if e.isCapture then 1 else 0 := countOn_turn
      rw [ht.next_eq, ih, hpushes, UInt64.ofNat_add]
      cases e.isCapture <;> rfl

/-- Of no more than `2 ^ 64` pushes each gives out a token of its own. -/
theorem captures_eq_ite (h : Replays t j b n) (hfew : pushes t j ≤ 2 ^ 64) (k : UInt64) :
    countOn t (Event.captures k) j = if k.toNat < pushes t j then 1 else 0 := by
  induction h with
  | nil => rfl
  | skip _ hm ih =>
      rw [pushes, countOn_cons_of_ne hm] at hfew
      rw [countOn_cons_of_ne hm, pushes, countOn_cons_of_ne hm, ih hfew, pushes]
  | @turn older b b' n n' e hr ht ih =>
      have hpushes : pushes t (⟨t, e, b'⟩ :: older) =
          pushes t older + if e.isCapture then 1 else 0 := countOn_turn
      rw [hpushes] at hfew
      rw [countOn_turn, hpushes, ih (by omega)]
      cases ht with
      | captured _ template =>
          have htoken : b.routes.next.toNat = pushes t older := by
            have hlt : pushes t older < 2 ^ 64 := Nat.lt_of_succ_le hfew
            rw [hr.next_eq, UInt64.toNat_ofNat', Nat.mod_eq_of_lt hlt]
          have hiff : b.routes.next = k ↔ k.toNat = pushes t older := by
            rw [← htoken, ← UInt64.toNat_inj, eq_comm]
          by_cases hk : k.toNat < pushes t older
          · have hne : ¬ k.toNat = pushes t older := Nat.ne_of_lt hk
            simp [Event.captures, Event.isCapture, hiff, hne, hk, Nat.lt_succ_of_lt hk]
          · simp only [Event.captures, Event.isCapture, hiff, hk, decide_eq_true_eq, if_true,
              if_false, Nat.zero_add, Nat.lt_succ_iff_lt_or_eq, false_or]
      | other _ he =>
          rw [Event.not_captures_of_isRouting he, Event.not_isCapture_of_isRouting he]
          rfl
      | _ => rfl

/-- No token is given out twice. -/
theorem captures_le_one (h : Replays t j b n) (hfew : pushes t j ≤ 2 ^ 64) (k : UInt64) :
    countOn t (Event.captures k) j ≤ 1 := by
  rw [h.captures_eq_ite hfew k]
  split <;> omega

/-- The entries with a token that are on the stack and those that were claimed were all pushed. -/
theorem holds_add_claims_le (h : Replays t j b n) (k : UInt64) :
    b.routes.holds k + countOn t (Event.claims k) j ≤ countOn t (Event.captures k) j := by
  induction h with
  | nil => exact Nat.le_refl 0
  | skip _ hm ih =>
      rw [countOn_cons_of_ne hm, countOn_cons_of_ne hm]
      exact ih
  | turn _ ht ih =>
      have hturn := ht.holds_add_claims_le k
      rw [countOn_turn, countOn_turn]
      omega

/-- A stretch of the journal of a thread adds to the stack what is pushed in it, at most. -/
theorem holds_le_append {l : List Moment} (h : Replays t (l ++ j) b n) (k : UInt64) :
    ∃ b₀ n₀, Replays t j b₀ n₀ ∧
      b.routes.holds k + countOn t (Event.claims k) l ≤
        b₀.routes.holds k + countOn t (Event.captures k) l := by
  induction l generalizing b n with
  | nil => exact ⟨b, n, h, Nat.le_refl _⟩
  | cons m l ih =>
      cases h with
      | skip h hm =>
          obtain ⟨b₀, n₀, hr, hle⟩ := ih h
          refine ⟨b₀, n₀, hr, ?_⟩
          rw [countOn_cons_of_ne hm, countOn_cons_of_ne hm]
          exact hle
      | turn h ht =>
          obtain ⟨b₀, n₀, hr, hle⟩ := ih h
          have hturn := ht.holds_add_claims_le k
          refine ⟨b₀, n₀, hr, ?_⟩
          rw [countOn_turn, countOn_turn]
          omega

/-- What was taken off the stack is not on it. -/
theorem not_holds_of_removes {m : Moment} (h : Replays t (m :: j) b n) {k : UInt64}
    (hone : countOn t (Event.captures k) j ≤ 1) (hm : Removes t k j m) : b.routes.holds k = 0 := by
  obtain ⟨hthread, hremoves⟩ := hm
  cases h with
  | skip _ hne => exact absurd hthread hne
  | @turn _ b₀ _ n₀ _ e hr ht =>
      have hheld : b₀.routes.holds k ≤ 1 := by
        have hle := hr.holds_add_claims_le k
        omega
      rcases hremoves with hclaims | rfl | rfl | ⟨rfl, hopen⟩
      · have hcaptures : e.captures k = false := by
          cases e <;> first | rfl | cases hclaims
        have hle := ht.holds_add_claims_le k
        rw [hclaims, hcaptures] at hle
        simp only [if_true, Bool.false_eq_true, if_false] at hle
        omega
      · cases ht with
        | discarded => exact b₀.routes.holds_discard_self k
        | other _ he => cases he
      · cases ht with
        | cleared => rfl
        | other _ he => cases he
      · have hlast : b₀.active - 1 = 0 := by
          rw [hr.active_eq, ← hr.openScopes_eq, hopen]
        obtain ⟨-, rfl⟩ := ht.of_scopeClosed
        rw [Route.closed_outermost hlast]
        rfl

end Replays

end ExchangeMetrics
