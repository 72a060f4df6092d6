import ExchangeMetrics.Proofs.Serving

/-!
# The stacks of threads

`Stack.Reached n` picks out the stacks that come of the empty one by pushing `n` templates and by
binding, discarding, claiming and clearing in between, in any order and with any tokens and URIs.
The route stack of every thread is one of them. As long as there were no more than `2 ^ 64` pushes,
the tokens on such a stack are numbers of earlier pushes, so that the token that is issued next is
a new one, and the entry that is pushed with it can be told from all others.

Entries are looked up by their token here. What happens to a stack with other tokens does not touch
the entry with a given one, wherever it lies.

## Main results

* `Stack.Reached.token_lt`, `Stack.Reached.toNat_next`: which tokens are on a stack, and which one
  is issued next.
* `Stack.withToken_push` and the lemmas after it: what each operation does to the entries with a
  token.
* `Thread.reached_moved`: the stacks that moves leave, a move being whatever can be done to what
  belongs to a thread.
* `Replays.eq_moved`, `Pool.reached`: the stacks of threads.
-/

namespace ExchangeMetrics

namespace Route.Stack

/-! ### Stacks that can be reached -/

/-- The stacks that come of the empty one, with the number of templates that were pushed. -/
inductive Reached : Nat → Stack → Prop where
  | empty : Reached 0 {}
  | push {n : Nat} {s : Stack} (h : Reached n s) (template : String) :
      Reached (n + 1) (s.push template)
  | bind {n : Nat} {s : Stack} (h : Reached n s) (token : UInt64) (uri : Uri) :
      Reached n (s.bind token uri)
  | discard {n : Nat} {s : Stack} (h : Reached n s) (token : UInt64) : Reached n (s.discard token)
  | claim {n : Nat} {s s' : Stack} {uri : Uri} {e : Entry} (h : Reached n s)
      (hclaim : s.claim uri = some (e, s')) : Reached n s'
  | clear {n : Nat} {s : Stack} (h : Reached n s) : Reached n s.clear

section

variable {n : Nat} {s s' : Stack} {k token : UInt64} {uri : Uri} {e : Entry}

/-- The token that is issued next is the number of those issued. -/
theorem Reached.next_eq (h : Reached n s) : s.next = UInt64.ofNat n := by
  induction h with
  | empty => rfl
  | push _ _ ih => rw [Stack.push, ih, UInt64.ofNat_add, UInt64.ofNat_one]
  | bind _ _ _ ih | discard _ _ ih | clear _ ih => exact ih
  | claim _ hclaim ih => rw [next_claim hclaim, ih]

/-- The token that is issued next is the number of pushes. -/
theorem Reached.toNat_next (h : Reached n s) (hfew : n < 2 ^ 64) : s.next.toNat = n := by
  rw [h.next_eq, UInt64.toNat_ofNat', Nat.mod_eq_of_lt hfew]

/-- Every token on the stack was issued by one of the pushes. -/
theorem Reached.token_lt (h : Reached n s) (hfew : n ≤ 2 ^ 64) :
    ∀ e ∈ s.entries, e.token.toNat < n := by
  induction h with
  | empty => intro e he; cases he
  | @push n s h template ih =>
      intro e he
      rcases List.mem_cons.mp he with rfl | he
      · exact Nat.lt_succ_of_le (Nat.le_of_eq (h.toNat_next (Nat.lt_of_succ_le hfew)))
      · have hlt := ih (by omega) e he
        omega
  | @bind n s h token uri ih =>
      intro e he
      have htoken : e.token ∈ (bindIn token uri s.entries).map Entry.token :=
        List.mem_map_of_mem he
      rw [token_bindIn] at htoken
      obtain ⟨old, hold, heq⟩ := List.mem_map.mp htoken
      rw [← heq]
      exact ih hfew old hold
  | discard _ _ ih => exact fun e he => ih hfew e (List.mem_of_mem_filter he)
  | claim _ hclaim ih => exact fun e he => ih hfew e (mem_of_claim hclaim he)
  | clear _ _ => intro e he; cases he

/-! ### The entries with a token -/

/-- The entries with a token, the newest first. -/
def withToken (s : Stack) (k : UInt64) : List Entry :=
  s.entries.filter (·.token = k)

/-- No entry has a token exactly if the token of every entry is another one. -/
theorem withToken_eq_nil_iff : s.withToken k = [] ↔ ∀ e ∈ s.entries, e.token ≠ k := by
  simp [withToken, List.filter_eq_nil_iff]

/-- The only entry with a token lies among entries with other tokens. -/
theorem exists_of_withToken_eq (h : s.withToken k = [e]) :
    e.token = k ∧ ∃ above below, s.entries = above ++ e :: below ∧
      (∀ e' ∈ above, e'.token ≠ k) ∧ ∀ e' ∈ below, e'.token ≠ k := by
  obtain ⟨above, below, hs, habove, htoken, hbelow⟩ := List.filter_eq_cons_iff.mp h
  refine ⟨of_decide_eq_true htoken, above, below, hs, by simpa using habove, ?_⟩
  simpa [List.filter_eq_nil_iff] using hbelow

/-- No entry has the token that is issued next. -/
theorem Reached.withToken_next (h : Reached n s) (hfew : n < 2 ^ 64) :
    s.withToken s.next = [] := by
  refine withToken_eq_nil_iff.mpr fun e he heq => ?_
  have hlt := h.token_lt (Nat.le_of_lt hfew) e he
  rw [heq, h.toNat_next hfew] at hlt
  exact Nat.lt_irrefl n hlt

/-- A push puts an entry with the token that is issued next in front of the others that have it. -/
theorem withToken_push_self (template : String) :
    (s.push template).withToken s.next = ⟨s.next, template, none⟩ :: s.withToken s.next :=
  List.filter_cons_of_pos (by simp)

/-- A push leaves the entries of other tokens as they are. -/
theorem withToken_push (hk : s.next ≠ k) (template : String) :
    (s.push template).withToken k = s.withToken k :=
  List.filter_cons_of_neg (by simpa using hk)

/-- Binding an entry leaves those with other tokens as they are. -/
theorem filter_bindIn (hk : token ≠ k) (uri : Uri) (es : List Entry) :
    (bindIn token uri es).filter (·.token = k) = es.filter (·.token = k) := by
  induction es with
  | nil => rfl
  | cons e es ih =>
      rw [bindIn]
      split
      · rw [List.filter_cons, List.filter_cons, ih]
      · split
        · rename_i htoken
          have hne : e.token ≠ k := fun h => hk (htoken.symm.trans h)
          rw [List.filter_cons_of_neg (by simpa using hne),
            List.filter_cons_of_neg (by simpa using hne)]
        · rfl

/-- Binding leaves the entries of other tokens as they are. -/
theorem withToken_bind (hk : token ≠ k) (uri : Uri) :
    (s.bind token uri).withToken k = s.withToken k :=
  filter_bindIn hk uri s.entries

/-- Discarding leaves the entries of other tokens as they are. -/
theorem withToken_discard (hk : token ≠ k) : (s.discard token).withToken k = s.withToken k := by
  rw [withToken, discard, List.filter_filter, withToken]
  refine List.filter_congr fun e _ => ?_
  by_cases he : e.token = k
  · simp [he, Ne.symm hk]
  · simp [he]

/-- A claim takes no entry that is still without a URI. -/
theorem withToken_claim (hpending : ∀ e' ∈ s.withToken k, e'.uri = none)
    (hclaim : s.claim uri = some (e, s')) : s'.withToken k = s.withToken k := by
  obtain ⟨hmem, hshares⟩ := mem_claim hclaim
  have hne : e.token ≠ k := by
    intro htoken
    have hnone := hpending e (List.mem_filter.mpr ⟨hmem, by simpa using htoken⟩)
    rw [Entry.sharesTarget, hnone] at hshares
    cases hshares
  obtain ⟨newer, older, hs, hs'⟩ := claim_eq_some hclaim
  rw [withToken, withToken, hs, hs', List.filter_append, List.filter_append,
    List.filter_cons_of_neg (by simpa using hne)]

end

end Route.Stack

/-! ### Moves -/

namespace Thread

/-- What can be done to what belongs to a thread. -/
inductive Move where
  /-- A template is pushed. -/
  | push (template : String)
  /-- The entry with a token is bound to a URI. -/
  | bind (token : UInt64) (uri : Uri)
  /-- The entry with a token is removed. -/
  | discard (token : UInt64)
  /-- The entry for a URI is taken off, if there is one. -/
  | claim (uri : Uri)
  /-- All entries are removed. -/
  | clear
  /-- A scope is opened. -/
  | openScope
  /-- A scope is closed. -/
  | closeScope

/-- How a thread stands after a move. -/
def move (b : Thread) : Move → Thread
  | .push template => { b with routes := b.routes.push template }
  | .bind token uri => { b with routes := b.routes.bind token uri }
  | .discard token => { b with routes := b.routes.discard token }
  | .claim uri => { b with routes := b.routes.afterClaim uri }
  | .clear => { b with routes := b.routes.clear }
  | .openScope => Route.opened b
  | .closeScope => Route.closed b

/-- How a thread stands after all that was done to it, the newest first. -/
def moved : List Move → Thread
  | [] => {}
  | m :: older => (moved older).move m

namespace Move

/-- Whether a template is pushed. -/
def isPush : Move → Bool
  | push _ => true
  | _ => false

/-- What an event on a thread did to what belongs to it. A claim that took nothing did nothing. -/
def ofEvent? : Event → Option Move
  | .scopeOpened => some openScope
  | .scopeClosed => some closeScope
  | .captured _ template => some (push template)
  | .bound token uri => some (bind token uri)
  | .discarded token => some (discard token)
  | .claimed uri (some _) => some (claim uri)
  | .cleared => some clear
  | _ => none

/-- Templates are pushed where they are captured. -/
theorem isPush_ofEvent? (e : Event) : ((ofEvent? e).map isPush).getD false = e.isCapture := by
  cases e with
  | claimed uri entry => cases entry <;> rfl
  | _ => rfl

end Move

/-- The number of templates pushed. -/
def pushCount (moves : List Move) : Nat :=
  moves.countP Move.isPush

/-- What was done to what belongs to a thread, the newest first. -/
def movesOn (t : ThreadId) (journal : List Moment) : List Move :=
  journal.filterMap fun m => if m.thread = t then Move.ofEvent? m.event else none

/-- A move leads from one stack that can be reached to the next. -/
theorem reached_move {b : Thread} {n : Nat} (h : b.routes.Reached n) (m : Move) :
    (b.move m).routes.Reached (n + if m.isPush then 1 else 0) := by
  cases m with
  | push template => exact h.push template
  | bind token uri => exact h.bind token uri
  | discard token => exact h.discard token
  | claim uri =>
      change (b.routes.afterClaim uri).Reached n
      rw [Route.Stack.afterClaim]
      cases hclaim : b.routes.claim uri with
      | none => exact h
      | some taken => exact h.claim hclaim
  | clear => exact h.clear
  | openScope => exact h
  | closeScope =>
      change (Route.closed b).routes.Reached n
      rw [Route.routes_closed]
      split
      · exact h.clear
      · exact h

/-- Moves reach a stack on which as many tokens were issued as there were pushes. -/
theorem reached_moved (moves : List Move) : (moved moves).routes.Reached (pushCount moves) := by
  induction moves with
  | nil => exact .empty
  | cons m older ih =>
      rw [moved, pushCount, List.countP_cons]
      exact reached_move ih m

/-- The pushes among the moves of a thread are those that its journal tells of. -/
theorem pushCount_movesOn (t : ThreadId) (j : List Moment) :
    pushCount (movesOn t j) = pushes t j := by
  rw [pushCount, movesOn, List.countP_filterMap, pushes, countOn]
  refine List.countP_congr fun m _ => ?_
  by_cases hm : m.thread = t
  · simp [hm, Move.isPush_ofEvent?]
  · simp [hm]

end Thread

/-! ### Threads -/

section

variable {b b' : Thread} {n n' : Nesting} {e : Event} {t : ThreadId} {j : List Moment}

/-- A turn of a thread is a move, or it leaves alone what belongs to the thread. -/
theorem Turn.eq_move (h : Turn b n e b' n') : b' = (Thread.Move.ofEvent? e).elim b b.move := by
  cases h with
  | @claimed _ uri entry routes hclaim =>
      change { b with routes := routes } = { b with routes := b.routes.afterClaim uri }
      rw [Route.Stack.afterClaim, hclaim]
      rfl
  | other _ he => cases e <;> first | rfl | cases he
  | _ => rfl

/-- A thread stands as its moves in the journal left it. -/
theorem Replays.eq_moved (h : Replays t j b n) : b = Thread.moved (Thread.movesOn t j) := by
  induction h with
  | nil => rfl
  | skip _ hm ih =>
      rw [Thread.movesOn, List.filterMap_cons, if_neg hm]
      exact ih
  | @turn older b b' n n' e _ ht ih =>
      have hmove := ht.eq_move
      rw [Thread.movesOn, List.filterMap_cons, if_pos rfl]
      cases hevent : Thread.Move.ofEvent? e with
      | none =>
          rw [hevent] at hmove
          exact hmove.trans ih
      | some m =>
          rw [hevent] at hmove
          rw [Thread.moved, hmove, ih]
          rfl

/-- A thread has a route stack on which as many tokens were issued as its journal tells of pushes.
-/
theorem Replays.reached (h : Replays t j b n) : b.routes.Reached (pushes t j) := by
  rw [h.eq_moved, ← Thread.pushCount_movesOn]
  exact Thread.reached_moved _

/-- In every state that threads running programs can reach, the route stack of a thread has come of
the empty one by the pushes on the thread. -/
theorem Pool.reached {σ : Type} {kept : σ → Multiset Observation} {p q : Pool σ}
    (hp : p.Fresh kept) (h : p.Reaches q) (t : ThreadId) :
    (q.world.thread t).routes.Reached (pushes t q.world.journal) := by
  obtain ⟨nestings, -, hreplays⟩ : q.Nests := h.invariant hp.nests fun _ _ _ hr hs => hr.step hs
  exact (hreplays t).reached

end

end ExchangeMetrics
