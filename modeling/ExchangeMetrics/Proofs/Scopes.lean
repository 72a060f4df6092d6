import ExchangeMetrics.Proofs.Nesting

/-!
# Scopes and the route stack

Every change of what belongs to a thread is written into the journal, so that the journal of a
run can be replayed for each thread. Together with the nesting of its operations this says what
there is to say about scopes: the number of exchanges active on a thread is the number of scopes
open there, the route stack is empty once the outermost scope is closed, and as long as a scope
is open no entry is lost.

## Main results

* `Pool.Nests.step`: a step of any thread can be replayed.
* `Replays.wellNested`: what each event does to scopes and to the route stack.
* `Instrumentation.opensScopes`: which operations the scopes are.
* `Pool.scopes_kept`: all of this in every state that a pool of programs can reach.
-/

namespace ExchangeMetrics

/-! ### Reading the journal thread by thread -/

/-- How a thread stands according to the journal. -/
def standing (t : ThreadId) : List Moment → Thread
  | [] => {}
  | m :: older => if m.thread = t then m.after else standing t older

/-- How many events of a kind happened on a thread. -/
def countOn (t : ThreadId) (p : Event → Bool) (journal : List Moment) : Nat :=
  journal.countP fun m => m.thread = t && p m.event

namespace Event

/-- Whether a scope is opened. -/
def isOpening : Event → Bool
  | scopeOpened => true
  | _ => false

/-- Whether a scope is closed. -/
def isClosing : Event → Bool
  | scopeClosed => true
  | _ => false

/-- Whether an expansion begins with this token. -/
def captures (k : UInt64) : Event → Bool
  | captured token _ => token = k
  | _ => false

/-- Whether an expansion with this token ends with a URI or an error. -/
def concludes (k : UInt64) : Event → Bool
  | bound token _ => token = k
  | discarded token => token = k
  | _ => false

end Event

/-- The number of scopes open on a thread: those that were opened without those that were
closed. -/
def openScopes (t : ThreadId) (journal : List Moment) : Nat :=
  countOn t Event.isOpening journal - countOn t Event.isClosing journal

/-- The number of entries with a token. -/
def Route.Stack.holds (s : Route.Stack) (k : UInt64) : Nat :=
  s.entries.countP (·.token = k)

/-- What a thread and its nesting have come to by the events on it. -/
inductive Replays (t : ThreadId) : List Moment → Thread → Nesting → Prop where
  | nil : Replays t [] {} {}
  /-- An event on another thread. -/
  | skip {m : Moment} {older : List Moment} {b : Thread} {n : Nesting}
      (h : Replays t older b n) (hm : m.thread ≠ t) : Replays t (m :: older) b n
  | turn {older : List Moment} {b b' : Thread} {n n' : Nesting} {e : Event}
      (h : Replays t older b n) (ht : Turn b n e b' n') : Replays t (⟨t, e, b'⟩ :: older) b' n'

/-- What is guaranteed about an event on a thread, given what happened before it. -/
structure WellNested (t : ThreadId) (older : List Moment) (m : Moment) : Prop where
  /-- A scope is closed only if one is open. -/
  closes : m.event = .scopeClosed → 0 < openScopes t older
  /-- When the outermost scope is closed, no exchange is active and the route stack is empty. -/
  outermost : m.event = .scopeClosed → openScopes t older = 1 →
    m.after.active = 0 ∧ m.after.routes.depth = 0
  /-- When a nested scope is closed, the route stack stays as it is. -/
  inner : m.event = .scopeClosed → 1 < openScopes t older →
    m.after.routes = (standing t older).routes
  /-- While a scope is open, an entry leaves the route stack only because an exchange claims it,
  because its expansion failed, or because the stack is cleared. -/
  leaves : 0 < openScopes t (m :: older) → ∀ k,
    m.after.routes.holds k < (standing t older).routes.holds k →
      (∃ uri entry, m.event = .claimed uri (some entry) ∧ entry.token = k) ∨
        m.event = .discarded k ∨ m.event = .cleared
  /-- What fails is an expansion that has begun and has not ended before. -/
  discards : ∀ k, m.event = .discarded k →
    countOn t (Event.concludes k) older < countOn t (Event.captures k) older

section

variable {t : ThreadId} {p : Event → Bool} {m : Moment} {older : List Moment}

/-- What happens on another thread does not count. -/
theorem countOn_cons_of_ne (h : m.thread ≠ t) : countOn t p (m :: older) = countOn t p older := by
  rw [countOn, List.countP_cons_of_neg (by simp [h]), countOn]

/-- What happens on the thread counts if it is of the kind. -/
theorem countOn_turn {e : Event} {b : Thread} :
    countOn t p (⟨t, e, b⟩ :: older) = countOn t p older + if p e then 1 else 0 := by
  rw [countOn, List.countP_cons, countOn]
  simp

end

/-! ### What a turn does to the route stack -/

namespace Route.Stack

/-- Binding leaves the tokens of entries as they are. -/
theorem token_bindIn (token : UInt64) (uri : Uri) (es : List Entry) :
    (bindIn token uri es).map Entry.token = es.map Entry.token := by
  induction es with
  | nil => rfl
  | cons e es ih =>
      rw [bindIn]
      split
      · rw [List.map_cons, List.map_cons, ih]
      · split <;> rfl

/-- The entries with a token are counted among all tokens. -/
theorem holds_eq (s : Stack) (k : UInt64) : s.holds k = (s.entries.map Entry.token).count k := by
  rw [holds, List.count, List.countP_map]
  exact List.countP_congr fun e _ => by simp

/-- A push takes no entry off the stack. -/
theorem holds_push_ge (s : Stack) (template : String) (k : UInt64) :
    s.holds k ≤ (s.push template).holds k := by
  rw [holds, holds, push, List.countP_cons]
  exact Nat.le_add_right _ _

/-- Binding takes no entry off the stack. -/
theorem holds_bind (s : Stack) (token : UInt64) (uri : Uri) (k : UInt64) :
    (s.bind token uri).holds k = s.holds k := by
  rw [holds_eq, holds_eq, bind, token_bindIn]

/-- Discarding takes only the entries with its own token off the stack. -/
theorem holds_discard {s : Stack} {token k : UInt64} (h : token ≠ k) :
    (s.discard token).holds k = s.holds k := by
  rw [holds, holds, discard, List.countP_filter]
  refine List.countP_congr fun e _ => ?_
  simp only [Bool.and_eq_true, decide_eq_true_eq]
  exact ⟨fun hk => hk.1, fun hk => ⟨hk, fun ht => h (ht.symm.trans hk)⟩⟩

/-- A claim takes only an entry with the token of the claimed one off the stack. -/
theorem holds_claim {s s' : Stack} {uri : Uri} {entry : Entry} {k : UInt64}
    (h : s.claim uri = some (entry, s')) (hk : entry.token ≠ k) : s'.holds k = s.holds k := by
  obtain ⟨newer, older, hs, hs'⟩ := claim_eq_some h
  rw [holds, holds, hs, hs', List.countP_append, List.countP_append,
    List.countP_cons_of_neg (by simp [hk])]

end Route.Stack

section

variable {b b' : Thread} {n n' : Nesting} {e : Event}

/-- An entry leaves the route stack when it is claimed or discarded, when the stack is cleared,
or when the outermost scope is closed. -/
theorem Turn.leaves (h : Turn b n e b' n') {k : UInt64}
    (hk : b'.routes.holds k < b.routes.holds k) :
    (∃ uri entry, e = .claimed uri (some entry) ∧ entry.token = k) ∨ e = .discarded k ∨
      e = .cleared ∨ (e = .scopeClosed ∧ b.active - 1 = 0) := by
  cases h with
  | opened | unclaimed | other => exact absurd hk (Nat.lt_irrefl _)
  | closed =>
      by_cases hb : b.active - 1 = 0
      · exact .inr (.inr (.inr ⟨rfl, hb⟩))
      · rw [Route.closed_inner hb] at hk
        exact absurd hk (Nat.lt_irrefl _)
  | captured _ template => exact absurd hk (Nat.not_lt_of_le (b.routes.holds_push_ge template k))
  | bound _ token uri =>
      rw [b.routes.holds_bind] at hk
      exact absurd hk (Nat.lt_irrefl _)
  | discarded _ token =>
      by_cases htoken : token = k
      · exact .inr (.inl (htoken ▸ rfl))
      · rw [Route.Stack.holds_discard htoken] at hk
        exact absurd hk (Nat.lt_irrefl _)
  | @claimed _ uri entry routes hclaim =>
      by_cases htoken : entry.token = k
      · exact .inl ⟨uri, entry, rfl, htoken⟩
      · rw [Route.Stack.holds_claim hclaim htoken] at hk
        exact absurd hk (Nat.lt_irrefl _)
  | cleared => exact .inr (.inr (.inl rfl))

/-- What closing a scope does. -/
theorem Turn.of_scopeClosed (h : Turn b n .scopeClosed b' n') :
    n.scopes = n'.scopes + 1 ∧ b' = Route.closed b := by
  cases h with
  | closed => exact ⟨rfl, rfl⟩
  | other _ he => cases he

/-- A token is discarded while its expansion is going on. -/
theorem Turn.of_discarded {k : UInt64} (h : Turn b n (.discarded k) b' n') :
    n.expanding = k ::ₘ n'.expanding := by
  cases h with
  | discarded => rfl
  | other _ he => cases he

/-- A turn counts the exchanges that are active as it counts the scopes that are open. -/
theorem Turn.active_eq (h : Turn b n e b' n') (hb : b.active = n.scopes) :
    b'.active = n'.scopes := by
  cases h with
  | opened => exact congrArg (· + 1) hb
  | closed =>
      have hactive : b.active - 1 = n'.scopes := by rw [hb, Nat.add_sub_cancel]
      by_cases hlast : b.active - 1 = 0
      · rw [Route.closed_outermost hlast, ← hactive, hlast]
      · rw [Route.closed_inner hlast, ← hactive]
  | _ => exact hb

/-- Opened scopes are the closed ones and the open ones. -/
theorem Turn.scopes_eq (h : Turn b n e b' n') :
    (if e.isOpening then 1 else 0) + n.scopes = (if e.isClosing then 1 else 0) + n'.scopes := by
  cases h with
  | opened | closed => simp [Event.isOpening, Event.isClosing, Nat.add_comm]
  | @other _ _ he =>
      have hno : e.isOpening = false ∧ e.isClosing = false := by
        cases e <;> first | exact ⟨rfl, rfl⟩ | cases he
      rw [hno.1, hno.2]
  | _ => rfl

/-- The expansions that have begun are those that have ended and those that have not. -/
theorem Turn.expanding_eq (h : Turn b n e b' n') (k : UInt64) :
    (if e.captures k then 1 else 0) + n.expanding.count k =
      (if e.concludes k then 1 else 0) + n'.expanding.count k := by
  cases h with
  | captured _ template =>
      simp [Event.captures, Event.concludes, Multiset.count_cons, eq_comm, Nat.add_comm]
  | bound _ token uri | discarded _ token =>
      simp [Event.captures, Event.concludes, Multiset.count_cons, eq_comm, Nat.add_comm]
  | @other _ _ he =>
      have hno : e.captures k = false ∧ e.concludes k = false := by
        cases e <;> first | exact ⟨rfl, rfl⟩ | cases he
      rw [hno.1, hno.2]
  | _ => rfl

end

/-! ### What the journal of a thread says -/

namespace Replays

variable {t : ThreadId} {j : List Moment} {b : Thread} {n : Nesting}

/-- How a thread stands is what its last event says. -/
theorem eq_standing (h : Replays t j b n) : b = standing t j := by
  induction h with
  | nil => rfl
  | skip _ hm ih => rw [standing, if_neg hm, ih]
  | turn _ _ _ => exact (if_pos rfl).symm

/-- The number of active exchanges is the number of scopes open. -/
theorem active_eq (h : Replays t j b n) : b.active = n.scopes := by
  induction h with
  | nil => rfl
  | skip _ _ ih => exact ih
  | turn _ ht ih => exact ht.active_eq ih

/-- The scopes that were opened are those that were closed and those that are open. -/
theorem openings_eq (h : Replays t j b n) :
    countOn t Event.isOpening j = countOn t Event.isClosing j + n.scopes := by
  induction h with
  | nil => rfl
  | skip _ hm ih => rw [countOn_cons_of_ne hm, countOn_cons_of_ne hm, ih]
  | turn _ ht ih =>
      have hturn := ht.scopes_eq
      rw [countOn_turn, countOn_turn, ih]
      omega

/-- The scopes that are open by the journal are those that are open by the nesting. -/
theorem openScopes_eq (h : Replays t j b n) : openScopes t j = n.scopes := by
  rw [openScopes, h.openings_eq]
  exact Nat.add_sub_cancel_left _ _

/-- The expansions that have begun are those that have ended and those that are going on. -/
theorem captures_eq (h : Replays t j b n) (k : UInt64) :
    countOn t (Event.captures k) j = countOn t (Event.concludes k) j + n.expanding.count k := by
  induction h with
  | nil => rfl
  | skip _ hm ih => rw [countOn_cons_of_ne hm, countOn_cons_of_ne hm, ih]
  | turn _ ht ih =>
      have hturn := ht.expanding_eq k
      rw [countOn_turn, countOn_turn, ih]
      omega

/-- Each event on the thread was a turn of it. -/
theorem exists_turn {newer older : List Moment} {m : Moment}
    (h : Replays t (newer ++ m :: older) b n) (hm : m.thread = t) :
    ∃ b' n₁ n₂, Replays t older b' n₁ ∧ Turn b' n₁ m.event m.after n₂ := by
  generalize hj : newer ++ m :: older = j at h
  induction h generalizing newer with
  | nil => exact absurd hj (List.append_ne_nil_of_right_ne_nil _ (List.cons_ne_nil _ _))
  | skip h' hne ih =>
      rcases newer with _ | ⟨m', newer⟩
      · obtain ⟨rfl, rfl⟩ := List.cons.inj hj
        exact absurd hm hne
      · exact ih (List.cons.inj hj).2
  | turn h' ht ih =>
      rcases newer with _ | ⟨m', newer⟩
      · obtain ⟨rfl, rfl⟩ := List.cons.inj hj
        exact ⟨_, _, _, h', ht⟩
      · exact ih (List.cons.inj hj).2

/-- What each event does to scopes and to the route stack. Closing the outermost scope may drop
entries as well, but then no scope is open afterwards. -/
theorem wellNested {newer older : List Moment} {m : Moment}
    (h : Replays t (newer ++ m :: older) b n) (hm : m.thread = t) : WellNested t older m := by
  obtain ⟨b, n₁, n₂, hr, ht⟩ := h.exists_turn hm
  obtain ⟨t', e, after⟩ := m
  obtain rfl : t' = t := hm
  have hopen : openScopes t' older = b.active := hr.openScopes_eq.trans hr.active_eq.symm
  refine ⟨?_, ?_, ?_, fun hpos k hk => ?_, ?_⟩
  · rintro rfl
    rw [hr.openScopes_eq, ht.of_scopeClosed.1]
    exact Nat.succ_pos _
  · rintro rfl hone
    rw [hopen] at hone
    obtain ⟨-, rfl⟩ := ht.of_scopeClosed
    rw [Route.closed_outermost (by rw [hone])]
    exact ⟨rfl, rfl⟩
  · rintro rfl hmore
    rw [hopen] at hmore
    obtain ⟨-, rfl⟩ := ht.of_scopeClosed
    rw [Route.closed_inner (by omega), ← hr.eq_standing]
  · rw [← hr.eq_standing] at hk
    rw [(Replays.turn hr ht).openScopes_eq, ← ht.active_eq hr.active_eq] at hpos
    rcases ht.leaves hk with hclaimed | hdiscarded | hcleared | ⟨rfl, hb⟩
    · exact .inl hclaimed
    · exact .inr (.inl hdiscarded)
    · exact .inr (.inr hcleared)
    · obtain ⟨-, rfl⟩ := ht.of_scopeClosed
      rw [Route.closed_outermost hb] at hpos
      exact absurd hpos (Nat.lt_irrefl 0)
  · rintro k rfl
    rw [hr.captures_eq, ht.of_discarded, Multiset.count_cons_self]
    omega

end Replays

/-! ### The scope of an operation -/

/-- In these events, the newest first, every scope is closed only after it was opened, and `n`
scopes are left open in the end. -/
inductive LeavesOpen : List Event → Nat → Prop where
  | nil : LeavesOpen [] 0
  | opened {events : List Event} {n : Nat} (h : LeavesOpen events n) :
      LeavesOpen (.scopeOpened :: events) (n + 1)
  | closed {events : List Event} {n : Nat} (h : LeavesOpen events (n + 1)) :
      LeavesOpen (.scopeClosed :: events) n
  | other {events : List Event} {n : Nat} {e : Event} (h : LeavesOpen events n)
      (hopening : e.isOpening = false) (hclosing : e.isClosing = false) :
      LeavesOpen (e :: events) n

/-- These events, the newest first, are those of one scope: it is opened before everything else
and closed after everything else, and in between every other scope is closed that is opened. -/
def IsScope (events : List Event) : Prop :=
  ∃ during, LeavesOpen during 0 ∧ events = .scopeClosed :: (during ++ [.scopeOpened])

/-- An action of a thread writes one event into the journal at most. The account is of the events
that the thread has written, the newest first. -/
def Event.writing {σ : Type} : Rule σ (List Event) := fun t w events w' events' =>
  (w'.journal = w.journal ∧ events' = events) ∨
    ∃ e, w'.journal = ⟨t, e, w'.thread t⟩ :: w.journal ∧ events' = e :: events

/-- What a computation writes into the journal is one scope, however it ends and whatever other
threads do between its actions. -/
def Exec.Scoped {σ α : Type} (m : Exec σ α) : Prop :=
  m.Keeps Event.writing [] (fun _ => IsScope) IsScope

/-- A turn opens a scope, or closes one, or does neither, and so does the event of it. -/
theorem Turn.leavesOpen {b b' : Thread} {n n' : Nesting} {e : Event} (h : Turn b n e b' n')
    {events : List Event} (hevents : LeavesOpen events n.scopes) :
    LeavesOpen (e :: events) n'.scopes := by
  cases h with
  | opened => exact hevents.opened
  | closed => exact hevents.closed
  | @other _ _ he =>
      refine hevents.other ?_ ?_ <;> cases e <;> first | rfl | cases he
  | _ => exact hevents.other rfl rfl

section

variable {σ α : Type} {m : Exec σ α}

/-- A change of what belongs to the thread writes its event. -/
theorem Exec.keeps_writing_onThread {f : Thread → α × Thread × Event} {events : List Event}
    {ret : α → List Event → Prop} {pan : List Event → Prop}
    (h : ∀ t, ret (f t).1 ((f t).2.2 :: events)) :
    (onThread f : Exec σ α).Keeps Event.writing events ret pan := by
  intro c w
  have hself : ((w.setThread c.thread (f (w.thread c.thread)).2.1).note c.thread
      (f (w.thread c.thread)).2.2).journal = ⟨c.thread, (f (w.thread c.thread)).2.2,
        (w.setThread c.thread (f (w.thread c.thread)).2.1).thread c.thread⟩ :: w.journal := rfl
  exact ⟨_, .inr ⟨_, hself, rfl⟩, h _⟩

/-- A nested computation closes every scope that it opens, after it has opened it. -/
theorem Exec.Nested.keeps_writing (hm : m.Nested) (events : List Event)
    {ret : α → List Event → Prop} {pan : List Event → Prop}
    (hret : ∀ a during, LeavesOpen during 0 → ret a (during ++ events))
    (hpan : ∀ during, LeavesOpen during 0 → pan (during ++ events)) :
    m.Keeps Event.writing events ret pan := by
  have hnested := (hm {}).translate Event.writing
    (fun n own => ∃ during, LeavesOpen during n.scopes ∧ own = during ++ events)
    ⟨[], .nil, rfl⟩ ?_
  · refine hnested.mono ?_ ?_
    · rintro a _ ⟨n, ⟨hn, -⟩, during, hduring, rfl⟩
      rw [hn] at hduring
      exact hret a during hduring
    · rintro _ ⟨n, ⟨hn, -⟩, during, hduring, rfl⟩
      rw [hn] at hduring
      exact hpan during hduring
  · rintro t w n w' n' _ ⟨-, ⟨hj, -, rfl⟩ | ⟨e, hj, hturn⟩⟩ ⟨during, hduring, rfl⟩
    · exact ⟨_, .inl ⟨hj, rfl⟩, during, hduring, rfl⟩
    · exact ⟨_, .inr ⟨e, hj, rfl⟩, e :: during, hturn.leavesOpen hduring, rfl⟩

/-- The scope around a nested computation is what the whole of it writes. -/
theorem Exec.Nested.inScope_scoped (hm : m.Nested) : (Route.inScope m).Scoped := by
  refine Exec.Keeps.bind (Exec.keeps_writing_onThread fun _ => ?_)
  have hclose (during : List Event) (hduring : LeavesOpen during 0) :
      (Route.closeScope : Exec σ Unit).Keeps Event.writing (during ++ [.scopeOpened])
        (fun _ => IsScope) IsScope :=
    Exec.keeps_writing_onThread fun _ => ⟨during, hduring, rfl⟩
  exact Exec.Keeps.andThen (hm.keeps_writing _ (fun _ => hclose) hclose)

/-- Each operation of an instrumentation is a scope of its own: an interceptor as a whole, and a
measured service while it is called. -/
structure Instrumentation.OpensScopes (i : LiveInstrumentation σ) : Prop where
  /-- What an interceptor writes into the journal is one scope. -/
  intercepted : ∀ (request : Request) (delegate : Request → Exec σ Result),
    (∀ r, (delegate r).Nested) → (i.intercept request delegate).Scoped
  /-- So is what is written when a measured service is called. -/
  called : ∀ {φ : Type} (request : Request) (inner : Request → Exec σ φ),
    (∀ r, (inner r).Nested) → (i.call inner request).Scoped

/-- The operations are scopes of their own if the parts of the instrumentation are nested. -/
theorem Instrumentation.opensScopes {i : LiveInstrumentation σ} (hi : i.Consists Exec.Nested) :
    i.OpensScopes := by
  have hexchange {α : Type} {request : Request} {go : Observation × Request → Exec σ α}
      (hgo : ∀ r, (go r).Nested) : (Route.inScope (i.start request >>= go)).Scoped :=
    ((Instrumentation.start_nested request hi.now).bind hgo).inScope_scoped
  refine ⟨fun request delegate hd => ?_, fun request inner hinner => ?_⟩
  · exact Exec.nested_composes.intercept hi hexchange hd
  · exact Exec.nested_composes.call hi hexchange hinner

end

/-! ### Pools of programs -/

section

variable {σ : Type} {kept : σ → Multiset Observation}

/-- The nesting of a thread, among those of all threads. -/
def Nesting.of (nestings : List Nesting) (t : ThreadId) : Nesting :=
  (nestings[t]?).getD {}

/-- Each thread closes the scopes that it opens, and can be replayed from the journal. -/
def Pool.Nests (p : Pool σ) : Prop :=
  ∃ nestings : List Nesting, p.Keeps Nesting.rule (fun n => n.scopes = 0) nestings ∧
    ∀ t, Replays t p.world.journal (p.world.thread t) (.of nestings t)

/-- An action that keeps the rule can be replayed on its thread. -/
theorem Nesting.rule_replays {t : ThreadId} {w w' : World σ} {n n' : Nesting}
    (h : Nesting.rule t w n w' n') (hr : Replays t w.journal (w.thread t) n) :
    Replays t w'.journal (w'.thread t) n' := by
  obtain ⟨-, ⟨hj, ht, rfl⟩ | ⟨e, hj, hturn⟩⟩ := h
  · rw [hj, ht]
    exact hr
  · rw [hj]
    exact hr.turn hturn

/-- An action that keeps the rule changes nothing for other threads. -/
theorem Nesting.rule_replays_ne {t u : ThreadId} {w w' : World σ} {n n' n₁ : Nesting}
    (h : Nesting.rule t w n w' n') (hu : u ≠ t) (hr : Replays u w.journal (w.thread u) n₁) :
    Replays u w'.journal (w'.thread u) n₁ := by
  obtain ⟨hthread, ⟨hj, -, -⟩ | ⟨e, hj, -⟩⟩ := h
  · rw [hj, hthread u hu]
    exact hr
  · rw [hj, hthread u hu]
    exact hr.skip (Ne.symm hu)

/-- Nothing has happened yet that would have to be replayed. -/
theorem Pool.Fresh.replays {p : Pool σ} (h : p.Fresh kept) (t : ThreadId) :
    Replays t p.world.journal (p.world.thread t) (.of (p.threads.map fun _ => {}) t) := by
  have hthread : p.world.thread t = {} := by
    rw [World.thread, h.idle]
    rfl
  have hnesting : Nesting.of (p.threads.map fun _ => {}) t = {} := by
    rw [Nesting.of, List.getElem?_map]
    cases p.threads[t]? <;> rfl
  rw [hthread, h.journal, hnesting]
  exact .nil

/-- Nothing is nested before anything has happened, and threads that run programs close every scope
that they open. -/
theorem Pool.Fresh.nests {p : Pool σ} (h : p.Fresh kept) : p.Nests := by
  refine ⟨p.threads.map fun _ => {}, ?_, h.replays⟩
  refine List.forall₂_map_right_iff.mpr (List.forall₂_same.mpr fun m hm => ?_)
  exact (h.threads m hm).nested.keeps (fun _ _ hn => hn.1) fun _ hn => hn.1

/-- A step of any thread can be replayed. -/
theorem Pool.Nests.step {p q : Pool σ} {t : ThreadId} (h : p.Nests) (hs : Pool.Step t p q) :
    q.Nests := by
  obtain ⟨nestings, hkeeps, hreplays⟩ := h
  obtain ⟨n, n', hget, hrule, hkeeps'⟩ := hs.keeps hkeeps
  refine ⟨nestings.set t n', hkeeps', fun u => ?_⟩
  by_cases hu : u = t
  · subst hu
    have hlt := (List.getElem?_eq_some_iff.mp hget).1
    have hr := hreplays u
    rw [Nesting.of, hget] at hr
    rw [Nesting.of, List.getElem?_set_self hlt]
    exact Nesting.rule_replays hrule hr
  · rw [Nesting.of, List.getElem?_set_ne (Ne.symm hu)]
    exact Nesting.rule_replays_ne hrule hu (hreplays u)

/-- In every state that threads running programs can reach, the number of exchanges active on a
thread is the number of scopes open there; no scope is left open when the thread has ended; and
every event that led there did to scopes and to the route stack what it should. The scopes are the
operations of instrumentations whose parts are nested, as the parts of programs are. -/
theorem Pool.scopes_kept {p q : Pool σ} (hp : p.Fresh kept) (h : p.Reaches q) (t : ThreadId) :
    (q.world.thread t).active = openScopes t q.world.journal ∧
      q.world.thread t = standing t q.world.journal ∧
      (∀ e, q.threads[t]? = some (.ended e) → openScopes t q.world.journal = 0) ∧
      (∀ newer m older, q.world.journal = newer ++ m :: older → m.thread = t →
        WellNested t older m) ∧
      ∀ i : LiveInstrumentation σ, i.Consists Exec.Nested → i.OpensScopes := by
  have hnests : q.Nests := h.invariant hp.nests fun _ _ _ hr hs => hr.step hs
  obtain ⟨nestings, hkeeps, hreplays⟩ := hnests
  have hr := hreplays t
  refine ⟨?_, hr.eq_standing, fun e he => ?_, fun newer m older hj hm => ?_, fun i hi => ?_⟩
  · rw [hr.active_eq, hr.openScopes_eq]
  · obtain ⟨n, hn, hend⟩ := forall₂_getElem? hkeeps he
    have hzero : n.scopes = 0 := by cases e <;> exact hend
    rw [hr.openScopes_eq, Nesting.of, hn]
    exact hzero
  · rw [hj] at hr
    exact hr.wellNested hm
  · exact i.opensScopes hi

end

/-! ### An exchange within an exchange -/

/-- Run an exchange within another one. -/
def innerExchange : Exec Unit Result :=
  (Instrumentation.plain false).intercept .plain fun request =>
    (Instrumentation.plain false).intercept request fun _ => pure (.ok .plain)

/-- Expand a template, and run an exchange within another one. -/
def nestedExchanges : Exec Unit Unit := do
  let handler : TemplateHandler Unit := fun _ _ => pure (.ok Request.plain.uri)
  let _ ← handler.capturing "/" (.positional [])
  let _ ← innerExchange

/-- The program owns nothing, since its exchanges begin and end within it. -/
theorem program_nestedExchanges : Program (fun _ => 0) 0 nestedExchanges fun _ => 0 := by
  refine .bind (.expand (.pure _ fun _ => 0)) fun _ => .bind ?_ fun _ => .pure () fun _ => 0
  refine .intercept .plain .plain_now .plain_record .plain_provider fun request => ?_
  exact .intercept request .plain_now .plain_record .plain_provider fun _ => .pure _ fun _ => 0

/-- Both scopes are closed in the end, every event on the way is as it should be, and the outer
exchange is one scope. -/
theorem scopes_kept_nestedExchanges :
    ∃ q : Pool Unit, Pool.Reaches ⟨{ shared := () }, [nestedExchanges]⟩ q ∧
      countOn 0 Event.isOpening q.world.journal = 2 ∧ (q.world.thread 0).active = 0 ∧
      (∀ newer m older, q.world.journal = newer ++ m :: older → m.thread = 0 →
        WellNested 0 older m) ∧ innerExchange.Scoped := by
  have hfresh : Pool.Fresh (fun _ => 0) ⟨{ shared := () }, [nestedExchanges]⟩ :=
    ⟨rfl, rfl, rfl, rfl, fun m hm => List.mem_singleton.mp hm ▸ program_nestedExchanges⟩
  have hreaches := Pool.reaches_run (p := ⟨{ shared := () }, [nestedExchanges]⟩) (t := 0) rfl
  obtain ⟨hactive, -, hended, hwell, hscopes⟩ := Pool.scopes_kept hfresh hreaches 0
  have hplain : (Instrumentation.plain false : LiveInstrumentation Unit).Consists Exec.Nested :=
    Instrumentation.plain_consists Exec.nested_composes.pure
  have hinner (request : Request) : ((Instrumentation.plain false).intercept request
      fun _ => pure (.ok .plain) : Exec Unit Result).Nested :=
    Exec.nested_inherited.intercept hplain request fun _ => Exec.nested_composes.pure _
  exact ⟨_, hreaches, by decide +kernel, hactive.trans (hended _ rfl), hwell,
    (hscopes _ hplain).intercepted .plain _ hinner⟩

end ExchangeMetrics
