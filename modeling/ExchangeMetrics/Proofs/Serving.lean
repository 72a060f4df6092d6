import ExchangeMetrics.Proofs.Claiming
import ExchangeMetrics.Proofs.Handing

/-!
# Captured routes serve once

An entry of the route stack goes back to one expansion of a template on the same thread, and it
goes to one exchange at most, which began there after the expansion and asked for a URI with the
same target. What was claimed, discarded or cleared goes to nobody afterwards.

All this takes for granted that no more than `2 ^ 64` templates were pushed on the thread, for
beyond that tokens are given out again.

## Main results

* `Replays.captured`: where the entries on the stack of a thread come from.
* `Instrumentation.route_of_start`: the route of an exchange.
* `Pool.routes_served_once`: which exchanges entries are handed to, in every run of a pool.
-/

namespace ExchangeMetrics

/-! ### Where entries come from -/

/-- An entry stands for a template that was pushed on a thread and, if it is bound, for the URI
that the expansion of the template returned afterwards. -/
def Captured (t : ThreadId) (journal : List Moment) (entry : Route.Entry) : Prop :=
  ∃ newer after older,
    journal = newer ++ ⟨t, .captured entry.token entry.template, after⟩ :: older ∧
      ∀ uri, entry.uri = some uri → ∃ newer₁ after₁ newer₂,
        newer = newer₁ ++ ⟨t, .bound entry.token uri, after₁⟩ :: newer₂

section

variable {t : ThreadId} {journal : List Moment} {entry : Route.Entry}

/-- Where an entry comes from does not change with what happens later. -/
theorem Captured.cons (h : Captured t journal entry) (m : Moment) :
    Captured t (m :: journal) entry := by
  obtain ⟨newer, after, older, rfl, hbound⟩ := h
  refine ⟨m :: newer, after, older, rfl, fun uri huri => ?_⟩
  obtain ⟨newer₁, after₁, newer₂, rfl⟩ := hbound uri huri
  exact ⟨m :: newer₁, after₁, newer₂, rfl⟩

/-- An entry that is bound when its expansion returns is bound to what the expansion returned. -/
theorem Captured.bound (h : Captured t journal entry) (uri : Uri) (b : Thread) :
    Captured t (⟨t, .bound entry.token uri, b⟩ :: journal) { entry with uri := some uri } := by
  obtain ⟨newer, after, older, rfl, -⟩ := h
  refine ⟨_ :: newer, after, older, rfl, fun uri' huri => ?_⟩
  obtain rfl := Option.some.inj huri
  exact ⟨[], b, newer, rfl⟩

/-- An entry shares a target exactly if it is bound to a URI that has it. -/
theorem Route.Entry.sharesTarget_iff {uri : Uri} :
    entry.sharesTarget uri = true ↔ ∃ u, entry.uri = some u ∧ u.sameTarget uri = true := by
  rw [sharesTarget]
  cases entry.uri <;> simp

namespace Route.Stack

/-- After binding, an entry is one of those before, or one of those before with the URI. -/
theorem mem_bindIn {token : UInt64} {uri : Uri} {es : List Entry} {entry : Entry}
    (h : entry ∈ bindIn token uri es) :
    entry ∈ es ∨ ∃ old ∈ es, old.token = token ∧ entry = { old with uri := some uri } := by
  induction es with
  | nil => cases h
  | cons e es ih =>
      rw [bindIn] at h
      split at h
      · rcases List.mem_cons.mp h with rfl | h
        · exact .inl List.mem_cons_self
        · rcases ih h with hmem | ⟨old, hold, htoken⟩
          · exact .inl (List.mem_cons_of_mem e hmem)
          · exact .inr ⟨old, List.mem_cons_of_mem e hold, htoken⟩
      · split at h
        · rename_i htoken
          rcases List.mem_cons.mp h with rfl | h
          · exact .inr ⟨e, List.mem_cons_self, htoken, rfl⟩
          · exact .inl (List.mem_cons_of_mem e h)
        · exact .inl h

/-- A claim takes entries away and leaves the others in their order. -/
theorem sublist_of_claim {s s' : Stack} {uri : Uri} {claimed : Entry}
    (h : s.claim uri = some (claimed, s')) : s'.entries.Sublist s.entries := by
  obtain ⟨newer, older, hs, hs'⟩ := claim_eq_some h
  rw [hs, hs']
  exact (List.sublist_cons_self claimed older).append_left newer

/-- Claiming adds no entries. -/
theorem mem_of_claim {s s' : Stack} {uri : Uri} {claimed entry : Entry}
    (h : s.claim uri = some (claimed, s')) (hmem : entry ∈ s'.entries) : entry ∈ s.entries :=
  (sublist_of_claim h).subset hmem

end Route.Stack

/-- An entry that is on the stack after a turn was there before, is pushed, or is bound. -/
theorem Turn.mem_entries {b b' : Thread} {n n' : Nesting} {e : Event} (h : Turn b n e b' n')
    (hmem : entry ∈ b'.routes.entries) :
    entry ∈ b.routes.entries ∨
      (e = .captured entry.token entry.template ∧ entry.uri = none) ∨
      ∃ old ∈ b.routes.entries, ∃ uri, e = .bound old.token uri ∧
        entry = { old with uri := some uri } := by
  cases h with
  | opened | unclaimed | other => exact .inl hmem
  | closed =>
      rw [Route.routes_closed] at hmem
      split at hmem
      · cases hmem
      · exact .inl hmem
  | captured _ template =>
      rcases List.mem_cons.mp hmem with rfl | hmem
      · exact .inr (.inl ⟨rfl, rfl⟩)
      · exact .inl hmem
  | bound _ token uri =>
      rcases Route.Stack.mem_bindIn hmem with hmem | ⟨old, hold, rfl, rfl⟩
      · exact .inl hmem
      · exact .inr (.inr ⟨old, hold, uri, rfl, rfl⟩)
  | discarded _ token => exact .inl (List.mem_of_mem_filter hmem)
  | claimed _ hclaim => exact .inl (Route.Stack.mem_of_claim hclaim hmem)
  | cleared => cases hmem

/-- Every entry on the stack of a thread was captured there. -/
theorem Replays.captured {b : Thread} {n : Nesting} (h : Replays t journal b n)
    (hmem : entry ∈ b.routes.entries) : Captured t journal entry := by
  induction h generalizing entry with
  | nil => cases hmem
  | skip _ _ ih => exact (ih hmem).cons _
  | @turn older b b' _ _ e _ ht ih =>
      rcases ht.mem_entries hmem with hmem | ⟨rfl, hnone⟩ | ⟨old, hold, uri, rfl, rfl⟩
      · exact (ih hmem).cons _
      · refine ⟨[], b', older, rfl, fun uri huri => ?_⟩
        rw [hnone] at huri
        cases huri
      · exact (ih hold).bound uri b'

end

/-! ### The route of an exchange -/

section

variable {σ : Type} {i : LiveInstrumentation σ} {request r : Request} {c : Context}
  {w w' : World σ} {o : Observation}

/-- The route of an exchange is the template attached to its request, or else that of the entry
that it claims. -/
theorem Instrumentation.route_of_start
    (h : (i.start request).run c w = (.returned (o, r), w')) :
    o.request.route =
      (request.route <|> ((w.thread c.thread).routes.claim request.uri).map (·.1.template)) := by
  rw [start_eq, Exec.run_bind_returned (Route.run_claim request.uri c w)] at h
  obtain ⟨offers, w₂, -, h⟩ := Exec.run_bind_eq_returned.mp h
  obtain ⟨_, w₃, -, h⟩ := Exec.run_bind_eq_returned.mp h
  obtain ⟨begun, w₄, -, h⟩ := Exec.run_bind_eq_returned.mp h
  obtain ⟨exchange, w₅, -, h⟩ := Exec.run_bind_eq_returned.mp h
  obtain ⟨h, -⟩ := Prod.mk.inj h
  obtain ⟨rfl, -⟩ := Prod.mk.inj (Ending.returned.inj h)
  rfl

end

/-! ### Serving once -/

/-- What is guaranteed about the entries of a thread. -/
structure ServedOnce (t : ThreadId) (journal : List Moment) : Prop where
  /-- A token stands for one expansion, which ends with a URI or an error once at most. -/
  expansions : ∀ k, countOn t (Event.captures k) journal ≤ 1 ∧
    countOn t (Event.concludes k) journal ≤ 1
  /-- An exchange begins with what was claimed in its scope for its URI. -/
  began : ∀ newer x v after older, journal = newer ++ ⟨t, .started x v, after⟩ :: older →
    Handing (awaiting t older) (.started x v)
  /-- An entry is handed to one exchange at most. -/
  once : ∀ k, handovers t k journal ≤ 1
  /-- What an exchange is handed was claimed on its thread for its URI; it was captured there
  before, and bound to a URI with the same target when its expansion returned. -/
  origin : ∀ newer x v after older entry,
    journal = newer ++ ⟨t, .started x v, after⟩ :: older → handed? t older = some entry →
      ∃ uri, entry.uri = some uri ∧ uri.sameTarget v.uri = true ∧
        ∃ older₁ after₁ older₂,
          older = older₁ ++ ⟨t, .claimed v.uri (some entry), after₁⟩ :: older₂ ∧
            Captured t older₂ entry
  /-- What left the stack is not claimed any more. -/
  gone : ∀ newer m older k, journal = newer ++ m :: older → Removes t k older m →
    0 < countOn t (Event.captures k) older →
      ∀ m' ∈ newer, m'.thread = t → m'.event.claims k = false

/-- Whoever claims an entry finds it on the stack of the thread, bound to a URI with the same
target. -/
theorem Replays.of_claimed {t : ThreadId} {newer older : List Moment} {after b : Thread}
    {n : Nesting} {uri : Uri} {entry : Route.Entry}
    (h : Replays t (newer ++ ⟨t, .claimed uri (some entry), after⟩ :: older) b n) :
    Captured t older entry ∧ entry.sharesTarget uri = true := by
  obtain ⟨b', n₁, n₂, hr, ht⟩ := h.exists_turn rfl
  obtain ⟨hmem, hshares⟩ : entry ∈ b'.routes.entries ∧ entry.sharesTarget uri = true := by
    cases ht with
    | claimed _ hclaim => exact Route.Stack.mem_claim hclaim
    | other _ he => cases he
  exact ⟨hr.captured hmem, hshares⟩

/-- An entry that left the stack is not claimed afterwards. -/
theorem Replays.not_claims_of_removes {t : ThreadId} {newer older : List Moment} {m : Moment}
    {b : Thread} {n : Nesting} {k : UInt64} (h : Replays t (newer ++ m :: older) b n)
    (hone : countOn t (Event.captures k) (newer ++ m :: older) ≤ 1)
    (hm : Removes t k older m) (hcaptured : 0 < countOn t (Event.captures k) older) :
    ∀ m' ∈ newer, m'.thread = t → m'.event.claims k = false := by
  have hsplit : countOn t (Event.captures k) (newer ++ m :: older) =
      countOn t (Event.captures k) newer + countOn t (Event.captures k) (m :: older) :=
    countOn_append t _ _ _
  have holder : countOn t (Event.captures k) older ≤ countOn t (Event.captures k) (m :: older) :=
    (List.sublist_cons_self m older).countP_le
  obtain ⟨b₀, n₀, hr, hle⟩ := h.holds_le_append k
  have hgone : b₀.routes.holds k = 0 := hr.not_holds_of_removes (by omega) hm
  have hnone : countOn t (Event.claims k) newer = 0 := by omega
  intro m' hm' hthread
  have hm' := List.countP_eq_zero.mp hnone m' hm'
  simpa [hthread] using hm'

/-- In every state that threads running programs can reach, every entry that was ever pushed on a
thread has been handed to one exchange at most, on the same thread, after its expansion had
returned, for a URI with the same target, and as the exchange's route unless a template was
attached to the request; and an entry that was claimed, discarded or cleared is not handed to
later exchanges. -/
theorem Pool.routes_served_once {σ : Type} {kept : σ → Multiset Observation} {p q : Pool σ}
    (hp : p.Fresh kept) (h : p.Reaches q) (t : ThreadId)
    (hfew : pushes t q.world.journal ≤ 2 ^ 64) :
    ServedOnce t q.world.journal ∧
      ∀ (i : LiveInstrumentation σ) (request r : Request) (c : Context) (w w' : World σ)
        (o : Observation), (i.start request).run c w = (.returned (o, r), w') →
          o.request.route = (request.route <|>
            ((w.thread c.thread).routes.claim request.uri).map (·.1.template)) := by
  refine ⟨?_, fun i request r c w w' o => i.route_of_start⟩
  obtain ⟨nestings, -, hreplays⟩ : q.Nests := h.invariant hp.nests fun _ _ _ hr hs => hr.step hs
  obtain ⟨_, -, -, hhanding⟩ : q.Hands := h.invariant hp.hands fun _ _ _ hr hs => hr.step hs
  have hr := hreplays t
  have hone (k : UInt64) := hr.captures_le_one hfew k
  refine ⟨fun k => ⟨hone k, ?_⟩, ?_, fun k => ?_, ?_, ?_⟩
  · have heq := hr.captures_eq k
    have hle := hone k
    omega
  · intro newer x v after older hj
    exact hhanding newer ⟨t, .started x v, after⟩ older hj
  · have hclaims := handovers_add_le (t := t) k q.world.journal
    have hpushed := hr.holds_add_claims_le k
    have hle := hone k
    omega
  · intro newer x v after older entry hj hentry
    have hbegan := hhanding newer ⟨t, .started x v, after⟩ older hj
    obtain ⟨older₁, after₁, older₂, rfl⟩ := Handing.exists_claimed hbegan hentry
    have hj' : q.world.journal = (newer ++ ⟨t, .started x v, after⟩ :: older₁) ++
        ⟨t, .claimed v.uri (some entry), after₁⟩ :: older₂ := by
      rw [hj, List.append_assoc, List.cons_append]
    rw [hj'] at hr
    obtain ⟨hcaptured, hshares⟩ := hr.of_claimed
    obtain ⟨uri, hbound, hsame⟩ := Route.Entry.sharesTarget_iff.mp hshares
    exact ⟨uri, hbound, hsame, older₁, after₁, older₂, rfl, hcaptured⟩
  · intro newer m older k hj hm hcaptured
    have hle := hone k
    rw [hj] at hr hle
    exact hr.not_claims_of_removes hle hm hcaptured

/-- Of two exchanges for the same URI, one within the other, the outer one is handed the entry that
was captured for the URI, and the inner one is handed none. -/
theorem routes_served_once_nestedExchanges :
    ∃ q : Pool Unit, Pool.Reaches ⟨{ shared := () }, [nestedExchanges]⟩ q ∧
      pushes 0 q.world.journal = 1 ∧ countOn 0 Event.isStart q.world.journal = 2 ∧
      handovers 0 0 q.world.journal = 1 ∧ ServedOnce 0 q.world.journal := by
  have hfresh : Pool.Fresh (fun _ => 0) ⟨{ shared := () }, [nestedExchanges]⟩ :=
    ⟨rfl, rfl, rfl, rfl, fun m hm => List.mem_singleton.mp hm ▸ program_nestedExchanges⟩
  have hreaches := Pool.reaches_run (p := ⟨{ shared := () }, [nestedExchanges]⟩) (t := 0) rfl
  obtain ⟨hserved, -⟩ := Pool.routes_served_once hfresh hreaches 0 (by decide +kernel)
  exact ⟨_, hreaches, by decide +kernel, by decide +kernel, by decide +kernel, hserved⟩

end ExchangeMetrics
