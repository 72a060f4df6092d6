import ExchangeMetrics.Proofs.Serving

/-!
# Entries without a URI

An entry of the route stack has no URI as long as its template is being expanded. If the expansion
gives a URI, the entry is bound to it, and if the expansion fails, the entry is discarded. But if
the handler that expands the template panics, nobody looks after the entry. It stays on the
stack without a URI, so that no exchange can ever claim it, until the stack is cleared as a whole.

So an entry without a URI belongs to an expansion that is still going on, or else to one whose
handler panicked. Programs in which no handler panics leave no such entries behind.

## Main results

* `Replays.expanding`: an entry without a URI belongs to an expansion that has not returned.
* `Exec.Careful.settles`: where no handler panics every expansion is concluded.
* `Pool.Concludes.step`: so a thread has still to conclude what it has begun.
* `Pool.pending_entries`: entries without a URI in every state that a pool can reach.
* `pending_entries_abandoned`: an entry that a handler's panic leaves behind.
-/

namespace ExchangeMetrics

/-! ### Entries and their expansions -/

/-- An entry belongs to an expansion that began on a thread and has returned neither a URI nor an
error. -/
def Expanding (t : ThreadId) (journal : List Moment) (entry : Route.Entry) : Prop :=
  ∃ newer after older,
    journal = newer ++ ⟨t, .captured entry.token entry.template, after⟩ :: older ∧
      ∀ m ∈ newer, m.thread = t → m.event.concludes entry.token = false

section

variable {entry : Route.Entry}

/-- Binding the only entry with a token leaves no entry with this token without a URI. -/
theorem Route.Stack.bindIn_uri {token : UInt64} {uri : Uri} {es : List Route.Entry}
    (hone : es.countP (·.token = token) ≤ 1) (hmem : entry ∈ bindIn token uri es)
    (htoken : entry.token = token) : entry.uri = some uri := by
  induction es with
  | nil => cases hmem
  | cons e es ih =>
      rw [List.countP_cons] at hone
      rw [bindIn] at hmem
      split at hmem
      · rename_i hany
        have hpos : 0 < es.countP (·.token = token) := by
          obtain ⟨e', he', htoken'⟩ := List.any_eq_true.1 hany
          exact List.countP_pos_iff.2 ⟨e', he', htoken'⟩
        rcases List.mem_cons.1 hmem with rfl | hmem
        · simp only [htoken, decide_true, if_true] at hone
          omega
        · exact ih (by omega) hmem
      · rename_i hnone
        have hrest : entry ∉ es := by
          intro hrest
          exact hnone (List.any_eq_true.2 ⟨entry, hrest, decide_eq_true htoken⟩)
        split at hmem
        · rcases List.mem_cons.1 hmem with rfl | hmem
          · rfl
          · exact absurd hmem hrest
        · rename_i hne
          rcases List.mem_cons.1 hmem with rfl | hmem
          · exact absurd htoken hne
          · exact absurd hmem hrest

/-- If the entries without a URI belong to expansions that are going on, they still do after a
turn, as long as no token was given out twice. -/
theorem Turn.mem_expanding {b b' : Thread} {n n' : Nesting} {e : Event} (h : Turn b n e b' n')
    (hone : ∀ k, b.routes.holds k ≤ 1)
    (hb : ∀ entry ∈ b.routes.entries, entry.uri = none → entry.token ∈ n.expanding) :
    ∀ entry ∈ b'.routes.entries, entry.uri = none → entry.token ∈ n'.expanding := by
  intro entry hmem hnone
  cases h with
  | opened | unclaimed | other => exact hb entry hmem hnone
  | closed =>
      rw [Route.routes_closed] at hmem
      split at hmem
      · cases hmem
      · exact hb entry hmem hnone
  | captured _ template =>
      rcases List.mem_cons.1 hmem with rfl | hmem
      · exact Multiset.mem_cons_self _ _
      · exact Multiset.mem_cons_of_mem (hb entry hmem hnone)
  | bound _ token uri =>
      have hne : entry.token ≠ token := by
        intro htoken
        rw [Route.Stack.bindIn_uri (hone token) hmem htoken] at hnone
        cases hnone
      rcases Route.Stack.mem_bindIn hmem with hmem | ⟨old, hold, rfl, rfl⟩
      · rcases Multiset.mem_cons.1 (hb entry hmem hnone) with htoken | hmem
        · exact absurd htoken hne
        · exact hmem
      · cases hnone
  | discarded _ token =>
      obtain ⟨hmem, hne⟩ := List.mem_filter.1 hmem
      rcases Multiset.mem_cons.1 (hb entry hmem hnone) with htoken | hmem
      · exact absurd htoken (of_decide_eq_true hne)
      · exact hmem
  | claimed _ hclaim => exact hb entry (Route.Stack.mem_of_claim hclaim hmem) hnone
  | cleared => cases hmem

namespace Replays

variable {t : ThreadId} {j : List Moment} {b : Thread} {n : Nesting}

/-- Every entry without a URI belongs to an expansion that has not ended with a URI or an error. -/
theorem mem_expanding (h : Replays t j b n) (hone : ∀ k, countOn t (Event.captures k) j ≤ 1) :
    ∀ entry ∈ b.routes.entries, entry.uri = none → entry.token ∈ n.expanding := by
  induction h with
  | nil =>
      intro entry hmem
      cases hmem
  | skip _ hm ih =>
      refine ih fun k => ?_
      have hk := hone k
      rwa [countOn_cons_of_ne hm] at hk
  | @turn older b b' n n' e hr ht ih =>
      have hone' (k : UInt64) : countOn t (Event.captures k) older ≤ 1 := by
        have hk := hone k
        rw [countOn_turn] at hk
        omega
      refine ht.mem_expanding (fun k => ?_) (ih hone')
      have hle := hr.holds_add_claims_le k
      have hk := hone' k
      omega

/-- An entry without a URI belongs to an expansion that is still going on. -/
theorem expanding (h : Replays t j b n) (hone : ∀ k, countOn t (Event.captures k) j ≤ 1)
    (hmem : entry ∈ b.routes.entries) (hnone : entry.uri = none) : Expanding t j entry := by
  obtain ⟨newer, after, older, rfl, -⟩ := h.captured hmem
  refine ⟨newer, after, older, rfl, ?_⟩
  have hopen := Multiset.count_pos.2 (h.mem_expanding hone entry hmem hnone)
  have hended := h.captures_eq entry.token
  have hk := hone entry.token
  have hzero : countOn t (Event.concludes entry.token)
      (newer ++ ⟨t, .captured entry.token entry.template, after⟩ :: older) = 0 := by omega
  intro m hm hthread
  have hnot := List.countP_eq_zero.1 hzero m (List.mem_append_left _ hm)
  simpa [hthread] using hnot

end Replays

end

/-! ### Where no handler panics -/

/-- A computation does not panic, whatever other threads do in between its actions. -/
def Exec.NeverPanics {σ α : Type} : Exec σ α → Prop
  | ended (.returned _) => True
  | ended (.panicked _) => False
  | act _ next => ∀ c w, (next c w).NeverPanics

/-- Computations that are made of the same things as programs, except that no template handler in
them panics. Anything else in them may panic, and panics may be caught anywhere. -/
inductive Exec.Careful {σ : Type} : {α : Type} → Exec σ α → Prop where
  | pure {α : Type} (a : α) : Careful (Pure.pure a)
  | panic {α : Type} (message : String) : Careful (Exec.panic message : Exec σ α)
  | bind {α β : Type} {m : Exec σ α} {f : α → Exec σ β} (hm : Careful m)
      (hf : ∀ a, Careful (f a)) : Careful (m >>= f)
  | guarded {α : Type} {m : Exec σ α} (hm : Careful m) : Careful m.guarded
  | onPanic {α : Type} {m : Exec σ α} {cleanup : Exec σ Unit} (hm : Careful m)
      (hc : Careful cleanup) : Careful (m.onPanic cleanup)
  | context : Careful Exec.context
  | access {α : Type} (f : σ → α × σ) : Careful (Exec.access f)
  | propagated : Careful Exec.propagated
  | setPropagated (headers : List (String × String)) : Careful (Exec.setPropagated headers)
  | remark {e : Event} (he : e.isRemark = true) : Careful (Exec.note e)
  | depth : Careful Route.depth
  | clear : Careful Route.clear
  /-- A template is expanded by a handler that does not panic. -/
  | expand {handler : TemplateHandler σ} {template : String} {vars : Variables}
      (hh : Careful (handler template vars)) (hcalm : (handler template vars).NeverPanics) :
      Careful (handler.capturing template vars)
  | exchange {α : Type} {i : LiveInstrumentation σ} {request : Request}
      {go : Observation × Request → Exec σ α} (hnow : Careful i.registry.now)
      (hgo : ∀ r, Careful (go r)) : Careful (Route.inScope (i.start request >>= go))

namespace Exec

variable {σ α β : Type}

/-- What is composed of careful computations is careful. -/
theorem careful_composes : Composes (@Careful σ) where
  pure := .pure
  panic := .panic
  bind := .bind
  guarded := .guarded
  onPanic := .onPanic
  context := .context
  access := .access
  propagated := .propagated
  setPropagated := .setPropagated
  remark := .remark

/-- An exchange is careful if what takes part in it is. -/
theorem Careful.intercept {i : LiveInstrumentation σ} (hi : i.Consists Careful)
    (request : Request) {delegate : Request → Exec σ Result}
    (hd : ∀ request, (delegate request).Careful) : (i.intercept request delegate).Careful :=
  careful_composes.intercept hi (fun hgo => .exchange hi.now hgo) hd

/-- A computation that never panics keeps a rule whatever a panic would have to leave. -/
theorem NeverPanics.keeps {G : Type} {rule : Rule σ G} {m : Exec σ α} {g : G}
    {ret : α → G → Prop} {pan : G → Prop} (hm : m.NeverPanics) (h : m.Keeps rule g ret pan) :
    m.Keeps rule g ret fun _ => False := by
  induction m generalizing g with
  | ended e =>
      cases e with
      | returned a => exact h
      | panicked message => exact hm
  | act action next ih =>
      intro c w
      obtain ⟨g', hrule, hnext⟩ := h c w
      exact ⟨g', hrule, ih c w (hm c w) hnext⟩

/-- A scope around a computation that concludes all its expansions concludes them too. -/
theorem Settles.inScope {m : Exec σ α} (hm : m.Settles) : (Route.inScope m).Settles :=
  Restores.inScope hm fun {n _} h => ⟨n, h, rfl⟩

end Exec

/-- An expansion is concluded if its handler does not panic. -/
theorem TemplateHandler.capturing_settles {σ : Type} {handler : TemplateHandler σ}
    {template : String} {vars : Variables} (hh : (handler template vars).Settles)
    (hcalm : (handler template vars).NeverPanics) :
    (handler.capturing template vars).Settles := by
  refine fun n => keeps_capturing fun token => ?_
  exact (hcalm.keeps (hh _)).mono (fun _ _ h => ⟨n, h, rfl⟩) fun _ h => h.elim

/-- Where no handler panics, every scope is closed and every expansion is concluded. -/
theorem Exec.Careful.settles {σ α : Type} {m : Exec σ α} (h : m.Careful) : m.Settles := by
  have hQ : Composes (@Settles σ) := settles_composes
  induction h with
  | pure a => exact hQ.pure a
  | panic message => exact hQ.panic message
  | bind _ _ ihm ihf => exact hQ.bind ihm ihf
  | guarded _ ihm => exact hQ.guarded ihm
  | onPanic _ _ ihm ihc => exact hQ.onPanic ihm ihc
  | context => exact hQ.context
  | access f => exact hQ.access f
  | propagated => exact hQ.propagated
  | setPropagated headers => exact hQ.setPropagated headers
  | remark he => exact hQ.remark he
  | depth => exact Route.depth_settles
  | clear => exact Route.clear_settles
  | expand _ hcalm ihh => exact TemplateHandler.capturing_settles ihh hcalm
  | exchange _ _ ihnow ihgo =>
      refine Settles.inScope (hQ.bind ?_ ihgo)
      exact hQ.start (Route.claim_settles _) settles_newExchange ihnow

/-! ### What an expansion leaves behind -/

section

variable {σ : Type} {handler : TemplateHandler σ} {template : String} {vars : Variables}
  {c : Context} {w w' : World σ}

/-- An expansion that fails leaves no entry with its token. -/
theorem TemplateHandler.holds_of_capturing_error {reason : MetricsError}
    (h : (handler.capturing template vars).run c w = (.returned (.error reason), w')) :
    (w'.thread c.thread).routes.holds (w.thread c.thread).routes.next = 0 := by
  obtain ⟨token, w₁, hpush, h⟩ := Exec.run_bind_eq_returned.mp h
  obtain ⟨result, w₂, -, h⟩ := Exec.run_bind_eq_returned.mp h
  obtain ⟨htoken, -⟩ := Prod.mk.inj hpush
  obtain rfl := Ending.returned.inj htoken
  cases result with
  | ok uri =>
      obtain ⟨_, w₃, -, h⟩ := Exec.run_bind_eq_returned.mp h
      cases h
  | error reason' =>
      obtain ⟨_, w₃, hdiscard, h⟩ := Exec.run_bind_eq_returned.mp h
      obtain ⟨-, rfl⟩ := Prod.mk.inj hdiscard
      obtain ⟨-, rfl⟩ := Prod.mk.inj h
      rw [World.thread_note, World.thread_setThread, if_pos rfl]
      exact Route.Stack.holds_discard_self _ _

/-- When the handler has panicked, nothing is done about the entry any more. -/
theorem TemplateHandler.run_capturing_panicked {message : String} :
    (handler.capturing template vars).run c w = (.panicked message, w') ↔
      (handler template vars).run c ((Route.push template).run c w).2 =
        (.panicked message, w') := by
  have hpush : (Route.push template : Exec σ UInt64).run c w =
      (.returned (w.thread c.thread).routes.next, ((Route.push template).run c w).2) := rfl
  rw [capturing, Exec.run_bind_returned hpush]
  constructor
  · intro h
    rcases Exec.run_bind_eq_panicked h with h | ⟨result, w₁, -, h⟩
    · exact h
    · cases result <;> cases h
  · exact Exec.run_bind_panicked

end

/-! ### Pools of programs -/

/-- A computation has still to close the scopes and to conclude the expansions of a nesting, and it
does, whichever way it ends. -/
def Exec.Concludes {σ : Type} (m : Exec σ Unit) (n : Nesting) : Prop :=
  m.Keeps Nesting.rule n (fun _ n' => n' = {}) fun n' => n' = {}

/-- What is guaranteed about the entries of a thread on which no handler panics. -/
structure Pool.Attends {σ : Type} (q : Pool σ) (t : ThreadId) : Prop where
  /-- An entry without a URI belongs to an expansion that the thread has still to conclude. -/
  pending : ∀ m, q.threads[t]? = some m → ∃ n : Nesting, m.Concludes n ∧
    ∀ entry ∈ (q.world.thread t).routes.entries, entry.uri = none → entry.token ∈ n.expanding
  /-- When the thread has ended, every entry has a URI. -/
  ended : ∀ e, q.threads[t]? = some (.ended e) →
    ∀ entry ∈ (q.world.thread t).routes.entries, entry.uri ≠ none

section

variable {σ : Type} {kept : σ → Multiset Observation} {p q : Pool σ}

/-- A thread that has ended has concluded everything. -/
theorem Exec.concludes_ended_iff {e : Ending Unit} {n : Nesting} :
    (ended e : Exec σ Unit).Concludes n ↔ n = {} := by
  cases e <;> rfl

/-- What a thread has still to conclude can be replayed from the journal. -/
def Pool.Concludes (p : Pool σ) (t : ThreadId) : Prop :=
  ∀ m, p.threads[t]? = some m →
    ∃ n, m.Concludes n ∧ Replays t p.world.journal (p.world.thread t) n

/-- Threads that are careful conclude what they begin. -/
theorem Pool.Fresh.concludes {t : ThreadId} (hp : p.Fresh kept)
    (hcareful : ∀ m, p.threads[t]? = some m → m.Careful) : p.Concludes t := by
  intro m hm
  refine ⟨_, ?_, hp.replays t⟩
  rw [Nesting.of, List.getElem?_map, hm]
  exact (hcareful m hm).settles {}

/-- Whichever thread takes a step, what this one has still to conclude can be replayed. -/
theorem Pool.Concludes.step {t u : ThreadId} (h : p.Concludes t) (hnests : p.Nests)
    (hs : Pool.Step u p q) : q.Concludes t := by
  obtain ⟨nestings, hkeeps, -⟩ := hnests
  obtain ⟨_, _, -, hothers, -⟩ := hs.keeps hkeeps
  obtain @⟨action, next, hact⟩ := hs
  intro m hm
  by_cases hu : t = u
  · subst hu
    obtain ⟨n, hconcludes, hr⟩ := h _ hact
    obtain ⟨n', hrule, hnext⟩ := hconcludes { thread := t } p.world
    rw [List.getElem?_set_self (List.getElem?_eq_some_iff.mp hact).1] at hm
    obtain rfl := Option.some.inj hm
    exact ⟨n', hnext, Nesting.rule_replays hrule hr⟩
  · rw [List.getElem?_set_ne (Ne.symm hu)] at hm
    obtain ⟨n, hconcludes, hr⟩ := h m hm
    exact ⟨n, hconcludes, Nesting.rule_replays_ne hothers hu hr⟩

/-- In every state that threads running programs can reach, an entry without a URI belongs to an
expansion that has ended neither with a URI nor with an error. If no handler panics on the thread,
it has still to conclude this expansion. An expansion that fails leaves no entry of its own, but one
whose handler panics leaves what there was when it panicked. -/
theorem Pool.pending_entries (hp : p.Fresh kept) (h : p.Reaches q) (t : ThreadId)
    (hfew : pushes t q.world.journal ≤ 2 ^ 64) :
    (∀ entry ∈ (q.world.thread t).routes.entries, entry.uri = none →
        Expanding t q.world.journal entry) ∧
      ((∀ m, p.threads[t]? = some m → m.Careful) → q.Attends t) ∧
      ∀ (handler : TemplateHandler σ) (template : String) (vars : Variables) (c : Context)
        (w w' : World σ),
        (∀ reason, (handler.capturing template vars).run c w = (.returned (.error reason), w') →
          (w'.thread c.thread).routes.holds (w.thread c.thread).routes.next = 0) ∧
        ∀ message, (handler.capturing template vars).run c w = (.panicked message, w') ↔
          (handler template vars).run c ((Route.push template).run c w).2 =
            (.panicked message, w') := by
  obtain ⟨nestings, -, hreplays⟩ : q.Nests := h.invariant hp.nests fun _ _ _ hr hs => hr.step hs
  have hone := (hreplays t).captures_le_one hfew
  refine ⟨fun entry => (hreplays t).expanding hone, fun hcareful => ?_, ?_⟩
  · obtain ⟨-, hconcludes⟩ : q.Nests ∧ q.Concludes t :=
      h.invariant (I := fun r => r.Nests ∧ r.Concludes t) ⟨hp.nests, hp.concludes hcareful⟩
        fun _ _ _ hr hs => ⟨hr.1.step hs, hr.2.step hr.1 hs⟩
    constructor
    · intro m hm
      obtain ⟨n, hn, hr⟩ := hconcludes m hm
      exact ⟨n, hn, hr.mem_expanding hone⟩
    · intro e he entry hmem hnone
      obtain ⟨n, hn, hr⟩ := hconcludes _ he
      obtain rfl := Exec.concludes_ended_iff.mp hn
      exact Multiset.notMem_zero _ (hr.mem_expanding hone entry hmem hnone)
  · intro handler template vars c w w'
    exact ⟨fun _ => TemplateHandler.holds_of_capturing_error,
      fun _ => TemplateHandler.run_capturing_panicked⟩

/-- A handler that expands another template, catches a panic, and then fails. -/
def failingHandler : TemplateHandler Unit := fun _ vars => do
  let inner : TemplateHandler Unit := fun _ _ => pure (.ok Request.plain.uri)
  let _ ← inner.capturing "/inner" vars
  let _ ← (Exec.panic "caught" : Exec Unit Unit).guarded
  pure (.error (.registry "no route"))

/-- Expand templates that cannot be expanded, within an exchange and after it. -/
def failingExpansions : Exec Unit Unit := do
  let _ ← (Instrumentation.plain false).intercept .plain fun _ => do
    let _ ← failingHandler.capturing "/outer" (.positional [])
    pure (.ok .plain)
  let _ ← failingHandler.capturing "/outer" (.positional [])

/-- The program owns nothing, since its exchange begins and ends within it. -/
theorem program_failingExpansions : Program (fun _ => 0) 0 failingExpansions fun _ => 0 := by
  have hhandler : Program (fun _ => 0) 0 (failingHandler "/outer" (.positional []))
      fun _ => 0 := by
    refine .bind (.expand (.pure _ fun _ => 0)) fun _ => ?_
    refine .bind (.guarded (.panic _ fun _ => 0) 0) fun e => ?_
    cases e <;> exact .pure _ fun _ => 0
  refine .bind (.intercept .plain .plain_now .plain_record .plain_provider fun _ => ?_) fun _ => ?_
  · exact .bind (.expand hhandler) fun _ => .pure _ fun _ => 0
  · exact .bind (.expand hhandler) fun _ => .pure () fun _ => 0

/-- Its handlers fail, but none of them panics. -/
theorem careful_failingExpansions : failingExpansions.Careful := by
  have hexpand : (failingHandler.capturing "/outer" (.positional [])).Careful := by
    refine .expand ?_ fun _ _ _ _ => trivial
    refine .bind (.expand (.pure _) trivial) fun _ => ?_
    exact .bind (.guarded (.panic _)) fun _ => .pure _
  refine .bind (.intercept (Instrumentation.plain_consists .pure) _ fun _ => ?_) fun _ => ?_
  · exact .bind hexpand fun _ => .pure _
  · exact .bind hexpand fun _ => .pure ()

/-- Of the entries pushed after the exchange, the one without a URI is gone in the end. -/
theorem pending_entries_failingExpansions :
    ∃ q : Pool Unit, Pool.Reaches ⟨{ shared := () }, [failingExpansions]⟩ q ∧
      pushes 0 q.world.journal = 4 ∧ (q.world.thread 0).routes.depth = 1 ∧
      ∀ entry ∈ (q.world.thread 0).routes.entries, entry.uri ≠ none := by
  have hfresh : Pool.Fresh (fun _ => 0) ⟨{ shared := () }, [failingExpansions]⟩ :=
    ⟨rfl, rfl, rfl, rfl, fun m hm => List.mem_singleton.mp hm ▸ program_failingExpansions⟩
  have hcareful : ∀ m, [failingExpansions][0]? = some m → m.Careful :=
    fun m hm => Option.some.inj hm ▸ careful_failingExpansions
  have hreaches := Pool.reaches_run (p := ⟨{ shared := () }, [failingExpansions]⟩) (t := 0) rfl
  obtain ⟨-, hattends, -⟩ := Pool.pending_entries hfresh hreaches 0 (by decide +kernel)
  exact ⟨_, hreaches, by decide +kernel, by decide +kernel, (hattends hcareful).ended _ rfl⟩

/-- Expand a template by a handler that panics, and go on after the panic. -/
def abandonedExpansion : Exec Unit Unit := do
  let handler : TemplateHandler Unit := fun _ _ => Exec.panic "boom"
  let _ ← (handler.capturing "/a/\x7bb\x7d" (.positional ["1"])).guarded

/-- The entry of an expansion whose handler panicked is still on the stack when the thread has
ended, without a URI. -/
theorem pending_entries_abandoned :
    ∃ q : Pool Unit, Pool.Fresh (fun _ => 0) ⟨{ shared := () }, [abandonedExpansion]⟩ ∧
      Pool.Reaches ⟨{ shared := () }, [abandonedExpansion]⟩ q ∧
      q.threads = [.ended (.returned ())] ∧
      ∃ entry ∈ (q.world.thread 0).routes.entries, entry.uri = none := by
  have hprogram : Program (fun _ => 0) 0 abandonedExpansion fun _ => 0 := by
    refine .bind (.guarded (.expand (.panic _ fun _ => 0)) 0) fun e => ?_
    cases e <;> exact .pure () fun _ => 0
  have hfresh : Pool.Fresh (fun _ => 0) ⟨{ shared := () }, [abandonedExpansion]⟩ :=
    ⟨rfl, rfl, rfl, rfl, fun m hm => List.mem_singleton.mp hm ▸ hprogram⟩
  have hreaches := Pool.reaches_run (p := ⟨{ shared := () }, [abandonedExpansion]⟩) (t := 0) rfl
  exact ⟨_, hfresh, hreaches, rfl, _, List.mem_singleton_self _, rfl⟩

end

end ExchangeMetrics
