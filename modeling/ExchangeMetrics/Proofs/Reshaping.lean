import ExchangeMetrics.Proofs.Issued

/-!
# Expansions whose handlers reshape the stack

A capturing handler pushes an entry, leaves the template to another handler, and looks after the
entry when that one has answered. In between the other handler may do with the route stack whatever
can be done there: expand templates itself, claim entries from below the new one, make exchanges,
clear everything. The entry is found again by its token: a URI is bound to it where it lies then,
and after an error it is removed, and all other entries are as the handler left them. Only clearing
takes it away, on demand or with the outermost exchange scope of the thread.

## Main results

* `Exec.Routine`: what a handler may do with the route stack; `Program.routine` says that every
  program is of this kind.
* `Turn.withToken_eq`: what one event makes of an entry that waits for its URI.
* `Expecting.run`: what becomes of it in the run of a handler.
* `TemplateHandler.capturing_concludes`: how an expansion ends, and which stack it leaves.
-/

namespace ExchangeMetrics

/-! ### What a handler may do -/

/-- Computations that use the route stack of their thread only for what it is there for: they expand
templates by capturing handlers, claim entries, make exchanges and clear the stack, to any depth.
Apart from this they return, panic, catch panics, and use what is shared by all threads. -/
inductive Exec.Routine {σ : Type} : {α : Type} → Exec σ α → Prop where
  | pure {α : Type} (a : α) : Routine (Pure.pure a)
  | panic {α : Type} (message : String) : Routine (Exec.panic message : Exec σ α)
  | bind {α β : Type} {m : Exec σ α} {f : α → Exec σ β} (hm : Routine m)
      (hf : ∀ a, Routine (f a)) : Routine (m >>= f)
  | guarded {α : Type} {m : Exec σ α} (hm : Routine m) : Routine m.guarded
  | onPanic {α : Type} {m : Exec σ α} {cleanup : Exec σ Unit} (hm : Routine m)
      (hc : Routine cleanup) : Routine (m.onPanic cleanup)
  | context : Routine Exec.context
  | access {α : Type} (f : σ → α × σ) : Routine (Exec.access f)
  | propagated : Routine Exec.propagated
  | setPropagated (headers : List (String × String)) : Routine (Exec.setPropagated headers)
  | remark {e : Event} (he : e.isRemark = true) : Routine (Exec.note e)
  | depth : Routine Route.depth
  | clear : Routine Route.clear
  | claim (uri : Uri) : Routine (Route.claim uri)
  | expand {handler : TemplateHandler σ} {template : String} {vars : Variables}
      (hh : Routine (handler template vars)) : Routine (handler.capturing template vars)
  | exchange {α : Type} {i : LiveInstrumentation σ} {request : Request}
      {go : Observation × Request → Exec σ α} (hnow : Routine i.registry.now)
      (hgo : ∀ r, Routine (go r)) : Routine (Route.inScope (i.start request >>= go))

namespace Exec

variable {σ α : Type}

/-- Expansions and exchanges are routines if their parts are. -/
theorem routine_inherited : Inherited (@Routine σ) where
  pure := .pure
  panic := .panic
  bind := .bind
  guarded := .guarded
  onPanic := .onPanic
  context := .context
  access := .access
  propagated := .propagated
  setPropagated := .setPropagated
  remark := .remark
  depth := .depth
  clear := .clear
  expand := .expand
  exchange := .exchange

/-- What a handler may do with the stack leaves no scope open. -/
theorem Routine.nested {m : Exec σ α} (h : m.Routine) : m.Nested := by
  have hQ : Inherited (@Nested σ) := nested_inherited
  induction h with
  | pure a => exact hQ.pure a
  | panic message => exact hQ.panic message
  | bind _ _ ihm ihf => exact hQ.bind ihm ihf
  | guarded _ ihm => exact hQ.guarded ihm
  | onPanic _ _ ihm ihc => exact hQ.onPanic ihm ihc
  | context => exact hQ.context
  | access f => exact hQ.access f
  | propagated => exact hQ.propagated
  | setPropagated headers => exact hQ.setPropagated headers
  | remark he => exact hQ.remark he
  | depth => exact hQ.depth
  | clear => exact hQ.clear
  | claim uri => exact (Route.claim_settles uri).nested
  | expand _ ihh => exact hQ.expand ihh
  | exchange _ _ ihnow ihgo => exact hQ.exchange ihnow ihgo

end Exec

/-- Whatever programs do, a handler may do. -/
theorem Program.routine {σ α : Type} {kept : σ → Multiset Observation}
    {own : Multiset Observation} {m : Exec σ α} {gives : α → Multiset Observation}
    (h : Program kept own m gives) : m.Routine :=
  h.inherits Exec.routine_inherited

/-! ### How an expansion is concluded -/

/-- Whether the route stack of a thread was cleared, on demand or with the outermost scope. -/
def Moment.clears (m : Moment) (t : ThreadId) : Bool :=
  m.thread = t && match m.event with
    | .cleared => true
    | .scopeClosed => m.after.active = 0
    | _ => false

/-- What is noted when the expansion with a token is concluded with an answer. -/
def Event.concluding (k : UInt64) : Except MetricsError Uri → Event
  | .ok uri => .bound k uri
  | .error _ => .discarded k

namespace Route.Stack

/-- What becomes of the stack that a handler left when it had answered, given whether the stack was
cleared before: the entry of the expansion is bound where it lies, or it is removed, or there is no
such entry any more. -/
inductive Concludes (k : UInt64) (template : String) (s : Stack) :
    Except MetricsError Uri → Bool → Stack → Prop where
  | bound {above below : List Entry} (uri : Uri)
      (hs : s.entries = above ++ ⟨k, template, none⟩ :: below)
      (hothers : ∀ e ∈ above ++ below, e.token ≠ k) :
      Concludes k template s (.ok uri) false
        { s with entries := above ++ ⟨k, template, some uri⟩ :: below }
  | discarded {above below : List Entry} (reason : MetricsError)
      (hs : s.entries = above ++ ⟨k, template, none⟩ :: below)
      (hothers : ∀ e ∈ above ++ below, e.token ≠ k) :
      Concludes k template s (.error reason) false { s with entries := above ++ below }
  | gone (answer : Except MetricsError Uri) (hs : ∀ e ∈ s.entries, e.token ≠ k) :
      Concludes k template s answer true s

/-- The stack after the expansion with a token was concluded with an answer. -/
def conclude (s : Stack) (k : UInt64) : Except MetricsError Uri → Stack
  | .ok uri => s.bind k uri
  | .error _ => s.discard k

section

variable {s : Stack} {k : UInt64} {template : String} {e : Entry} {above below : List Entry}

/-- No entry below has the token. -/
theorem any_token_eq_false (h : ∀ e ∈ below, e.token ≠ k) :
    below.any (·.token = k) = false :=
  List.any_eq_false.mpr fun e he => by simpa using h e he

/-- Entries with other tokens are not bound. -/
theorem bindIn_of_forall_ne (h : ∀ e ∈ above, e.token ≠ k) (uri : Uri) :
    bindIn k uri above = above := by
  cases above with
  | nil => rfl
  | cons e es =>
      obtain ⟨he, hes⟩ := List.forall_mem_cons.mp h
      rw [bindIn, any_token_eq_false hes, if_neg Bool.false_ne_true, if_neg he]

/-- The only entry with a token is bound where it lies. -/
theorem bindIn_append (he : e.token = k) (hbelow : ∀ e' ∈ below, e'.token ≠ k) (uri : Uri) :
    bindIn k uri (above ++ e :: below) = above ++ { e with uri := some uri } :: below := by
  induction above with
  | nil =>
      rw [List.nil_append, bindIn, any_token_eq_false hbelow, if_neg Bool.false_ne_true, if_pos he,
        List.nil_append]
  | cons a above ih =>
      have hany : (above ++ e :: below).any (·.token = k) = true :=
        List.any_eq_true.mpr ⟨e, by simp, by simpa using he⟩
      rw [List.cons_append, bindIn, hany, if_pos rfl, ih, List.cons_append]

/-- Entries with other tokens are not discarded. -/
theorem filter_of_forall_ne (h : ∀ e ∈ above, e.token ≠ k) :
    above.filter (·.token ≠ k) = above :=
  List.filter_eq_self.mpr fun e he => by simpa using h e he

/-- The only entry with a token is the one that is bound by it. -/
theorem bind_of_split (hs : s.entries = above ++ e :: below) (he : e.token = k)
    (hbelow : ∀ e' ∈ below, e'.token ≠ k) (uri : Uri) :
    s.bind k uri = { s with entries := above ++ { e with uri := some uri } :: below } := by
  rw [bind, hs, bindIn_append he hbelow]

/-- The only entry with a token is the one that is removed by it. -/
theorem discard_of_split (hs : s.entries = above ++ e :: below) (he : e.token = k)
    (habove : ∀ e' ∈ above, e'.token ≠ k) (hbelow : ∀ e' ∈ below, e'.token ≠ k) :
    s.discard k = { s with entries := above ++ below } := by
  rw [discard, hs, List.filter_append, List.filter_cons_of_neg (by simpa using he),
    filter_of_forall_ne habove, filter_of_forall_ne hbelow]

/-- A token that no entry has binds nothing. -/
theorem bind_of_forall_ne (hs : ∀ e ∈ s.entries, e.token ≠ k) (uri : Uri) : s.bind k uri = s := by
  rw [bind, bindIn_of_forall_ne hs]

/-- A token that no entry has removes nothing. -/
theorem discard_of_forall_ne (hs : ∀ e ∈ s.entries, e.token ≠ k) : s.discard k = s := by
  rw [discard, filter_of_forall_ne hs]

/-- Concluding an expansion concerns its own entry only. -/
theorem concludes_conclude (answer : Except MetricsError Uri) (lost : Bool)
    (h : s.withToken k = if lost then [] else [⟨k, template, none⟩]) :
    s.Concludes k template answer lost (s.conclude k answer) := by
  cases lost with
  | true =>
      have hs : ∀ e ∈ s.entries, e.token ≠ k := withToken_eq_nil_iff.mp h
      have hsame : s.conclude k answer = s := by
        cases answer with
        | ok uri => exact bind_of_forall_ne hs uri
        | error reason => exact discard_of_forall_ne hs
      rw [hsame]
      exact .gone answer hs
  | false =>
      obtain ⟨htoken, above, below, hs, habove, hbelow⟩ := exists_of_withToken_eq h
      have hothers : ∀ e ∈ above ++ below, e.token ≠ k := fun e he =>
        (List.mem_append.mp he).elim (habove e) (hbelow e)
      cases answer with
      | ok uri =>
          rw [conclude, bind_of_split hs htoken hbelow]
          exact .bound uri hs hothers
      | error reason =>
          rw [conclude, discard_of_split hs htoken habove hbelow]
          exact .discarded reason hs hothers

end

end Route.Stack

/-! ### An entry that waits for its URI -/

/-- An entry that waits for its URI stays what it is in a turn that concludes other expansions, if
the stack is not cleared. -/
theorem Turn.withToken_eq {b b' : Thread} {m m' : Nesting} {e : Event} (h : Turn b m e b' m')
    {k : UInt64} (t : ThreadId) (hnext : e.isCapture = true → b.routes.next ≠ k)
    (hinner : ∀ token ∈ m.expanding, token ≠ k)
    (hpending : ∀ entry ∈ b.routes.withToken k, entry.uri = none) :
    b'.routes.withToken k =
      if (Moment.mk t e b').clears t then [] else b.routes.withToken k := by
  cases h with
  | opened | unclaimed => simp [Moment.clears, Route.opened]
  | closed =>
      by_cases hlast : b.active - 1 = 0
      · simp [Moment.clears, Route.closed_outermost hlast, Route.Stack.withToken,
          Route.Stack.clear]
      · simp [Moment.clears, Route.closed_inner hlast, hlast]
  | captured _ template =>
      simp [Moment.clears, Route.Stack.withToken_push (hnext rfl) template]
  | bound _ token uri =>
      have hne : token ≠ k := hinner token (Multiset.mem_cons_self _ _)
      simp [Moment.clears, Route.Stack.withToken_bind hne uri]
  | discarded _ token =>
      have hne : token ≠ k := hinner token (Multiset.mem_cons_self _ _)
      simp [Moment.clears, Route.Stack.withToken_discard hne]
  | claimed _ hclaim => simp [Moment.clears, Route.Stack.withToken_claim hpending hclaim]
  | cleared => simp [Moment.clears, Route.Stack.withToken, Route.Stack.clear]
  | @other _ _ he =>
      have hno : (Moment.mk t e b).clears t = false := by
        cases e <;> first | exact Bool.and_false _ | cases he
      rw [hno, if_neg Bool.false_ne_true]

/-- The expansions that go on after a turn are those that went on before it, and one that begins. -/
theorem Turn.mem_expanding_imp {b b' : Thread} {m m' : Nesting} {e : Event}
    (h : Turn b m e b' m') {token : UInt64} (hmem : token ∈ m'.expanding) :
    token ∈ m.expanding ∨ e.isCapture = true ∧ token = b.routes.next := by
  cases h with
  | captured => exact (Multiset.mem_cons.mp hmem).symm.imp_right fun h => ⟨rfl, h⟩
  | bound | discarded => exact .inl (Multiset.mem_cons_of_mem hmem)
  | _ => exact .inl hmem

/-- While a handler is at work on a thread, the entry that was pushed for it as number `n` waits
for its URI, unless the stack was cleared; all that the handler itself expands came later. -/
structure Expecting {σ : Type} (t : ThreadId) (n : Nat) (template : String) (older : List Moment)
    (w : World σ) (m : Nesting) (during : List Moment) : Prop where
  /-- What has happened since the entry was pushed. -/
  journal : w.journal = during ++ older
  /-- The token that is issued next. -/
  next : (w.thread t).routes.next = UInt64.ofNat (n + 1 + pushes t during)
  /-- The handler's own expansions came after the entry. -/
  inner : n + pushes t during < 2 ^ 64 → ∀ token ∈ m.expanding, n < token.toNat
  /-- The entry is there, once, or the stack was cleared. -/
  entry : n + pushes t during < 2 ^ 64 →
    (w.thread t).routes.withToken (UInt64.ofNat n) =
      if during.any (·.clears t) then [] else [⟨UInt64.ofNat n, template, none⟩]

namespace Expecting

variable {σ : Type} {t : ThreadId} {n : Nat} {template : String} {older during : List Moment}
  {w w' : World σ} {m m' : Nesting}

/-- One action of the handler: every token that is issued to it is greater than that of the
entry. -/
theorem step (h : Expecting t n template older w m during) (hrule : Nesting.rule t w m w' m') :
    ∃ during', Expecting t n template older w' m' during' := by
  obtain ⟨-, ⟨hj, ht, rfl⟩ | ⟨e, hj, hturn⟩⟩ := hrule
  · exact ⟨during, hj.trans h.journal, ht ▸ h.next, h.inner, ht ▸ h.entry⟩
  · have hpushes : pushes t (⟨t, e, w'.thread t⟩ :: during) =
        pushes t during + if e.isCapture then 1 else 0 := countOn_turn
    have hlater (hcapture : e.isCapture = true)
        (hfew : n + pushes t (⟨t, e, w'.thread t⟩ :: during) < 2 ^ 64) :
        n < (w.thread t).routes.next.toNat := by
      rw [hpushes, hcapture, if_pos rfl] at hfew
      rw [h.next, UInt64.toNat_ofNat', Nat.mod_eq_of_lt (by omega)]
      omega
    have hne (hn : n < 2 ^ 64) {token : UInt64} (htoken : n < token.toNat) :
        token ≠ UInt64.ofNat n := by
      rintro rfl
      rw [UInt64.toNat_ofNat', Nat.mod_eq_of_lt hn] at htoken
      exact Nat.lt_irrefl n htoken
    refine ⟨⟨t, e, w'.thread t⟩ :: during, by rw [hj, h.journal, List.cons_append], ?_, ?_, ?_⟩
    · rw [hturn.next_eq, h.next, hpushes, ← Nat.add_assoc, UInt64.ofNat_add (n + 1 + _)]
      cases e.isCapture <;> rfl
    · intro hfew token hmem
      rcases hturn.mem_expanding_imp hmem with hmem | ⟨hcapture, rfl⟩
      · exact h.inner (by omega) token hmem
      · exact hlater hcapture hfew
    · intro hfew
      have hentry := h.entry (by omega)
      rw [hturn.withToken_eq t (fun hcapture => hne (by omega) (hlater hcapture hfew))
        (fun token hmem => hne (by omega) (h.inner (by omega) token hmem)), hentry, List.any_cons]
      · cases (Moment.mk t e (w'.thread t)).clears t <;> simp
      · intro entry hmem
        rw [hentry] at hmem
        split at hmem
        · cases hmem
        · rw [List.mem_singleton.mp hmem]

/-- The run of a handler. -/
theorem run {α : Type} {handling : Exec σ α} {c : Context} (hh : handling.Routine)
    (h : Expecting c.thread n template older w {} []) :
    ∃ m during, Expecting c.thread n template older (handling.run c w).2 m during := by
  refine (hh.nested {}).invariant_run (I := fun w m => ∃ during, Expecting c.thread n template
    older w m during) ⟨[], h⟩ ?_
  rintro w m w' m' hrule ⟨during, hexpecting⟩
  exact hexpecting.step hrule

end Expecting

/-! ### The expansion -/

section

variable {σ : Type} {handler : TemplateHandler σ} {template : String} {vars : Variables}
  {c : Context} {w : World σ} {n : Nat}

/-- A push gives back the token that is issued next. -/
theorem Route.run_push :
    (Route.push template : Exec σ UInt64).run c w =
      (.returned (w.thread c.thread).routes.next, ((Route.push template).run c w).2) := rfl

/-- When the entry has been pushed, the handler begins with nothing of its own. -/
theorem Expecting.of_push (hn : (w.thread c.thread).routes.Reached n) :
    Expecting c.thread n template ((Route.push template).run c w).2.journal
      ((Route.push template).run c w).2 {} [] := by
  have hthread : (((Route.push template).run c w).2.thread c.thread).routes =
      (w.thread c.thread).routes.push template := by
    rw [Route.push, Exec.onThread, Exec.run_atomically, World.thread_note, World.thread_setThread,
      if_pos rfl]
  refine ⟨rfl, ?_, fun _ token hmem => absurd hmem (Multiset.notMem_zero token), fun hfew => ?_⟩
  · rw [hthread]
    exact (hn.push template).next_eq
  · rw [hthread, ← hn.next_eq, Route.Stack.withToken_push_self, hn.withToken_next hfew]
    rfl

/-- When the handler has answered, the expansion answers the same. -/
theorem TemplateHandler.run_capturing_returned {answer : Except MetricsError Uri} {left : World σ}
    (h : (handler template vars).run c ((Route.push template).run c w).2 =
      (.returned answer, left)) :
    (handler.capturing template vars).run c w =
      (.returned answer, (left.setThread c.thread { left.thread c.thread with
        routes := (left.thread c.thread).routes.conclude (w.thread c.thread).routes.next answer
        }).note c.thread (.concluding (w.thread c.thread).routes.next answer)) := by
  rw [capturing, Exec.run_bind_returned Route.run_push, Exec.run_bind_returned h]
  cases answer <;> rfl

/-- An expansion gives what its handler answers, whatever the handler does with the route stack. It
leaves the stack as the handler left it, except for the entry that was pushed for it: this is bound
to the URI where it lies then, or removed after an error. The entry is there, and only once, unless
the stack was cleared while the handler was at work. -/
theorem TemplateHandler.capturing_concludes (hh : (handler template vars).Routine)
    (hn : (w.thread c.thread).routes.Reached n) :
    let pushed := ((Route.push template).run c w).2
    let left := ((handler template vars).run c pushed).2
    ∃ during, left.journal = during ++ pushed.journal ∧
      ∀ answer, ((handler template vars).run c pushed).1 = .returned answer →
        ∃ final,
          (handler.capturing template vars).run c w =
            (.returned answer, (left.setThread c.thread
              { left.thread c.thread with routes := final }).note c.thread
                (.concluding (w.thread c.thread).routes.next answer)) ∧
          (n + pushes c.thread during < 2 ^ 64 →
            (left.thread c.thread).routes.Concludes (w.thread c.thread).routes.next template answer
              (during.any (·.clears c.thread)) final) := by
  intro pushed left
  have hpushed : Expecting c.thread n template pushed.journal pushed {} [] := .of_push hn
  obtain ⟨m, during, hexpecting⟩ := hpushed.run hh
  refine ⟨during, hexpecting.journal, fun answer hanswer => ?_⟩
  refine ⟨_, run_capturing_returned (Prod.ext hanswer rfl), fun hfew => ?_⟩
  rw [hn.next_eq]
  exact Route.Stack.concludes_conclude answer _ (hexpecting.entry hfew)

end

/-! ### A handler that takes what lies below -/

/-- A handler that claims an entry, expands a template of its own, and makes an exchange. -/
def reshapingHandler : TemplateHandler Unit := fun _ vars => do
  let inner : TemplateHandler Unit := fun _ _ => pure (.ok ⟨none, none, "/inner", none⟩)
  let _ ← Route.claim ⟨none, none, "/earlier/1", none⟩
  let _ ← inner.capturing "/inner" vars
  let _ ← (Instrumentation.plain false).intercept .plain fun _ => pure (.ok .plain)
  pure (.ok ⟨none, none, "/later/2", none⟩)

/-- The handler of the example is made of what routines are made of. -/
theorem routine_reshapingHandler (template : String) (vars : Variables) :
    (reshapingHandler template vars).Routine := by
  refine .bind (.claim _) fun _ => .bind (.expand (.pure _)) fun _ => .bind ?_ fun _ => .pure _
  exact Exec.routine_inherited.intercept (Instrumentation.plain_consists .pure) _ fun _ => .pure _

/-- A thread that runs an exchange and has captured one template before. -/
def expandingWorld : World Unit :=
  World.setThread { shared := () } 0
    { routes := (({} : Route.Stack).push "/earlier/\x7bid\x7d").bind 0
        ⟨none, none, "/earlier/1", none⟩,
      active := 1 }

/-- The entry is bound below the one that its handler captured, and the one that lay below it and
that the handler claimed is gone. -/
theorem capturing_concludes_reshaped :
    (reshapingHandler "/later/\x7bid\x7d" (.positional ["2"])).Routine ∧
      (expandingWorld.thread 0).routes.Reached 1 ∧
      ∃ (during : List Moment) (left final : Route.Stack) (w : World Unit),
        (reshapingHandler.capturing "/later/\x7bid\x7d" (.positional ["2"])).run { thread := 0 }
          expandingWorld = (.returned (.ok ⟨none, none, "/later/2", none⟩), w) ∧
        (w.thread 0).routes = final ∧
        left.Concludes 1 "/later/\x7bid\x7d" (.ok ⟨none, none, "/later/2", none⟩)
          (during.any (·.clears 0)) final ∧
        during.length = 18 ∧ pushes 0 during = 1 ∧
        left.entries.map (fun e => (e.token, e.uri.isSome)) = [(2, true), (1, false)] ∧
        final.entries.map (fun e => (e.token, e.uri.isSome)) = [(2, true), (1, true)] := by
  have hroutine := routine_reshapingHandler "/later/\x7bid\x7d" (.positional ["2"])
  have hreached : (expandingWorld.thread 0).routes.Reached 1 :=
    (Route.Stack.Reached.empty.push _).bind 0 _
  obtain ⟨during, hj, h⟩ := TemplateHandler.capturing_concludes (c := { thread := 0 }) hroutine
    hreached
  obtain ⟨final, hrun, hconcludes⟩ := h _ rfl
  have hduring := List.append_cancel_right (hj.symm.trans (List.take_append_drop 18 _).symm)
  have hfew : pushes 0 during = 1 := by
    rw [hduring]
    decide +kernel
  have hfinal : ((((reshapingHandler.capturing "/later/\x7bid\x7d" (.positional ["2"])).run
      { thread := 0 } expandingWorld).2.thread 0).routes) = final := by
    rw [hrun]
    rfl
  refine ⟨hroutine, hreached, during, _, final, _, hrun, rfl, hconcludes ?_, ?_, hfew, ?_, ?_⟩
  · rw [hfew]
    decide
  · rw [hduring]
    decide +kernel
  · decide +kernel
  · rw [← hfinal]
    decide +kernel

end ExchangeMetrics
