import ExchangeMetrics.Proofs.Life
import ExchangeMetrics.Proofs.Tokens

/-!
# Which entry an exchange is handed

An exchange claims an entry for its URI first and begins afterwards. In between its propagator
and its clock run, and the clock may run exchanges of its own; so the claim of an exchange is not
simply the last one before it. It is the last one in its scope: for every scope that is open on a
thread, `awaiting` tells what was claimed in it for an exchange that has not begun.

## Main results

* `handovers_add_le`: every entry that is handed to an exchange was claimed once for it.
* `Program.restores_handing`: in every program, exchanges begin with what was claimed for them.
* `Pool.Hands.step`: so they do in every run of a pool.
-/

namespace ExchangeMetrics

/-- What was claimed for an exchange: the entry of its URI, if there was one. -/
structure Claimed where
  /-- The URI of the exchange. -/
  uri : Uri
  /-- The entry. -/
  entry : Option Route.Entry

/-- What an event makes of the claims of the open scopes, the innermost scope first. -/
def Event.hand : Event → List (Option Claimed) → List (Option Claimed)
  | scopeOpened, scopes => none :: scopes
  | scopeClosed, scopes => scopes.tail
  | claimed uri entry, _ :: scopes => some ⟨uri, entry⟩ :: scopes
  | started .., _ :: scopes => none :: scopes
  | _, scopes => scopes

/-- What was claimed in each scope that is open on a thread, the innermost first, for an exchange
that has not begun yet. -/
def awaiting (t : ThreadId) : List Moment → List (Option Claimed)
  | [] => []
  | m :: older => if m.thread = t then m.event.hand (awaiting t older) else awaiting t older

/-- The entry that an exchange is handed if it begins on a thread now. -/
def handed? (t : ThreadId) (journal : List Moment) : Option Route.Entry :=
  (awaiting t journal).head?.join.bind (·.entry)

/-- How many exchanges on a thread were handed an entry with a token. -/
def handovers (t : ThreadId) (k : UInt64) : List Moment → Nat
  | [] => 0
  | m :: older => handovers t k older +
      if m.thread = t ∧ m.event.isStart ∧ (handed? t older).any (·.token = k) then 1 else 0

/-- An exchange begins with what was claimed in its scope, and its route is the template attached
to its request or else that of the entry. -/
def Handing (scopes : List (Option Claimed)) (e : Event) : Prop :=
  ∀ x v, e = .started x v → ∃ claimed outer attached, scopes = some claimed :: outer ∧
    claimed.uri = v.uri ∧ v.route = (attached <|> claimed.entry.map (·.template))

/-! ### What was claimed -/

section

variable {t : ThreadId}

/-- An event on another thread leaves what is awaiting as it is. -/
theorem awaiting_cons_of_ne {m : Moment} {older : List Moment} (h : m.thread ≠ t) :
    awaiting t (m :: older) = awaiting t older :=
  if_neg h

/-- An event on the thread makes of what is awaiting what it makes of it. -/
theorem awaiting_turn {e : Event} {b : Thread} {older : List Moment} :
    awaiting t (⟨t, e, b⟩ :: older) = e.hand (awaiting t older) :=
  if_pos rfl

/-- An event on another thread hands nothing over. -/
theorem handovers_cons_of_ne {m : Moment} {k : UInt64} {older : List Moment} (h : m.thread ≠ t) :
    handovers t k (m :: older) = handovers t k older := by
  rw [handovers, if_neg fun hm => h hm.1, Nat.add_zero]

/-- An event on the thread hands an entry over if it begins an exchange and the entry is awaiting.
-/
theorem handovers_turn {e : Event} {b : Thread} {k : UInt64} {older : List Moment} :
    handovers t k (⟨t, e, b⟩ :: older) = handovers t k older +
      if e.isStart ∧ (handed? t older).any (·.token = k) then 1 else 0 := by
  simp only [handovers, true_and]

/-- What is awaiting in a scope after an event was awaiting before or is claimed by it. -/
theorem Event.mem_hand {e : Event} {scopes : List (Option Claimed)} {claimed : Claimed}
    (h : some claimed ∈ e.hand scopes) :
    some claimed ∈ scopes ∨ e = .claimed claimed.uri claimed.entry := by
  cases e with
  | scopeOpened => exact .inl ((List.mem_cons.mp h).resolve_left nofun)
  | scopeClosed => exact .inl (List.mem_of_mem_tail h)
  | claimed uri entry =>
      cases scopes with
      | nil => exact .inl h
      | cons scope scopes =>
          rcases List.mem_cons.mp h with heq | h
          · obtain rfl := Option.some.inj heq
            exact .inr rfl
          · exact .inl (List.mem_cons_of_mem scope h)
  | started x v =>
      cases scopes with
      | nil => exact .inl h
      | cons scope scopes =>
          have hmem := (List.mem_cons.mp h).resolve_left nofun
          exact .inl (List.mem_cons_of_mem scope hmem)
  | _ => exact .inl h

/-- What is awaiting was claimed before. -/
theorem exists_claimed_of_mem_awaiting {claimed : Claimed} {journal : List Moment}
    (h : some claimed ∈ awaiting t journal) :
    ∃ newer after older,
      journal = newer ++ ⟨t, .claimed claimed.uri claimed.entry, after⟩ :: older := by
  induction journal with
  | nil => cases h
  | cons m older ih =>
      have hlater (h : some claimed ∈ awaiting t older) : ∃ newer after older',
          m :: older = newer ++ ⟨t, .claimed claimed.uri claimed.entry, after⟩ :: older' := by
        obtain ⟨newer, after, older', rfl⟩ := ih h
        exact ⟨m :: newer, after, older', rfl⟩
      by_cases hm : m.thread = t
      · obtain ⟨t', e, after⟩ := m
        obtain rfl : t' = t := hm
        rw [awaiting_turn] at h
        rcases Event.mem_hand h with h | rfl
        · exact hlater h
        · exact ⟨[], after, older, rfl⟩
      · rw [awaiting_cons_of_ne hm] at h
        exact hlater h

/-- The entry that an exchange is handed was claimed for its URI. -/
theorem Handing.exists_claimed {x : ExchangeId} {v : RequestView} {older : List Moment}
    {entry : Route.Entry} (h : Handing (awaiting t older) (.started x v))
    (hentry : handed? t older = some entry) :
    ∃ older₁ after older₂, older = older₁ ++ ⟨t, .claimed v.uri (some entry), after⟩ :: older₂ := by
  obtain ⟨claimed, outer, attached, hscopes, huri, -⟩ := h x v rfl
  have hsome : claimed.entry = some entry := by
    rw [handed?, hscopes] at hentry
    exact hentry
  have hawaiting : some claimed ∈ awaiting t older := hscopes ▸ List.mem_cons_self
  rw [← huri, ← hsome]
  exact exists_claimed_of_mem_awaiting hawaiting

/-- Whether an entry with a token was claimed in a scope. -/
def Claimed.isOf (k : UInt64) (scope : Option Claimed) : Bool :=
  (scope.bind (·.entry)).any (·.token = k)

/-- What an event hands to an exchange is not awaiting any more, and what is awaiting was awaiting
before or is claimed by the event. -/
theorem Event.countP_hand_le (e : Event) (k : UInt64) (scopes : List (Option Claimed)) :
    (if e.isStart ∧ Claimed.isOf k scopes.head?.join then 1 else 0) +
        (e.hand scopes).countP (Claimed.isOf k) ≤
      scopes.countP (Claimed.isOf k) + if e.claims k then 1 else 0 := by
  have hnone : Claimed.isOf k none = false := rfl
  cases e with
  | scopeOpened => simp [hand, isStart, hnone]
  | scopeClosed =>
      have htail := (List.tail_sublist scopes).countP_le (p := Claimed.isOf k)
      simpa [hand, isStart] using Nat.le_trans htail (Nat.le_add_right _ _)
  | claimed uri entry =>
      cases scopes with
      | nil => simp [hand, isStart]
      | cons scope scopes =>
          have hself : Claimed.isOf k (some ⟨uri, entry⟩) = (Event.claimed uri entry).claims k := by
            cases entry <;> rfl
          simp only [hand, isStart, List.countP_cons, hself, Bool.false_eq_true, false_and,
            if_false]
          omega
  | started x v =>
      cases scopes with
      | nil => simp [hand, isStart, hnone]
      | cons scope scopes =>
          have hhead : (scope :: scopes).head?.join = scope := rfl
          simp only [hand, isStart, List.countP_cons, hnone, hhead, Bool.false_eq_true, if_false,
            true_and]
          omega
  | _ => simp [hand, isStart]

/-- Every claim of an entry is handed to one exchange at most. -/
theorem handovers_add_le (k : UInt64) (journal : List Moment) :
    handovers t k journal + (awaiting t journal).countP (Claimed.isOf k) ≤
      countOn t (Event.claims k) journal := by
  induction journal with
  | nil => exact Nat.le_refl 0
  | cons m older ih =>
      by_cases hm : m.thread = t
      · obtain ⟨t', e, after⟩ := m
        obtain rfl : t' = t := hm
        have hturn := e.countP_hand_le k (awaiting t' older)
        have hhanded : (handed? t' older).any (·.token = k) =
            Claimed.isOf k (awaiting t' older).head?.join := rfl
        rw [awaiting_turn, countOn_turn, handovers_turn, hhanded]
        omega
      · rw [handovers_cons_of_ne hm, awaiting_cons_of_ne hm, countOn_cons_of_ne hm]
        exact ih

end

/-! ### What programs claim -/

section

variable {σ : Type}

/-- Whatever an action writes into the journal, an exchange begins with what was claimed for
it. -/
def Handing.rule : Rule σ (List (Option Claimed)) := fun t w scopes w' scopes' =>
  (w'.journal = w.journal ∧ scopes' = scopes) ∨
    ∃ e b, w'.journal = ⟨t, e, b⟩ :: w.journal ∧ scopes' = e.hand scopes ∧ Handing scopes e

/-- A computation leaves the claims of the open scopes as they were. -/
abbrev Exec.Hands {α : Type} (m : Exec σ α) : Prop :=
  m.Restores Handing.rule Eq

namespace Exec

variable {α : Type}

/-- A remark changes nothing about what is awaiting, and begins no exchange. -/
theorem hand_of_isRemark {e : Event} (h : e.isRemark = true) (scopes : List (Option Claimed)) :
    e.hand scopes = scopes ∧ Handing scopes e := by
  constructor
  · cases e <;> first | rfl | cases h
  · rintro x v rfl
    cases h

/-- What is composed of computations that leave what is awaiting to the scopes around them does the
same. -/
theorem hands_composes : Composes (@Exec.Hands σ) :=
  .of_keeps (fun _ => rfl) Eq.trans (fun _ hj => .inl ⟨hj, rfl⟩) fun {t w scopes e} he =>
    .inr ⟨e, w.thread t, rfl, (hand_of_isRemark he scopes).1.symm, (hand_of_isRemark he scopes).2⟩

/-- A change of what belongs to the thread begins no exchange. -/
theorem keeps_onThread_hand {f : Thread → α × Thread × Event} {scopes : List (Option Claimed)}
    {ret : α → List (Option Claimed) → Prop} {pan : List (Option Claimed) → Prop}
    (h : ∀ b, (∀ x v, (f b).2.2 ≠ .started x v) ∧ ret (f b).1 ((f b).2.2.hand scopes)) :
    (onThread f : Exec σ α).Keeps Handing.rule scopes ret pan := by
  intro c w
  obtain ⟨hno, hret⟩ := h (w.thread c.thread)
  exact ⟨_, .inr ⟨_, _, rfl, rfl, fun x v he => absurd he (hno x v)⟩, hret⟩

/-- What runs in a scope finds nothing claimed there, and what is claimed there is forgotten when
the scope is closed. -/
theorem Hands.inScope {m : Exec σ α}
    (h : ∀ scopes, m.Keeps Handing.rule (none :: scopes)
      (fun _ scopes' => scopes'.tail = scopes) fun scopes' => scopes'.tail = scopes) :
    (Route.inScope m).Hands := by
  intro scopes
  have hclose {scopes' : List (Option Claimed)} (hs : scopes'.tail = scopes) :
      (Route.closeScope : Exec σ Unit).Keeps Handing.rule scopes' (fun _ => (scopes = ·))
        (scopes = ·) :=
    keeps_onThread_hand fun _ => ⟨nofun, hs.symm⟩
  refine Keeps.bind (keeps_onThread_hand fun _ => ⟨nofun, ?_⟩)
  exact Keeps.andThen ((h scopes).mono (fun _ _ => hclose) fun _ => hclose)

end Exec

/-- An expansion does so if its handler does. -/
theorem TemplateHandler.capturing_hands {handler : TemplateHandler σ} {template : String}
    {vars : Variables} (hh : (handler template vars).Hands) :
    (handler.capturing template vars).Hands := by
  have hQ : Exec.Composes (@Exec.Hands σ) := Exec.hands_composes
  refine hQ.bind (fun _ => Exec.keeps_onThread_hand fun _ => ⟨nofun, rfl⟩) fun token => ?_
  refine hQ.bind hh fun result => ?_
  cases result with
  | ok uri =>
      exact hQ.bind (fun _ => Exec.keeps_onThread_hand fun _ => ⟨nofun, rfl⟩) fun _ => hQ.pure _
  | error reason =>
      exact hQ.bind (fun _ => Exec.keeps_onThread_hand fun _ => ⟨nofun, rfl⟩) fun _ => hQ.pure _

/-- What is claimed is awaiting in the innermost scope. -/
theorem Route.keeps_claim_hand {uri : Uri} {scope : Option Claimed} {scopes : List (Option Claimed)}
    {pan : List (Option Claimed) → Prop} :
    (Route.claim uri : Exec σ (Option String)).Keeps Handing.rule (scope :: scopes)
      (fun captured scopes' => ∃ entry : Option Route.Entry,
        captured = entry.map (·.template) ∧ scopes' = some ⟨uri, entry⟩ :: scopes) pan := by
  refine Exec.keeps_onThread_hand fun b => ?_
  cases b.routes.claim uri with
  | none => exact ⟨nofun, none, rfl, rfl⟩
  | some claimed => exact ⟨nofun, some claimed.1, rfl, rfl⟩

/-- An exchange begins with what it claimed, and nothing is awaiting in its scope any more. Between
the two the claim is awaiting, whatever the propagator and the clock do. -/
theorem Instrumentation.start_hands {i : LiveInstrumentation σ} (request : Request)
    (hnow : i.registry.now.Hands) (scope : Option Claimed) (scopes : List (Option Claimed)) :
    (i.start request).Keeps Handing.rule (scope :: scopes) (fun _ => (none :: scopes = ·))
      fun scopes' => scopes'.tail = scopes := by
  have hQ : Exec.Composes (@Exec.Hands σ) := Exec.hands_composes
  rw [start_eq]
  refine Exec.Keeps.bind (Route.keeps_claim_hand.mono ?_ fun _ hs => hs)
  rintro captured _ ⟨entry, rfl, rfl⟩
  have hawaiting {α β : Type} {m : Exec σ α} {f : α → Exec σ β}
      {ret : β → List (Option Claimed) → Prop} (hm : m.Hands)
      (hf : ∀ a, (f a).Keeps Handing.rule (some ⟨request.uri, entry⟩ :: scopes) ret
        fun scopes' => scopes'.tail = scopes) :
      (m >>= f).Keeps Handing.rule (some ⟨request.uri, entry⟩ :: scopes) ret
        fun scopes' => scopes'.tail = scopes := by
    refine Exec.Keeps.bind ((hm _).mono (fun a scopes' hs => ?_) fun scopes' hs => ?_)
    · exact hs ▸ hf a
    · exact hs ▸ rfl
  refine hawaiting hQ.offers fun offers => hawaiting (hQ.skipped _) fun _ => ?_
  refine hawaiting (hQ.read hnow) fun begun => Exec.Keeps.bind fun c w => ?_
  refine ⟨_, .inr ⟨_, _, rfl, rfl, ?_⟩, rfl⟩
  rintro x v heq
  obtain ⟨-, rfl⟩ := Event.started.inj heq
  exact ⟨_, scopes, request.route, rfl, rfl, rfl⟩

/-- Expansions and exchanges leave what is awaiting to the scopes around them if their parts do. -/
theorem Exec.hands_inherited : Exec.Inherited (@Exec.Hands σ) where
  toComposes := Exec.hands_composes
  depth scopes _ _ := ⟨scopes, .inl ⟨rfl, rfl⟩, rfl⟩
  clear _ := Exec.keeps_onThread_hand fun _ => ⟨nofun, rfl⟩
  expand := TemplateHandler.capturing_hands
  exchange {α i request go} hnow hgo := by
    refine Exec.Hands.inScope fun scopes => Exec.Keeps.bind ?_
    refine (i.start_hands request hnow none scopes).mono (fun r scopes' hs => ?_) fun _ hs => hs
    subst hs
    refine (hgo r (none :: scopes)).mono (fun _ scopes' hs => ?_) fun scopes' hs => ?_
    · exact hs ▸ rfl
    · exact hs ▸ rfl

/-- In every program, exchanges begin with what was claimed for them. -/
theorem Program.restores_handing {kept : σ → Multiset Observation} {α : Type}
    {own : Multiset Observation} {m : Exec σ α} {gives : α → Multiset Observation}
    (h : Program kept own m gives) : m.Hands :=
  h.inherits Exec.hands_inherited

/-! ### Pools of programs -/

variable {kept : σ → Multiset Observation}

/-- The claims of the open scopes can be read off the journal, and every exchange began with what
was claimed for it. -/
def Pool.Hands (p : Pool σ) : Prop :=
  ∃ awaited : List (List (Option Claimed)), p.Keeps Handing.rule (· = []) awaited ∧
    (∀ t, awaiting t p.world.journal = (awaited[t]?).getD []) ∧
    ∀ newer m older, p.world.journal = newer ++ m :: older →
      Handing (awaiting m.thread older) m.event

/-- Nothing is awaiting in a pool that nothing has happened on yet. -/
theorem Pool.Fresh.hands {p : Pool σ} (h : p.Fresh kept) : p.Hands := by
  refine ⟨p.threads.map fun _ => [], ?_, fun t => ?_, fun newer m older hj => ?_⟩
  · refine List.forall₂_map_right_iff.mpr (List.forall₂_same.mpr fun m hm => ?_)
    have hm := (h.threads m hm).restores_handing []
    exact hm.mono (fun _ _ hs => hs.symm) fun _ hs => hs.symm
  · rw [h.journal, List.getElem?_map]
    cases p.threads[t]? <;> rfl
  · rw [h.journal] at hj
    exact absurd hj.symm (List.append_ne_nil_of_right_ne_nil _ (List.cons_ne_nil _ _))

/-- In a step of any thread, an exchange begins with what was claimed for it. -/
theorem Pool.Hands.step {p q : Pool σ} {t : ThreadId} (h : p.Hands) (hs : Pool.Step t p q) :
    q.Hands := by
  obtain ⟨awaited, hkeeps, hawaited, hhanding⟩ := h
  obtain ⟨scopes, scopes', hget, hrule, hkeeps'⟩ := hs.keeps hkeeps
  have hlt := (List.getElem?_eq_some_iff.mp hget).1
  have hscopes : awaiting t p.world.journal = scopes := by
    rw [hawaited, hget]
    rfl
  rcases hrule with ⟨hj, rfl⟩ | ⟨e, b, hj, rfl, hhand⟩
  · rw [(List.getElem?_eq_some_iff.mp hget).2.symm, List.set_getElem_self] at hkeeps'
    exact ⟨awaited, hkeeps', by rw [hj]; exact hawaited, by rw [hj]; exact hhanding⟩
  · refine ⟨_, hkeeps', fun u => ?_, fun newer m older hj' => ?_⟩
    · rw [hj]
      by_cases hu : t = u
      · subst hu
        rw [awaiting_turn, hscopes, List.getElem?_set_self hlt]
        rfl
      · rw [awaiting_cons_of_ne hu, List.getElem?_set_ne hu]
        exact hawaited u
    · rw [hj] at hj'
      rcases newer with _ | ⟨m', newer⟩
      · obtain ⟨rfl, rfl⟩ := List.cons.inj hj'
        rw [← hscopes] at hhand
        exact hhand
      · exact hhanding newer m older (List.cons.inj hj').2

end

end ExchangeMetrics
