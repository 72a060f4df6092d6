import ExchangeMetrics.Proofs.Abandonment
import ExchangeMetrics.Proofs.Beginning
import ExchangeMetrics.Proofs.Instants

/-!
# How long exchanges take

The clock is read once when an exchange begins, behind everything that is done to its request and
before that is handed on, and once more when it is recorded, provided that there are tags. What the
registry is given, and what is reported if it takes that, is the time between the two readings.

An exchange that runs within another one, in its delegate or in its tags provider, is measured by
readings between those of the other. So if the clock does not go back, an exchange takes at least as
long as all the exchanges together that ran one after another within it.

## Main results

* `Instrumentation.clocked`: when the clock is read by exchanges that are left alone.
* `Began.exists_opening`, `AllFit.exists_closing`: the two readings in the journal.
* `Pool.timed`: what the journal tells of the durations of exchanges, however threads interleave.
-/

namespace ExchangeMetrics

variable {σ : Type}

/-! ### Left alone -/

/-- When the clock is read by exchanges that are left alone. In a recording, which is described by
`Recorded`, the clock is read exactly if the tags provider gave tags, and then before the registry
is given the time since the reading of `Begun`. -/
structure Clocked (i : LiveInstrumentation σ) : Prop where
  /-- An exchange begins with one reading, which becomes its sample. -/
  begun : ∀ (request : Request) (c : Context) (w : World σ),
    ∃ e w', (i.start request).run c w = (e, w') ∧ Begun i request c w e w'
  /-- An exchange that is intercepted is recorded once, when the delegate is done. -/
  intercepted : ∀ (request r : Request) (delegate : Request → Exec σ Result) (c : Context)
    (w w₁ : World σ) (o : Observation),
    (i.start request).run c (Route.openScope.run c w).2 = (.returned (o, r), w₁) →
      let d := (delegate r).run c (w₁.note c.thread (.dispatched o.exchange))
      ∃ e w₂, Concluded i o c d.2 d.1 e w₂ ∧ (i.intercept request delegate).run c w =
        (e, (Route.closeScope.run c (w₂.note c.thread (.ended o.exchange))).2)
  /-- Calling a measured service reads no clock but the first time, unless the service panics. -/
  called : ∀ {φ : Type} (request r : Request) (inner : Request → Exec σ φ) (c : Context)
    (w w₁ w₂ : World σ) (o : Observation) (future : φ),
    (i.start request).run c (Route.openScope.run c w).2 = (.returned (o, r), w₁) →
    (inner r).run c (w₁.note c.thread (.dispatched o.exchange)) = (.returned future, w₂) →
      (i.call inner request).run c w = (.returned ⟨o, future⟩, (Route.closeScope.run c w₂).2)
  callPanicked : ∀ {φ : Type} (request r : Request) (inner : Request → Exec σ φ) (c : Context)
    (w w₁ w₂ : World σ) (o : Observation) (message : String),
    (i.start request).run c (Route.openScope.run c w).2 = (.returned (o, r), w₁) →
    (inner r).run c (w₁.note c.thread (.dispatched o.exchange)) = (.panicked message, w₂) →
      ∃ w₃, Concluded i o c w₂ (.panicked message) (.panicked message) w₃ ∧
        (i.call inner request).run c w =
          (.panicked message, (Route.closeScope.run c (w₃.note c.thread (.ended o.exchange))).2)
  /-- A future of a measured service is recorded when it is done, however often it is polled. -/
  awaited : ∀ {φ : Type} (futures : Futures σ φ) (pauses : List (Exec σ Unit)) (f : Flight φ)
    (c : Context) (w : World σ),
    let d := (futures.await pauses f.inner).run c w
    ∃ e w₂, Flown i f.observation c d.2 d.1 e w₂ ∧
      ((i.flights futures).await pauses f).run c w = (e, w₂)
  /-- Or when it is dropped. -/
  dropped : ∀ {φ : Type} (futures : Futures σ φ) (f : Flight φ) (c : Context) (w : World σ),
    let d := (futures.drop f.inner).run c w
    ∃ w₂, Dropped i f.observation c d.2 d.1 w₂ ∧
      (f.drop i futures).run c w = (d.1, w₂.note c.thread (.ended f.observation.exchange))

/-- Whatever the tags provider, the clock and the registry do, an exchange reads the clock once when
it begins and once at most when it is recorded. -/
theorem Instrumentation.clocked (i : LiveInstrumentation σ) : Clocked i where
  begun := i.run_start
  intercepted _ _ delegate _ _ _ _ hstart := i.run_intercept delegate hstart rfl
  called _ _ _ _ _ _ _ _ _ hstart hinner := i.run_call_returned hstart hinner
  callPanicked _ _ _ _ _ _ _ _ _ hstart hinner := i.run_call_panicked hstart hinner
  awaited futures pauses f _ w := f.run_await i futures pauses w
  dropped _ _ _ _ := Flight.run_drop rfl

/-! ### The two readings in the journal -/

section

variable {journal older : List Moment} {x : ExchangeId} {t u v : ThreadId} {i j k n : Nat}
  {r r' : Instant} {d d' : Duration}

/-- One entry at most stands right before another. -/
theorem RightBefore.unique {e e' : Event} (h : RightBefore journal t i n)
    (h' : RightBefore journal t j n) (hi : NotedAt journal i t e) (hj : NotedAt journal j t e') :
    i = j := by
  rcases Nat.lt_trichotomy i j with hlt | heq | hlt
  · exact absurd hj (h.2 j e' hlt h'.1)
  · exact heq
  · exact absurd hi (h'.2 i e hlt h.1)

/-- An exchange is opened once. -/
theorem Opening.unique (h : Opening journal x t i r) (h' : Opening journal x u j r')
    (ho : InOrder journal) : t = u ∧ i = j ∧ r = r' := by
  obtain ⟨hread, hstarted, hright⟩ := h
  obtain ⟨hread', hstarted', hright'⟩ := h'
  obtain rfl := ho.eq_of_rank_eq hstarted hstarted' rfl rfl rfl
  obtain ⟨rfl, -⟩ := hstarted.unique hstarted'
  obtain rfl := hright.unique hright' hread hread'
  obtain ⟨-, heq⟩ := hread.unique hread'
  exact ⟨rfl, rfl, Event.clockRead.inj heq⟩

/-- What the registry was given is what was noted right before. -/
theorem Closing.duration_eq {timer : TimerId} {tags : Tags} (h : Closing journal x t j r d)
    (ho : InOrder journal) (hsubmitted : NotedAt journal n u (.submitted x))
    (hobserved : NotedAt journal k u (.observed timer tags d'))
    (hright : RightBefore journal u k n) : d' = d := by
  obtain ⟨-, -, -, hobserved', -, hsubmitted', hright'⟩ := h
  obtain rfl := ho.eq_of_rank_eq hsubmitted hsubmitted' rfl rfl rfl
  obtain ⟨rfl, -⟩ := hsubmitted.unique hsubmitted'
  obtain rfl := hright.unique hright' hobserved hobserved'
  obtain ⟨-, heq⟩ := hobserved.unique hobserved'
  exact (Event.observed.inj heq).2.2

/-- An exchange that was closed was submitted. -/
theorem Closing.exists_submitted (h : Closing journal x t j r d) :
    ∃ n, NotedAt journal n t (.submitted x) := by
  obtain ⟨-, -, -, -, -, hsubmitted, -⟩ := h
  exact ⟨_, hsubmitted⟩

/-- An exchange is closed once. -/
theorem Closing.unique (h : Closing journal x t i r d) (h' : Closing journal x u j r' d')
    (ho : InOrder journal) : t = u ∧ i = j ∧ r = r' ∧ d = d' := by
  obtain ⟨-, -, hread, hobserved, hright, hsubmitted, hnext⟩ := h
  have hd := h'.duration_eq ho hsubmitted hobserved hnext
  obtain ⟨-, -, hread', hobserved', hright', hsubmitted', hnext'⟩ := h'
  obtain rfl := ho.eq_of_rank_eq hsubmitted hsubmitted' rfl rfl rfl
  obtain ⟨rfl, -⟩ := hsubmitted.unique hsubmitted'
  obtain rfl := hnext.unique hnext' hobserved hobserved'
  obtain rfl := hright.unique hright' hread hread'
  obtain ⟨-, heq⟩ := hread.unique hread'
  exact ⟨rfl, rfl, Event.clockRead.inj heq, hd⟩

/-- An observation that has begun was opened by its sample. -/
theorem Began.exists_opening {o : Observation} (h : Began older o) (hs : older <:+ journal) :
    ∃ t i, Opening journal o.exchange t i o.sample.begun := by
  obtain ⟨t, pre, rest, htrack⟩ := h
  rw [List.append_assoc] at htrack
  obtain ⟨after, oldest, hstarted, hrest⟩ := exists_suffix_of_track htrack.symm
  have hstarted := hstarted.trans hs
  obtain ⟨after', oldest', hread, -, hright⟩ := exists_rightBefore_of_track hstarted hrest
  exact ⟨t, _, ⟨_, _, hread, rfl⟩, ⟨_, _, hstarted, rfl⟩, hright⟩

/-- An exchange that was given to the registry was opened and closed, and what the registry was
given is the time between the two readings. -/
theorem AllFit.exists_closing (h : AllFit journal) (hn : NotedAt journal n u (.submitted x)) :
    ∃ t i r j r', Opening journal x t i r ∧ Closing journal x u j r' (r'.since r) := by
  obtain ⟨after, older, hsubmitted, rfl⟩ := hn
  obtain ⟨o, rfl, hbegan, reading, timer, tags, between, rest, htrack⟩ :=
    h.fits_of_suffix hsubmitted
  obtain ⟨t, i, hopening⟩ := hbegan.exists_opening ((List.suffix_cons _ _).trans hsubmitted)
  obtain ⟨after₁, older₁, hobserved, htrack₁, hright₁⟩ :=
    exists_rightBefore_of_track hsubmitted htrack
  obtain ⟨after₂, older₂, hread, htrack₂, hright₂⟩ :=
    exists_rightBefore_of_track hobserved htrack₁
  obtain ⟨after₃, older₃, htagged, -⟩ := exists_suffix_of_track htrack₂
  have hlt : older₃.length < older₂.length := by
    have hle := htagged.length_le
    rw [List.length_cons] at hle
    omega
  have htagged := htagged.trans ((List.suffix_cons _ _).trans hread)
  refine ⟨t, i, o.sample.begun, older₂.length, reading, hopening, ?_⟩
  exact ⟨⟨_, _, htagged, rfl⟩, hlt, ⟨_, _, hread, rfl⟩, ⟨_, _, hobserved, rfl⟩, hright₂,
    ⟨_, _, hsubmitted, rfl⟩, hright₁⟩

/-- A duration that is reported was given to the registry. -/
theorem AllFit.measured_of_reported {name : String} {size : Nat} (h : AllFit journal)
    (ho : InOrder journal) (hn : NotedAt journal n u (.reported x (.recorded name size d))) :
    ∃ t i j, Measured journal x t i j d := by
  obtain ⟨after, older, hreported, rfl⟩ := hn
  obtain ⟨timer, tags, between, rest, -, -, htrack⟩ := h.fits_of_suffix hreported
  rw [← List.cons_append] at htrack
  obtain ⟨after₁, older₁, hsubmitted, htrack₁⟩ := exists_suffix_of_track htrack
  have hsubmitted := hsubmitted.trans ((List.suffix_cons _ _).trans hreported)
  obtain ⟨after₂, older₂, hobserved, -, hright⟩ := exists_rightBefore_of_track hsubmitted htrack₁
  have hnoted : NotedAt journal older₁.length u (.submitted x) := ⟨_, _, hsubmitted, rfl⟩
  obtain ⟨t, i, r, j, r', hopening, hclosing⟩ := h.exists_closing hnoted
  obtain rfl := hclosing.duration_eq ho hnoted ⟨_, _, hobserved, rfl⟩ hright
  exact ⟨t, i, j, r, r', u, hopening, hclosing, r.between_since r'⟩

/-- An exchange is measured by two readings if what belongs to them stands right behind them. -/
theorem Measured.of_notedAt (x : ExchangeId) (i a : Nat) {view : RequestView} {timer : TimerId}
    {tags : Tags}
    (hread : NotedAt journal i t (.clockRead r))
    (hstarted : NotedAt journal (i + 1) t (.started x view))
    (htagged : NotedAt journal a t (.tagged x (.ok tags)))
    (hread' : NotedAt journal (a + 1) t (.clockRead r'))
    (hobserved : NotedAt journal (a + 2) t (.observed timer tags (r'.since r)))
    (hsubmitted : NotedAt journal (a + 3) t (.submitted x)) :
    Measured journal x t i (a + 1) (r'.since r) :=
  ⟨r, r', t, ⟨hread, hstarted, rightBefore_succ journal t i⟩,
    ⟨htagged, Nat.lt_succ_self a, hread', hobserved, rightBefore_succ journal t (a + 1),
      hsubmitted, rightBefore_succ journal t (a + 2)⟩, r.between_since r'⟩

end

/-! ### Within an exchange -/

/-- What runs in the delegate of an exchange or in its tags provider begins behind such an event. -/
inductive Event.Enters (x : ExchangeId) : Event → Prop where
  | dispatched : Enters x (.dispatched x)
  | recording (reply : Reply) : Enters x (.recording x reply)

/-- What runs in the delegate of an exchange or in its tags provider is over before such an
event. -/
inductive Event.Leaves (x : ExchangeId) : Event → Prop where
  | settled (how : Departure) : Leaves x (.settled x how)
  | tagged (tags : Except MetricsError Tags) : Leaves x (.tagged x tags)

section

variable {journal : List Moment} {x : ExchangeId} {s t u v : ThreadId} {i j k n : Nat}
  {d : Duration} {e e' : Event}

/-- What runs within an exchange begins after the exchange. -/
theorem Event.Enters.lt_of_started {view : RequestView} (h : e.Enters x) (ho : InOrder journal)
    (hn : NotedAt journal n u e) (hstarted : NotedAt journal k t (.started x view)) : k < n := by
  cases h with
  | dispatched => exact ho.lt_of_rank_lt hstarted hn rfl rfl (Nat.zero_lt_succ 0)
  | recording reply => exact ho.lt_of_rank_lt hstarted hn rfl rfl (Nat.zero_lt_succ 2)

/-- What runs within an exchange is over before its tags are there. -/
theorem Event.Leaves.le_of_tagged {tags : Except MetricsError Tags} (h : e.Leaves x)
    (ho : InOrder journal) (hn : NotedAt journal n u e)
    (htagged : NotedAt journal k t (.tagged x tags)) : n ≤ k := by
  cases h with
  | settled how =>
      have hrank : 2 < 4 := Nat.lt_add_of_pos_right Nat.two_pos
      exact Nat.le_of_lt (ho.lt_of_rank_lt hn htagged rfl rfl hrank)
  | tagged tags' => exact Nat.le_of_eq (ho.eq_of_rank_eq hn htagged rfl rfl rfl)

/-- Two readings of the clock are further apart than any duration. -/
def FarApart (journal : List Moment) (i j : Nat) : Prop :=
  ∃ t u r r', NotedAt journal i t (.clockRead r) ∧ NotedAt journal j u (.clockRead r') ∧
    durationLimit ≤ r'.nanos - r.nanos

/-- Exchanges that ran one after another within another one did not take longer together than that
did. -/
theorem Measured.sum_le {ds : List Duration} (h : Measured journal x t i j d) (hs : Steady journal)
    (ho : InOrder journal) (hn : NotedAt journal n u e) (he : e.Enters x)
    (hk : NotedAt journal k v e') (he' : e'.Leaves x) (hds : InTurn journal n k ds) :
    (ds.map (·.nanos)).sum ≤ d.nanos ∨ FarApart journal i j := by
  obtain ⟨r, r', _, hopening, hclosing, hd⟩ := h
  obtain ⟨hread, hstarted, hlt, -⟩ := hopening
  obtain ⟨htagged, hltj, hread', -, -, -, -⟩ := hclosing
  have hstart := he.lt_of_started ho hn hstarted
  have hend := he'.le_of_tagged ho hk htagged
  obtain ⟨hle, hsum⟩ := hds.sum_le hs ho hread (by omega) htagged hend hltj hread'
  rcases Nat.lt_or_ge (r'.nanos - r.nanos) durationLimit with hlt | hfar
  · have heq := hd.forth hle hlt
    exact .inl (by omega)
  · exact .inr ⟨_, _, r, r', hread, hread', hfar⟩

end

/-- What a journal tells of the durations of exchanges. -/
structure Timed (journal : List Moment) : Prop where
  /-- An exchange that was started was opened by a reading right before on the same thread, before
  its request was handed on. -/
  opened : ∀ x t n view, NotedAt journal n t (.started x view) → ∃ i r, Opening journal x t i r
  openedBefore : ∀ x t i r u n, Opening journal x t i r →
    NotedAt journal n u (.dispatched x) → i < n
  /-- It was opened once. -/
  openedOnce : ∀ x t i r t' i' r', Opening journal x t i r → Opening journal x t' i' r' →
    t = t' ∧ i = i' ∧ r = r'
  /-- An exchange that was given to the registry was closed by another reading, after its tags were
  there. -/
  closed : ∀ x u n, NotedAt journal n u (.submitted x) → ∃ j r d, Closing journal x u j r d
  /-- It was closed once. -/
  closedOnce : ∀ x t i r d t' i' r' d', Closing journal x t i r d → Closing journal x t' i' r' d' →
    t = t' ∧ i = i' ∧ r = r' ∧ d = d'
  /-- An exchange that has tags and was reported on was closed, unless the clock panicked. -/
  tagged : ∀ x t n tags u k report, NotedAt journal n t (.tagged x (.ok tags)) →
    NotedAt journal k u (.reported x report) → (∃ v j r d, Closing journal x v j r d) ∨
      ∃ metric, report = .unrecorded metric (.registry "meter registry panicked")
  /-- An exchange without tags was not closed. -/
  untagged : ∀ x t n reason u j r d, NotedAt journal n t (.tagged x (.error reason)) →
    ¬ Closing journal x u j r d
  /-- What the registry was given is the time between the two readings. -/
  given : ∀ x u j r' d, Closing journal x u j r' d → ∃ t i r, Opening journal x t i r ∧
    d.Between r r'
  /-- So is what was reported if the registry took that. -/
  reported : ∀ x u n name size d, NotedAt journal n u (.reported x (.recorded name size d)) →
    ∃ t i j, Measured journal x t i j d
  /-- If the clock does not go back, exchanges that ran one after another within an exchange, in its
  delegate or in its tags provider, did not take longer together than that did, provided that there
  is a duration that long. -/
  within : Steady journal → ∀ x t i j d, Measured journal x t i j d → ∀ n u e k v e',
    NotedAt journal n u e → e.Enters x → NotedAt journal k v e' → e'.Leaves x →
      ∀ ds, InTurn journal n k ds →
        (ds.map (·.nanos)).sum ≤ d.nanos ∨ FarApart journal i j

/-- An exchange that has tags and was reported on was given to the registry, unless the clock
panicked. -/
theorem Life.submitted_of_reported {x : ExchangeId} {s : Stage} {l : List Event} {tags : Tags}
    {report : Report} (h : Life x s l) (ht : .tagged x (.ok tags) ∈ l)
    (hr : .reported x report ∈ l) : .submitted x ∈ l ∨
      ∃ metric, .reported x (.unrecorded metric (.registry "meter registry panicked")) ∈ l := by
  rcases h.submitted_of_tagged ht with rfl | hsubmitted
  · have hle : 7 ≤ 4 := h.pairwise_rank.2 _ hr
    omega
  · exact hsubmitted

/-- What has tags and was reported on was closed, unless the clock panicked. -/
theorem AllFit.closed_of_tagged {journal : List Moment} {x : ExchangeId} {t u : ThreadId}
    {n k : Nat} {tags : Tags} {report : Report} (h : AllFit journal) (ho : InOrder journal)
    (hl : life x journal = [] ∨ ∃ s, Life x s (life x journal))
    (hn : NotedAt journal n t (.tagged x (.ok tags)))
    (hk : NotedAt journal k u (.reported x report)) :
    (∃ v j r d, Closing journal x v j r d) ∨
      ∃ metric, report = .unrecorded metric (.registry "meter registry panicked") := by
  have htagged := hn.mem_life (x := x) rfl
  have hreported := hk.mem_life (x := x) rfl
  rcases hl with hnil | ⟨s, hs⟩
  · rw [hnil] at htagged
    exact absurd htagged List.not_mem_nil
  · rcases hs.submitted_of_reported htagged hreported with hsubmitted | ⟨metric, hpanicked⟩
    · obtain ⟨m, v, hm⟩ := exists_notedAt_of_mem_life hsubmitted
      obtain ⟨_, _, _, j, r', _, hclosing⟩ := h.exists_closing hm
      exact .inl ⟨v, j, r', _, hclosing⟩
    · obtain ⟨m, v, hm⟩ := exists_notedAt_of_mem_life hpanicked
      obtain rfl := ho.eq_of_rank_eq hk hm rfl rfl rfl
      obtain ⟨-, heq⟩ := hk.unique hm
      exact .inr ⟨metric, (Event.reported.inj heq).2⟩

/-- If all events fit and every life is well formed, the readings in the journal are as they should
be. -/
theorem AllFit.timed_of_life {journal : List Moment} (h : AllFit journal)
    (hl : ∀ x, life x journal = [] ∨ ∃ s, Life x s (life x journal)) : Timed journal := by
  have ho := inOrder_of_life hl
  constructor
  case opened =>
    rintro x t n view ⟨after, older, hstarted, rfl⟩
    obtain ⟨r, rest, htrack⟩ := h.fits_of_suffix hstarted
    obtain ⟨after', oldest, hread, -, hright⟩ := exists_rightBefore_of_track hstarted htrack
    exact ⟨_, r, ⟨_, _, hread, rfl⟩, ⟨_, _, hstarted, rfl⟩, hright⟩
  case openedBefore =>
    rintro x t i r u n ⟨-, hstarted, hlt, -⟩ hn
    exact hlt.trans (ho.lt_of_rank_lt hstarted hn rfl rfl (Nat.zero_lt_succ 0))
  case openedOnce =>
    intro x t i r t' i' r' hopening hopening'
    exact hopening.unique hopening' ho
  case closed =>
    intro x u n hn
    obtain ⟨_, _, _, j, r', _, hclosing⟩ := h.exists_closing hn
    exact ⟨j, r', _, hclosing⟩
  case closedOnce =>
    intro x t i r d t' i' r' d' hclosing hclosing'
    exact hclosing.unique hclosing' ho
  case tagged =>
    intro x t n tags u k report hn hk
    exact h.closed_of_tagged ho (hl x) hn hk
  case untagged =>
    rintro x t n reason u j r d hn ⟨htagged, -, -, -, -, -, -⟩
    obtain rfl := ho.eq_of_rank_eq hn htagged rfl rfl rfl
    obtain ⟨-, heq⟩ := hn.unique htagged
    cases heq
  case given =>
    intro x u j r' d hclosing
    obtain ⟨n, hn⟩ := hclosing.exists_submitted
    obtain ⟨t, i, r, j', r'', hopening, hclosing'⟩ := h.exists_closing hn
    obtain ⟨-, -, rfl, rfl⟩ := hclosing.unique hclosing' ho
    exact ⟨t, i, r, hopening, r.between_since _⟩
  case reported =>
    intro x u n name size d hn
    exact h.measured_of_reported ho hn
  case within =>
    intro hs x t i j d hm n u e k v e' hn he hk he' ds hds
    exact hm.sum_le hs ho hn he hk he' hds

/-- Exchanges read the clock when they begin and when they are recorded, and take the time between
the two readings, left alone or among others. -/
theorem Pool.timed {kept : σ → Multiset Observation} {p q : Pool σ} (hp : p.Fresh kept)
    (h : p.Reaches q) :
    (∀ i : LiveInstrumentation σ, Clocked i) ∧ Timed q.world.journal := by
  obtain ⟨hands, -, hbalance⟩ := hp.accounts_of_reaches h
  refine ⟨Instrumentation.clocked, (hp.sound_of_reaches h).fits.timed_of_life fun x => ?_⟩
  by_cases hx : x < q.world.exchanges
  · exact .inr (hbalance.exists_life hx)
  · exact .inl (hbalance.fresh x (Nat.le_of_not_lt hx))

/-! ### Exchanges within an exchange -/

namespace Ticking

/-- An instrumentation whose clock ticks whenever it is read, by whichever exchange. -/
def instrumentation (provider : TagsProvider Nat) : LiveInstrumentation Nat where
  registry := { now := Exec.access fun n => (⟨n⟩, n + 1), record := fun _ _ _ => pure (.ok ()) }
  provider := provider
  timer := { name := "http.client.requests" }
  propagates := false

/-- An exchange with nothing in it. -/
def inner : Exec Nat Result :=
  (instrumentation (.standard "UNKNOWN")).intercept .plain fun _ => pure (.ok .plain)

/-- A provider of the standard tags for which there is an exchange. -/
def provider : TagsProvider Nat := fun request reply => do
  let _ ← inner
  pure (.ok (standardTags "UNKNOWN" request reply))

/-- An exchange with two others in its delegate and one in its tags provider. -/
def outer : Exec Nat Unit := do
  let _ ← (instrumentation provider).intercept .plain fun _ => do
    let _ ← inner
    inner
  pure ()

/-- A single thread. -/
def pool : Pool Nat where
  world := { shared := 0 }
  threads := [outer]

/-- The clock that ticks owns nothing. -/
theorem program_now : Program (fun _ => 0) 0 (Exec.access fun n : Nat => ((⟨n⟩ : Instant), n + 1))
    fun _ => 0 :=
  .access _ fun _ => rfl

/-- An exchange with this clock owns nothing if its provider and its delegate do not. -/
theorem program_intercept {provider : TagsProvider Nat} {delegate : Request → Exec Nat Result}
    (hprovider : ∀ view reply, Program (fun _ => 0) 0 (provider view reply) fun _ => 0)
    (hd : ∀ request, Program (fun _ => 0) 0 (delegate request) fun _ => 0) :
    Program (fun _ => 0) 0 ((instrumentation provider).intercept .plain delegate) fun _ => 0 :=
  .intercept .plain program_now (fun _ _ _ => .pure _ fun _ => 0) hprovider hd

/-- The exchange with nothing in it owns nothing. -/
theorem program_inner : Program (fun _ => 0) 0 inner fun _ => 0 :=
  program_intercept
    (fun view reply => .pure (Except.ok (standardTags "UNKNOWN" view reply)) fun _ => 0)
    fun _ => .pure _ fun _ => 0

/-- Nothing has happened on the thread of the example yet. -/
theorem pool_fresh : pool.Fresh fun _ => 0 := by
  refine ⟨rfl, rfl, rfl, rfl, fun m hm => ?_⟩
  obtain rfl := List.mem_singleton.1 hm
  refine .bind (program_intercept (fun view reply => ?_) fun _ => ?_) fun _ => .pure () fun _ => 0
  · exact .bind program_inner fun _ =>
      .pure (Except.ok (standardTags "UNKNOWN" view reply)) fun _ => 0
  · exact .bind program_inner fun _ => program_inner

/-- The journal of the thread when it is done. -/
def journal : List Moment := (outer.run { thread := 0 } pool.world).2.journal

/-- The thread can be run to its end. -/
theorem exists_reaches : ∃ q, pool.Reaches q ∧ q.world.journal = journal :=
  ⟨_, Pool.reaches_run (p := pool) (t := 0) rfl, rfl⟩

/-- Its clock never goes back. -/
theorem steady : Steady journal := by
  have hreadings : readings journal = [7, 6, 5, 4, 3, 2, 1, 0] := by decide +kernel
  refine steady_of_readings ?_
  rw [hreadings]
  decide

/-- An entry of the journal, by its number. -/
theorem noted {n : Nat} {e : Event} {after : Thread}
    (h : journal.reverse[n]? = some ⟨0, e, after⟩) : NotedAt journal n 0 e :=
  notedAt_of_getElem? h

/-- The outer exchange took seven ticks. -/
theorem measured_outer : Measured journal 0 0 2 53 (.ofNanos 7) := by
  have hbegun : NotedAt journal 2 0 (.clockRead ⟨0⟩) := noted rfl
  have hended : NotedAt journal 53 0 (.clockRead ⟨7⟩) := noted rfl
  exact .of_notedAt 0 2 52 hbegun (noted rfl) (noted rfl) hended (noted rfl) (noted rfl)

/-- Its two readings are not farther apart than the longest duration. -/
theorem not_farApart : ¬ FarApart journal 2 53 := by
  rintro ⟨t, u, r, r', hbegun, hended, hfar⟩
  obtain ⟨-, hr⟩ := hbegun.unique (noted rfl)
  obtain ⟨-, hr'⟩ := hended.unique (noted rfl)
  obtain rfl := Event.clockRead.inj hr
  obtain rfl := Event.clockRead.inj hr'
  exact absurd hfar (by decide)

/-- The first exchange in the delegate took one tick. -/
theorem measured_first : Measured journal 1 0 7 13 (.ofNanos 1) := by
  have hbegun : NotedAt journal 7 0 (.clockRead ⟨1⟩) := noted rfl
  have hended : NotedAt journal 13 0 (.clockRead ⟨2⟩) := noted rfl
  exact .of_notedAt 1 7 12 hbegun (noted rfl) (noted rfl) hended (noted rfl) (noted rfl)

/-- So did the second one. -/
theorem measured_second : Measured journal 2 0 22 28 (.ofNanos 1) := by
  have hbegun : NotedAt journal 22 0 (.clockRead ⟨3⟩) := noted rfl
  have hended : NotedAt journal 28 0 (.clockRead ⟨4⟩) := noted rfl
  exact .of_notedAt 2 22 27 hbegun (noted rfl) (noted rfl) hended (noted rfl) (noted rfl)

/-- And so did the one in the tags provider. -/
theorem measured_third : Measured journal 3 0 39 45 (.ofNanos 1) := by
  have hbegun : NotedAt journal 39 0 (.clockRead ⟨5⟩) := noted rfl
  have hended : NotedAt journal 45 0 (.clockRead ⟨6⟩) := noted rfl
  exact .of_notedAt 3 39 44 hbegun (noted rfl) (noted rfl) hended (noted rfl) (noted rfl)

/-- The exchanges in the delegate. -/
theorem inTurn_delegate : InTurn journal 4 35 [.ofNanos 1, .ofNanos 1] := by
  have hdispatched : NotedAt journal 4 0 (.dispatched 0) := noted rfl
  have hended : NotedAt journal 18 0 (.ended 1) := noted rfl
  exact .next (by omega) hdispatched (by omega) measured_first
    (.next (by omega) hended (by omega) measured_second (.done (by omega)))

/-- The exchange in the tags provider. -/
theorem inTurn_provider : InTurn journal 36 52 [.ofNanos 1] :=
  .next (Nat.le_refl 36) (noted rfl) (by omega) measured_third (.done (by omega))

/-- What happened in the delegate took two ticks, what happened in the provider one, and all of it
seven. -/
theorem outer_took_longest : ∃ q, pool.Reaches q ∧ Steady q.world.journal ∧
    Measured q.world.journal 0 0 2 53 (.ofNanos 7) ∧
    (∃ ds, InTurn q.world.journal 4 35 ds ∧ ds.length = 2 ∧ (ds.map (·.nanos)).sum ≤ 7) ∧
    ∃ ds, InTurn q.world.journal 36 52 ds ∧ ds.length = 1 ∧ (ds.map (·.nanos)).sum ≤ 7 := by
  obtain ⟨q, hq, hjournal⟩ := exists_reaches
  have htimed := (Pool.timed pool_fresh hq).2
  rw [hjournal] at htimed
  have hdispatched : NotedAt journal 4 0 (.dispatched 0) := noted rfl
  have hsettled : NotedAt journal 35 0 (.settled 0 (.result (.ok .plain))) := noted rfl
  have hrecording : NotedAt journal 36 0 (.recording 0 (.ofResponse .plain)) := noted rfl
  have htagged : ∃ tags, NotedAt journal 52 0 (.tagged 0 tags) := ⟨_, noted rfl⟩
  obtain ⟨tags, htagged⟩ := htagged
  have hdelegate := htimed.within steady 0 0 2 53 _ measured_outer 4 0 _ 35 0 _ hdispatched
    .dispatched hsettled (.settled _) _ inTurn_delegate
  have hprovider := htimed.within steady 0 0 2 53 _ measured_outer 36 0 _ 52 0 _ hrecording
    (.recording _) htagged (.tagged _) _ inTurn_provider
  refine ⟨q, hq, ?_⟩
  rw [hjournal]
  exact ⟨steady, measured_outer,
    ⟨_, inTurn_delegate, rfl, hdelegate.resolve_right not_farApart⟩,
    ⟨_, inTurn_provider, rfl, hprovider.resolve_right not_farApart⟩⟩

end Ticking

end ExchangeMetrics
