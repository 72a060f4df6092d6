import Mathlib.Algebra.GroupWithZero.Nat
import Mathlib.Data.List.Infix
import ExchangeMetrics.Proofs.Chronicle
import ExchangeMetrics.Proofs.Life

/-!
# When things happened

The entries of the journal are numbered from the oldest one. What happens to one exchange is
numbered in the order of its life; and what a thread wrote stands in the order of its track.

A measurement is opened by one reading of the clock and closed by another. If the clock never goes
back, the measurements of exchanges that ran one after another add up to no more than the time that
the clock tells between any reading before them and any reading after them.

## Main results

* `NotedAt.lt_of_rank_lt`: the order in which an exchange goes through its life.
* `exists_notedAt_of_track`: what stands in a track was noted right before.
* `InTurn.sum_le`: exchanges one after another.
-/

namespace ExchangeMetrics

/-! ### Numbered entries -/

/-- A thread wrote this event as the entry of this number, the oldest entry being number zero. -/
def NotedAt (journal : List Moment) (n : Nat) (t : ThreadId) (e : Event) : Prop :=
  ∃ after older, ⟨t, e, after⟩ :: older <:+ journal ∧ older.length = n

/-- A thread writes nothing between two entries, the first of which has the smaller number. -/
def RightBefore (journal : List Moment) (t : ThreadId) (i n : Nat) : Prop :=
  i < n ∧ ∀ k e, i < k → k < n → ¬ NotedAt journal k t e

section

variable {journal older : List Moment} {i j n : Nat} {t u : ThreadId} {e e' : Event}

/-- An entry that is not behind another one stands in what was there before that. -/
theorem NotedAt.in_older (h : NotedAt journal i t e) (hs : older <:+ journal)
    (hlt : i < older.length) : NotedAt older i t e := by
  obtain ⟨after, oldest, hsuffix, rfl⟩ := h
  exact ⟨after, oldest, List.suffix_of_suffix_length_le hsuffix hs hlt, rfl⟩

/-- There is one entry of a number. -/
theorem NotedAt.unique (h : NotedAt journal n t e) (h' : NotedAt journal n u e') :
    t = u ∧ e = e' := by
  obtain ⟨after, older, hsuffix, hlength⟩ := h
  obtain ⟨after', older', hsuffix', hlength'⟩ := h'
  have hle : (⟨t, e, after⟩ :: older).length ≤ (⟨u, e', after'⟩ :: older').length := by
    rw [List.length_cons, List.length_cons, hlength, hlength']
  have hsame := List.suffix_of_suffix_length_le hsuffix hsuffix' hle
  have heq := hsame.eq_of_length (by rw [List.length_cons, List.length_cons, hlength, hlength'])
  obtain ⟨hmoment, -⟩ := List.cons.inj heq
  obtain ⟨rfl, rfl, -⟩ := Moment.mk.inj hmoment
  exact ⟨rfl, rfl⟩

/-- An entry has the number of its place in the journal, read from the oldest entry on. -/
theorem notedAt_of_getElem? {m : Moment} (h : journal.reverse[n]? = some m) :
    NotedAt journal n m.thread m.event := by
  obtain ⟨hn, hm⟩ := List.getElem?_eq_some_iff.1 h
  rw [List.getElem_reverse] at hm
  rw [List.length_reverse] at hn
  refine ⟨m.after, journal.drop (journal.length - 1 - n + 1), ?_, ?_⟩
  · rw [← hm, ← List.drop_eq_getElem_cons]
    exact List.drop_suffix _ _
  · rw [List.length_drop]
    omega

/-- There is nothing between an entry and the next one. -/
theorem rightBefore_succ (journal : List Moment) (t : ThreadId) (n : Nat) :
    RightBefore journal t n (n + 1) :=
  ⟨Nat.lt_succ_self n, fun _ _ hlt hk => absurd hlt (Nat.not_lt.2 (Nat.le_of_lt_succ hk))⟩

/-- Every entry has a number. -/
theorem exists_notedAt_of_mem {m : Moment} (h : m ∈ journal) :
    ∃ n, NotedAt journal n m.thread m.event := by
  obtain ⟨newer, older, rfl⟩ := List.append_of_mem h
  exact ⟨older.length, m.after, older, List.suffix_append newer _, rfl⟩

/-- A numbered entry is in the journal. -/
theorem NotedAt.exists_mem (h : NotedAt journal n t e) :
    ∃ m ∈ journal, m.thread = t ∧ m.event = e := by
  obtain ⟨after, older, hsuffix, -⟩ := h
  exact ⟨_, hsuffix.mem List.mem_cons_self, rfl, rfl⟩

/-- An entry of a journal that can be trusted fits what was there before. -/
theorem AllFit.fits_of_suffix {m : Moment} (h : AllFit journal) (hs : m :: older <:+ journal) :
    m.event.Fits older m.thread := by
  obtain ⟨newer, rfl⟩ := hs
  exact h.fits

/-! ### Tracks and numbers -/

/-- What stands somewhere in a track was noted, on what stands behind it. -/
theorem exists_suffix_of_track {pre rest : List Event} (h : track t journal = pre ++ e :: rest) :
    ∃ after older, ⟨t, e, after⟩ :: older <:+ journal ∧ track t older = rest := by
  induction journal generalizing pre with
  | nil => exact absurd h.symm (List.append_ne_nil_of_right_ne_nil _ (List.cons_ne_nil _ _))
  | cons m older ih =>
      have holder {pre : List Event} (h : track t older = pre ++ e :: rest) :
          ∃ after oldest, ⟨t, e, after⟩ :: oldest <:+ m :: older ∧ track t oldest = rest := by
        obtain ⟨after, oldest, hsuffix, htrack⟩ := ih h
        exact ⟨after, oldest, hsuffix.trans (List.suffix_cons m older), htrack⟩
      by_cases hm : m.thread = t
      · rw [track_cons_of_eq hm] at h
        cases pre with
        | nil =>
            obtain ⟨rfl, hrest⟩ := List.cons.inj h
            obtain rfl := hm
            exact ⟨m.after, older, List.suffix_refl _, hrest⟩
        | cons e'' pre => exact holder (List.cons.inj h).2
      · rw [track_cons_of_ne hm] at h
        exact holder h

/-- What stands at the top of a track is the last that the thread wrote. -/
theorem exists_last_of_track {rest : List Event} (h : track t journal = e :: rest) :
    ∃ newer after older, journal = newer ++ ⟨t, e, after⟩ :: older ∧ track t older = rest ∧
      ∀ m ∈ newer, m.thread ≠ t := by
  induction journal with
  | nil => cases h
  | cons m older ih =>
      by_cases hm : m.thread = t
      · rw [track_cons_of_eq hm] at h
        obtain ⟨rfl, hrest⟩ := List.cons.inj h
        obtain rfl := hm
        exact ⟨[], m.after, older, rfl, hrest, List.forall_mem_nil _⟩
      · rw [track_cons_of_ne hm] at h
        obtain ⟨newer, after, oldest, rfl, hrest, hnewer⟩ := ih h
        refine ⟨m :: newer, after, oldest, rfl, hrest, ?_⟩
        exact List.forall_mem_cons.2 ⟨hm, hnewer⟩

/-- What stands at the top of the track that an entry found was noted right before it. -/
theorem exists_rightBefore_of_track {m : Moment} {rest : List Event}
    (hs : m :: older <:+ journal) (h : track t older = e :: rest) :
    ∃ after oldest, ⟨t, e, after⟩ :: oldest <:+ journal ∧ track t oldest = rest ∧
      RightBefore journal t oldest.length older.length := by
  obtain ⟨newer, after, oldest, rfl, hrest, hnewer⟩ := exists_last_of_track h
  have holder : newer ++ ⟨t, e, after⟩ :: oldest <:+ journal :=
    (List.suffix_cons m _).trans hs
  refine ⟨after, oldest, (List.suffix_append newer _).trans holder, hrest, ?_, ?_⟩
  · rw [List.length_append, List.length_cons]
    omega
  · rintro k e' hlt hk hnoted
    obtain ⟨after', between, hsuffix, rfl⟩ := hnoted.in_older holder hk
    have hlast : ⟨t, e, after⟩ :: oldest <:+ between := by
      have hshort : ⟨t, e, after⟩ :: oldest <:+ ⟨t, e', after'⟩ :: between := by
        refine List.suffix_of_suffix_length_le (List.suffix_append newer _) hsuffix ?_
        rw [List.length_cons, List.length_cons]
        omega
      rcases List.suffix_cons_iff.1 hshort with heq | hbetween
      · have hlength := congrArg List.length (List.cons.inj heq).2
        omega
      · exact hbetween
    obtain ⟨middle, rfl⟩ := hlast
    obtain ⟨newer', heq⟩ := hsuffix
    have hnewer' : newer' ++ ⟨t, e', after'⟩ :: middle = newer := by
      refine (List.append_left_inj (⟨t, e, after⟩ :: oldest)).1 ?_
      rw [← heq]
      simp only [List.append_assoc, List.cons_append]
    refine hnewer ⟨t, e', after'⟩ ?_ rfl
    rw [← hnewer']
    exact List.mem_append_right _ List.mem_cons_self

end

/-! ### The order of a life -/

/-- The place of an event in the life of an exchange. -/
def Event.rank : Event → Nat
  | started .. => 0
  | dispatched _ => 1
  | settled .. => 2
  | recording .. => 3
  | tagged .. => 4
  | submitted _ => 5
  | answered .. => 6
  | reported .. => 7
  | _ => 8

/-- The place of the last event of a life that has come to this stage. -/
def Stage.rank : Stage → Nat
  | begun => 0
  | underway => 1
  | settled _ => 2
  | recording => 3
  | tagged _ => 4
  | submitted => 5
  | answered _ => 6
  | reported => 7
  | ended | lost => 8

/-- An event stands between the stages before and behind it. -/
theorem Stage.Next.rank_lt {x : ExchangeId} {s s' : Stage} {e : Event} (h : s.Next x e s') :
    s.rank < e.rank ∧ e.rank = s'.rank := by
  cases h <;> simp [Stage.rank, Event.rank]

/-- The events of a life come in the order of their places. -/
theorem Life.pairwise_rank {x : ExchangeId} {s : Stage} {l : List Event} (h : Life x s l) :
    l.Pairwise (fun e e' => e.rank < e'.rank) ∧ ∀ e ∈ l, e.rank ≤ s.rank := by
  induction h with
  | started request =>
      refine ⟨List.pairwise_singleton _ _, fun e he => ?_⟩
      rw [List.mem_singleton.1 he]
      exact Nat.le_refl 0
  | @next s s' l e _ hn ih =>
      obtain ⟨hpairwise, hle⟩ := ih
      obtain ⟨hlt, heq⟩ := hn.rank_lt
      constructor
      · refine List.pairwise_append.2 ⟨hpairwise, List.pairwise_singleton _ _, fun a ha b hb => ?_⟩
        rw [List.mem_singleton.1 hb]
        exact Nat.lt_of_le_of_lt (hle a ha) hlt
      · intro a ha
        rcases List.mem_append.1 ha with ha | ha
        · have hrank := hle a ha
          omega
        · rw [List.mem_singleton.1 ha, heq]

/-- Every exchange goes through its life in order. -/
def InOrder (journal : List Moment) : Prop :=
  ∀ x, (life x journal).Pairwise fun e e' => e.rank < e'.rank

section

variable {journal older : List Moment} {i j : Nat} {t u : ThreadId} {e e' : Event}
  {x : ExchangeId}

/-- A life is only ever added to. -/
theorem life_prefix_of_suffix (x : ExchangeId) (h : older <:+ journal) :
    life x older <+: life x journal := by
  obtain ⟨newer, rfl⟩ := h
  induction newer with
  | nil => exact List.prefix_refl _
  | cons m newer ih =>
      refine ih.trans ?_
      rw [List.cons_append, life]
      split
      · exact List.prefix_append _ _
      · exact List.prefix_refl _

/-- A numbered event of an exchange is in its life. -/
theorem NotedAt.mem_life (h : NotedAt journal i t e) (he : e.exchange? = some x) :
    e ∈ life x journal := by
  obtain ⟨m, hm, -, rfl⟩ := h.exists_mem
  exact mem_life_of_mem x hm he

/-- An event in the life of an exchange has a number. -/
theorem exists_notedAt_of_mem_life (h : e ∈ life x journal) : ∃ n t, NotedAt journal n t e := by
  obtain ⟨m, hm, rfl⟩ := exists_mem_of_mem_life x h
  obtain ⟨n, hn⟩ := exists_notedAt_of_mem hm
  exact ⟨n, m.thread, hn⟩

/-- If every life is well formed, the events of each exchange stand in the journal in the order of
their stages. -/
theorem inOrder_of_life (h : ∀ x, life x journal = [] ∨ ∃ s, Life x s (life x journal)) :
    InOrder journal := by
  intro x
  rcases h x with hnil | ⟨s, hs⟩
  · rw [hnil]
    exact List.Pairwise.nil
  · exact hs.pairwise_rank.1

/-- Of two events of an exchange, the one that was noted first comes first in its life. -/
theorem InOrder.rank_lt_of_lt (h : InOrder journal) (hi : NotedAt journal i t e)
    (hj : NotedAt journal j u e') (he : e.exchange? = some x) (he' : e'.exchange? = some x)
    (hlt : i < j) : e.rank < e'.rank := by
  obtain ⟨after, older, hsuffix, rfl⟩ := hj
  have hmem := (hi.in_older ((List.suffix_cons _ _).trans hsuffix) hlt).mem_life he
  have hlife := life_prefix_of_suffix x hsuffix
  rw [life_cons_of_eq x he'] at hlife
  have hpairwise := (h x).sublist hlife.sublist
  exact (List.pairwise_append.1 hpairwise).2.2 e hmem e' (List.mem_singleton_self e')

/-- In a journal that is in order, the event of a lower stage has the smaller number. -/
theorem InOrder.lt_of_rank_lt (h : InOrder journal) (hi : NotedAt journal i t e)
    (hj : NotedAt journal j u e') (he : e.exchange? = some x) (he' : e'.exchange? = some x)
    (hrank : e.rank < e'.rank) : i < j := by
  rcases Nat.lt_trichotomy i j with hlt | rfl | hlt
  · exact hlt
  · obtain ⟨-, rfl⟩ := hi.unique hj
    omega
  · have hback := h.rank_lt_of_lt hj hi he' he hlt
    omega

/-- An exchange comes to each place of its life once. -/
theorem InOrder.eq_of_rank_eq (h : InOrder journal) (hi : NotedAt journal i t e)
    (hj : NotedAt journal j u e') (he : e.exchange? = some x) (he' : e'.exchange? = some x)
    (hrank : e.rank = e'.rank) : i = j := by
  rcases Nat.lt_trichotomy i j with hlt | heq | hlt
  · have hforth := h.rank_lt_of_lt hi hj he he' hlt
    omega
  · exact heq
  · have hback := h.rank_lt_of_lt hj hi he' he hlt
    omega

end

/-! ### The two readings of a measurement -/

/-- The reading of the clock that an event tells of. -/
def Event.reading? : Event → Option Instant
  | clockRead r => some r
  | _ => none

/-- The clock was read for an exchange that began: the reading was noted right before the start on
the same thread. -/
inductive Opening (journal : List Moment) (x : ExchangeId) (t : ThreadId) (i : Nat) (r : Instant) :
    Prop where
  | intro {n : Nat} {view : RequestView} (hread : NotedAt journal i t (.clockRead r))
      (hstarted : NotedAt journal n t (.started x view)) (hright : RightBefore journal t i n) :
      Opening journal x t i r

/-- The clock was read for the recording of an exchange, after the tags were there, and right after
that the registry was given this duration. -/
inductive Closing (journal : List Moment) (x : ExchangeId) (t : ThreadId) (j : Nat) (r : Instant)
    (d : Duration) : Prop where
  | intro {a k n : Nat} {timer : TimerId} {tags : Tags}
      (htagged : NotedAt journal a t (.tagged x (.ok tags))) (hlt : a < j)
      (hread : NotedAt journal j t (.clockRead r))
      (hobserved : NotedAt journal k t (.observed timer tags d))
      (hright : RightBefore journal t j k)
      (hsubmitted : NotedAt journal n t (.submitted x)) (hright' : RightBefore journal t k n) :
      Closing journal x t j r d

/-- A duration is the time from one reading to another, no time if the second one is not later, and
the longest duration if there is none that long. -/
structure Duration.Between (d : Duration) (r r' : Instant) : Prop where
  back : r'.nanos ≤ r.nanos → d.nanos = 0
  forth : r.nanos ≤ r'.nanos → r'.nanos - r.nanos < durationLimit → r.nanos + d.nanos = r'.nanos
  far : durationLimit ≤ r'.nanos - r.nanos → d.nanos + 1 = durationLimit

/-- The registry was given for an exchange the time between a reading on this thread and another
one. -/
def Measured (journal : List Moment) (x : ExchangeId) (t : ThreadId) (i j : Nat) (d : Duration) :
    Prop :=
  ∃ r r' u, Opening journal x t i r ∧ Closing journal x u j r' d ∧ d.Between r r'

/-- The clock does not go back: of two readings the later one is not less, if its thread has done
something between them. -/
def Steady (journal : List Moment) : Prop :=
  ∀ i s r j t e k r', NotedAt journal i s (.clockRead r) → i ≤ j → NotedAt journal j t e → j < k →
    NotedAt journal k t (.clockRead r') → r.nanos ≤ r'.nanos

/-- These are the durations of exchanges that ran one after another between two entries: each began
after the last one was closed, in that its thread wrote something, such as that it opened the scope
of the exchange, before the clock was read for it. -/
inductive InTurn (journal : List Moment) : Nat → Nat → List Duration → Prop where
  | done {i j : Nat} (h : i ≤ j) : InTurn journal i j []
  | next {i j k a b : Nat} {x : ExchangeId} {t : ThreadId} {e : Event} {d : Duration}
      {ds : List Duration} (hik : i ≤ k) (hk : NotedAt journal k t e) (hka : k < a)
      (hm : Measured journal x t a b d) (hrest : InTurn journal b j ds) :
      InTurn journal i j (d :: ds)

section

variable {journal : List Moment} {x : ExchangeId} {t u : ThreadId} {i j k n : Nat}
  {r r' : Instant} {d : Duration}

/-- The time since an instant, up to the longest duration. -/
theorem Instant.since_nanos (later earlier : Instant) :
    (later.since earlier).nanos = min (later.nanos - earlier.nanos) (durationLimit - 1) := rfl

/-- The time since an instant lies between the two instants. -/
theorem Instant.between_since (r r' : Instant) : (r'.since r).Between r r' := by
  have hlimit : 0 < durationLimit := by decide
  constructor <;> intros <;> rw [since_nanos] <;> omega

/-- A length of time between two instants is not longer than their difference. -/
theorem Duration.Between.le (h : d.Between r r') : d.nanos ≤ r'.nanos - r.nanos := by
  rcases Nat.le_total r'.nanos r.nanos with hback | hforth
  · rw [h.back hback]
    exact Nat.zero_le _
  · rcases Nat.lt_or_ge (r'.nanos - r.nanos) durationLimit with hlt | hfar
    · have hd := h.forth hforth hlt
      omega
    · have hd := h.far hfar
      omega

/-- The readings of the clock, the last one first. -/
def readings (journal : List Moment) : List Nat :=
  journal.filterMap fun m => m.event.reading?.map (·.nanos)

/-- A clock does not go back if none of its readings is less than one that was noted before. -/
theorem steady_of_readings (h : (readings journal).Pairwise (· ≥ ·)) : Steady journal := by
  rintro i s r j t e k r' hr hij - hjk ⟨after, older, hsuffix, rfl⟩
  obtain ⟨m, hm, -, hevent⟩ :=
    (hr.in_older ((List.suffix_cons _ _).trans hsuffix) (Nat.lt_of_le_of_lt hij hjk)).exists_mem
  have hmem : r.nanos ∈ readings older := by
    refine List.mem_filterMap.2 ⟨m, hm, ?_⟩
    rw [hevent]
    rfl
  have hsub : (readings (⟨t, .clockRead r', after⟩ :: older)).Sublist (readings journal) :=
    hsuffix.sublist.filterMap _
  exact List.rel_of_pairwise_cons (h.sublist hsub) hmem

/-- A recording begins on its thread after the exchange was opened. -/
theorem Opening.lt_of_closing (h : Opening journal x t i r) (hc : Closing journal x u j r' d)
    (ho : InOrder journal) : ∃ a e, i < a ∧ a < j ∧ NotedAt journal a u e := by
  obtain ⟨-, hstarted, hlt, -⟩ := h
  obtain ⟨htagged, hltj, -, -, -, -, -⟩ := hc
  have hafter := ho.lt_of_rank_lt hstarted htagged rfl rfl (Nat.zero_lt_succ 3)
  exact ⟨_, _, hlt.trans hafter, hltj, htagged⟩

/-- Exchanges that ran one after another took no longer together than the clock tells between a
reading before them and a reading after them. -/
theorem InTurn.sum_le {ds : List Duration} (h : InTurn journal i j ds) (hs : Steady journal)
    (ho : InOrder journal) {i₀ : Nat} {s : ThreadId} (hr : NotedAt journal i₀ s (.clockRead r))
    (hi : i₀ ≤ i) {e : Event} (hk : NotedAt journal k u e) (hjk : j ≤ k) (hkn : k < n)
    (hr' : NotedAt journal n u (.clockRead r')) :
    r.nanos ≤ r'.nanos ∧ (ds.map (·.nanos)).sum ≤ r'.nanos - r.nanos := by
  induction h generalizing r i₀ s with
  | done hij =>
      have hle := hs i₀ s r k u e n r' hr (by omega) hk hkn hr'
      exact ⟨hle, Nat.zero_le _⟩
  | next hik hk' hka hm _ ih =>
      obtain ⟨r₁, r₂, v, hopening, hclosing, hd⟩ := hm
      obtain ⟨a, e', hlt, hlt', ha⟩ := hopening.lt_of_closing hclosing ho
      obtain ⟨hread₁, -, -⟩ := hopening
      obtain ⟨-, -, hread₂, -, -, -, -⟩ := hclosing
      have hle₁ := hs _ _ r _ _ _ _ r₁ hr (hi.trans hik) hk' hka hread₁
      have hle₂ := hs _ _ r₁ _ _ _ _ r₂ hread₁ (Nat.le_of_lt hlt) ha hlt' hread₂
      obtain ⟨hle₃, hsum⟩ := ih hread₂ (Nat.le_refl _) hjk
      have hle := hd.le
      refine ⟨hle₁.trans (hle₂.trans hle₃), ?_⟩
      rw [List.map_cons, List.sum_cons]
      omega

end

end ExchangeMetrics
