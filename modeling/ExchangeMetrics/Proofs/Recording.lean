import ExchangeMetrics.Proofs.Custody
import Mathlib.Algebra.BigOperators.Group.Finset.Piecewise

/-!
# Every exchange is recorded once

Threads run programs side by side on a fresh world. However their actions interleave, the ledger
of what they have in hand and of what rests in the shared state balances. So every exchange that
has begun is recorded at most once, never before its delegate is done with the request, and it
was recorded when it is over; the exchanges that were not recorded yet are those that still hold
their sample. The one exception is an exchange whose delegate failed with an error that gives no
text: it is over without a recording.

## Main results

* `Pool.Accounts.step`: a step of any thread keeps the balance.
* `Life.recordedOnce`: what the balance says about the life of a single exchange.
* `count_eq_sum`: what is counted in the journal is counted life by life.
* `Pool.recorded_once`: all of this in every state that a pool of programs can reach.
* `Failure.broken_unrecorded`: exchanges that are over without a recording.
-/

namespace ExchangeMetrics

variable {σ : Type} {kept : σ → Multiset Observation}

/-! ### The balance of a pool -/

/-- Each thread keeps account of what it has in hand and has nothing left in the end, and together
with what rests in the shared state this balances. -/
def Pool.Accounts (kept : σ → Multiset Observation) (p : Pool σ) : Prop :=
  ∃ hands : List Ledger, p.Keeps (Ledger.rule kept) (fun l => l = 0) hands ∧
    (hands.sum + .resting (kept p.world.shared)).Balances p.world

/-- The sum of a list apart from one of its elements. -/
theorem exists_rest_of_getElem? {l : List Ledger} {t : Nat} {a : Ledger} (h : l[t]? = some a) :
    ∃ rest, l.sum = a + rest ∧ ∀ b, (l.set t b).sum = b + rest := by
  induction l generalizing t with
  | nil => cases h
  | cons c l ih =>
      cases t with
      | zero =>
          obtain rfl := Option.some.inj h
          exact ⟨l.sum, List.sum_cons, fun b => List.sum_cons⟩
      | succ t =>
          obtain ⟨rest, hsum, hset⟩ := ih h
          refine ⟨c + rest, ?_, fun b => ?_⟩
          · rw [List.sum_cons, hsum, add_left_comm]
          · rw [List.set_cons_succ, List.sum_cons, hset, add_left_comm]

/-- Before anything has happened the accounts balance. -/
theorem Pool.Fresh.accounts {p : Pool σ} (h : p.Fresh kept) : p.Accounts kept := by
  refine ⟨p.threads.map fun _ => 0, ?_, ?_⟩
  · refine List.forall₂_map_right_iff.mpr (List.forall₂_same.mpr fun m hm => ?_)
    exact (h.threads m hm).transfers
  · have hzero : (p.threads.map fun _ => (0 : Ledger)).sum = 0 :=
      List.sum_eq_zero fun l hl => by
        obtain ⟨m, -, rfl⟩ := List.mem_map.mp hl
        rfl
    rw [hzero, h.shared]
    refine ⟨Multiset.nodup_zero, fun x s hx => ?_, fun x hlt _ => ?_, fun x _ => ?_⟩
    · exact absurd hx (Multiset.notMem_zero _)
    · rw [h.exchanges] at hlt
      exact absurd hlt (Nat.not_lt_zero x)
    · rw [h.journal, life_nil]

/-- A step of any thread keeps the balance. -/
theorem Pool.Accounts.step {p q : Pool σ} {t : ThreadId} (h : p.Accounts kept)
    (hs : Pool.Step t p q) : q.Accounts kept := by
  obtain ⟨hands, hkeeps, hbalance⟩ := h
  obtain ⟨hand, hand', hget, hadv, hkeeps'⟩ := hs.keeps hkeeps
  obtain ⟨rest, hsum, hset⟩ := exists_rest_of_getElem? hget
  refine ⟨hands.set t hand', hkeeps', ?_⟩
  rw [hsum, add_right_comm] at hbalance
  rw [hset, add_right_comm]
  exact (hadv.frame rest).balances hbalance

/-- In every state that a pool of programs can reach the accounts balance. -/
theorem Pool.Fresh.accounts_of_reaches {p q : Pool σ} (hp : p.Fresh kept) (h : p.Reaches q) :
    q.Accounts kept :=
  h.invariant hp.accounts fun _ _ _ hr hs => hr.step hs

/-! ### What the balance says -/

/-- What is guaranteed about the life of an exchange, whether it is over or not. -/
structure RecordedOnce (x : ExchangeId) (l : List Event) : Prop where
  /-- Its recording begins once at most. -/
  recordings : l.countP Event.isRecording ≤ 1
  /-- Its recording does not begin before the delegate is done with the request. -/
  settled : ∀ before reply after, l = before ++ .recording x reply :: after →
    ∃ request how, before = [.started x request, .dispatched x, .settled x how]
  /-- When it is over it was recorded and reported on once, unless the error with which the
  delegate failed gives no text. -/
  ended : Event.ended x ∈ l →
    (l.countP Event.isRecording = 1 ∧ l.countP Event.isReport = 1) ∨
      (l.countP Event.isRecording = 0 ∧ l.countP Event.isReport = 0 ∧
        ∃ f : Failure, f.IsMute ∧ .settled x (.result (.error f)) ∈ l)
  /-- A recording gives the registry one observation at most. -/
  submissions : l.countP Event.isSubmission ≤ l.countP Event.isRecording
  /-- A recording is reported on once at most. -/
  reports : l.countP Event.isReport ≤ l.countP Event.isRecording
  /-- A report says that the observation was recorded exactly if the registry took it. -/
  report : ∀ r, .reported x r ∈ l →
    ((∃ metric n d, r = .recorded metric n d) ↔ .answered x (.ok ()) ∈ l)
  /-- So it is read at the level of traces exactly if the registry took the observation, and
  otherwise as a piece of information. -/
  level : ∀ r, .reported x r ∈ l →
    ((LogEvent.report r).level = .trace ↔ .answered x (.ok ()) ∈ l) ∧
      ((LogEvent.report r).level = .info ↔ .answered x (.ok ()) ∉ l)

/-- An exchange still holds its sample: it has begun, its recording has not, and it is not
over. -/
def HoldsSample (l : List Event) : Prop :=
  l.countP Event.isStart = 1 ∧ l.countP Event.isRecording = 0 ∧ l.countP Event.hasEnded = 0

/-- An exchange is over, and its recording has not begun. -/
def EndedUnrecorded (l : List Event) : Prop :=
  l.countP Event.isRecording = 0 ∧ l.countP Event.hasEnded = 1

instance : DecidablePred HoldsSample :=
  fun _ => inferInstanceAs (Decidable (_ ∧ _ ∧ _))

instance : DecidablePred EndedUnrecorded :=
  fun _ => inferInstanceAs (Decidable (_ ∧ _))

section

variable {x : ExchangeId} {s : Stage} {l : List Event}

/-- A life that is well formed has all that is guaranteed. -/
theorem Life.recordedOnce (h : Life x s l) : RecordedOnce x l := by
  refine ⟨?_, fun before reply after hl => ?_, fun hended => ?_, ?_, ?_, fun r hr => ?_,
    fun r hr => ?_⟩
  · rw [h.recordings_eq]
    exact s.recordings_le_one
  · rw [hl] at h
    exact h.settled_before_recording
  · rw [h.recordings_eq, h.reports_eq]
    rw [h.ended_mem_iff] at hended
    cases s with
    | ended => exact .inl ⟨rfl, rfl⟩
    | lost => exact .inr ⟨rfl, rfl, h.mute_of_lost⟩
    | _ => cases hended
  · rw [h.recordings_eq]
    exact Nat.le_trans h.submissions_le s.submissions_le_recordings
  · rw [h.reports_eq, h.recordings_eq]
    exact s.reports_le_recordings
  · exact h.recorded_iff_accepted hr
  · have haccepted := h.recorded_iff_accepted hr
    rw [LogEvent.level_report_eq_trace_iff, LogEvent.level_report_eq_info_iff]
    exact ⟨haccepted, not_congr haccepted⟩

/-- An exchange holds its sample exactly if it is neither recorded nor over. -/
theorem Life.holdsSample_iff (h : Life x s l) :
    HoldsSample l ↔ s.recordings = 0 ∧ s.hasEnded = false := by
  rw [HoldsSample, h.starts_eq, h.recordings_eq, h.ends_eq, Bool.toNat_eq_zero]
  exact and_iff_right rfl

/-- An exchange is over without a recording exactly if its stage says so. -/
theorem Life.endedUnrecorded_iff (h : Life x s l) :
    EndedUnrecorded l ↔ s.recordings = 0 ∧ s.hasEnded = true := by
  rw [EndedUnrecorded, h.recordings_eq, h.ends_eq, Bool.toNat_eq_one]

/-- An exchange that has begun was recorded, or holds its sample, or is over without a
recording. -/
theorem Life.account (h : Life x s l) :
    l.countP Event.isStart = l.countP Event.isRecording +
      (if HoldsSample l then 1 else 0) + (if EndedUnrecorded l then 1 else 0) := by
  rw [if_congr h.holdsSample_iff rfl rfl, if_congr h.endedUnrecorded_iff rfl rfl, h.starts_eq,
    h.recordings_eq]
  cases s <;> rfl

end

/-! ### Counting in the journal -/

/-- How many events of a kind the journal holds. -/
def count (p : Event → Bool) (journal : List Moment) : Nat :=
  journal.countP fun m => p m.event

/-- An event of a kind that is about one of the first `n` exchanges is about exactly one of
them. -/
theorem Event.sum_exchange? {p : Event → Bool} {e : Event} {n : Nat}
    (he : p e = true → ∃ x < n, e.exchange? = some x) :
    ∑ x ∈ Finset.range n, (if e.exchange? = some x ∧ p e then 1 else 0) =
      if p e then 1 else 0 := by
  by_cases hp : p e = true
  · obtain ⟨y, hlt, hy⟩ := he hp
    simp [hp, hy, hlt]
  · simp [hp]

/-- What is counted in the journal is counted life by life, if it is about exchanges and only
finitely many exchanges have a life. -/
theorem count_eq_sum {p : Event → Bool} {n : Nat} {journal : List Moment}
    (hp : ∀ e, p e = true → ∃ x, e.exchange? = some x)
    (hn : ∀ x, n ≤ x → life x journal = []) :
    count p journal = ∑ x ∈ Finset.range n, (life x journal).countP p := by
  induction journal with
  | nil => simp [count]
  | cons m older ih =>
      have holder (x : ExchangeId) (hx : n ≤ x) := life_eq_nil_of_cons x (hn x hx)
      have habout (hm : p m.event = true) : ∃ x < n, m.event.exchange? = some x := by
        obtain ⟨y, hy⟩ := hp m.event hm
        refine ⟨y, ?_, hy⟩
        by_contra hle
        exact (holder y (Nat.le_of_not_lt hle)).1 hy
      have hcount : count p (m :: older) = count p older + (if p m.event then 1 else 0) :=
        List.countP_cons
      rw [hcount, ih fun x hx => (holder x hx).2, ← Event.sum_exchange? habout,
        ← Finset.sum_add_distrib]
      exact Finset.sum_congr rfl fun x _ => (countP_life_cons x p m older).symm

/-! ### The states of a pool -/

section

variable {w : World σ} {l : Ledger}

/-- Every exchange that has begun is listed or over, and has a well-formed life. -/
theorem Ledger.Balances.exists_life (h : l.Balances w) {x : ExchangeId} (hx : x < w.exchanges) :
    ∃ s, Life x s (life x w.journal) := by
  by_cases hl : ∃ s, (x, s) ∈ l
  · obtain ⟨s, hs⟩ := hl
    exact ⟨s, (h.listed x s hs).2.2⟩
  · obtain ⟨s, -, hs⟩ := h.unlisted x hx fun s hs => hl ⟨s, hs⟩
    exact ⟨s, hs⟩

/-- An exchange that has not begun has all that is guaranteed. -/
theorem RecordedOnce.nil (x : ExchangeId) : RecordedOnce x [] := by
  refine ⟨Nat.zero_le 1, fun before reply after hl => ?_, ?_, Nat.le_refl 0, Nat.le_refl 0, ?_, ?_⟩
  · exact absurd hl.symm (List.append_ne_nil_of_right_ne_nil _ (List.cons_ne_nil _ _))
  · exact fun hended => absurd hended List.not_mem_nil
  · exact fun r hr => absurd hr List.not_mem_nil
  · exact fun r hr => absurd hr List.not_mem_nil

/-- What the balance guarantees about each exchange. -/
theorem Ledger.Balances.recordedOnce (h : l.Balances w) (x : ExchangeId) :
    RecordedOnce x (life x w.journal) := by
  by_cases hx : x < w.exchanges
  · obtain ⟨s, hs⟩ := h.exists_life hx
    exact hs.recordedOnce
  · rw [h.fresh x (Nat.le_of_not_lt hx)]
    exact .nil x

/-- The exchanges that have begun, and how many of them were recorded. -/
theorem Ledger.Balances.count_starts (h : l.Balances w) :
    count Event.isStart w.journal = w.exchanges ∧
      count Event.isStart w.journal = count Event.isRecording w.journal +
        ((Finset.range w.exchanges).filter fun x => HoldsSample (life x w.journal)).card +
        ((Finset.range w.exchanges).filter fun x => EndedUnrecorded (life x w.journal)).card := by
  have hstarts : count Event.isStart w.journal =
      ∑ x ∈ Finset.range w.exchanges, (life x w.journal).countP Event.isStart :=
    count_eq_sum (fun _ => Event.exchange?_of_isStart) h.fresh
  have hrecordings : count Event.isRecording w.journal =
      ∑ x ∈ Finset.range w.exchanges, (life x w.journal).countP Event.isRecording :=
    count_eq_sum (fun _ => Event.exchange?_of_isRecording) h.fresh
  constructor
  · have hone : ∀ x ∈ Finset.range w.exchanges,
        (life x w.journal).countP Event.isStart = 1 := by
      intro x hx
      obtain ⟨s, hs⟩ := h.exists_life (Finset.mem_range.mp hx)
      exact hs.starts_eq
    rw [hstarts, Finset.sum_congr rfl hone, Finset.sum_const, Finset.card_range]
    exact Nat.mul_one w.exchanges
  · rw [hstarts, hrecordings, Finset.card_filter, Finset.card_filter, ← Finset.sum_add_distrib,
      ← Finset.sum_add_distrib]
    refine Finset.sum_congr rfl fun x hx => ?_
    obtain ⟨s, hs⟩ := h.exists_life (Finset.mem_range.mp hx)
    exact hs.account

/-- The exchanges that a ledger lists are those that have begun and are not over. -/
theorem Ledger.Balances.mem_listed_iff (h : l.Balances w) (x : ExchangeId) :
    x ∈ l.listed ↔ x < w.exchanges ∧ Event.ended x ∉ life x w.journal := by
  rw [Ledger.listed, Multiset.mem_map]
  constructor
  · rintro ⟨⟨x, s⟩, hs, rfl⟩
    obtain ⟨hlt, hopen, hlife⟩ := h.listed x s hs
    refine ⟨hlt, fun hended => ?_⟩
    rw [hlife.ended_mem_iff, hopen] at hended
    cases hended
  · rintro ⟨hlt, hended⟩
    by_contra hnot
    obtain ⟨s, hs, hlife⟩ := h.unlisted x hlt fun s hs => hnot ⟨(x, s), hs, rfl⟩
    exact hended (hlife.ended_mem_iff.mpr hs)

end

/-- Threads that stand between two operations have in hand what they own. -/
theorem listed_sum_eq {threads : List (Exec σ Unit)} {hands : List Ledger}
    {owns : List (Multiset Observation)}
    (hkeeps : List.Forall₂ (fun m l => m.Carries kept l (fun _ l => l = 0) fun l => l = 0)
      threads hands)
    (howns : List.Forall₂ (fun m own => Program kept own m fun _ => 0) threads owns)
    (w : World σ) : hands.sum.listed = (Ledger.resting owns.sum).listed := by
  induction hkeeps generalizing owns with
  | nil =>
      obtain rfl := List.forall₂_nil_left_iff.mp howns
      rfl
  | cons hhead _ ih =>
      obtain ⟨own, owns, hprogram, hrest, rfl⟩ := List.forall₂_cons_left_iff.mp howns
      rw [List.sum_cons, List.sum_cons, Ledger.resting_add, Ledger.listed_add, Ledger.listed_add,
        hhead.listed_eq hprogram.transfers w, ih hrest]

/-- In every state that threads running programs can reach, however their actions interleave,
every exchange is recorded as it should be; those that have begun were recorded or still hold
their sample, apart from those that ended with an error that gives no text; and whenever all
threads stand between two operations, the exchanges that are not over are those whose futures
the threads and the shared state own. -/
theorem Pool.recorded_once {p q : Pool σ} (hp : p.Fresh kept) (h : p.Reaches q) :
    (∀ x, RecordedOnce x (life x q.world.journal)) ∧
      count Event.isStart q.world.journal = q.world.exchanges ∧
      count Event.isStart q.world.journal = count Event.isRecording q.world.journal +
        ((Finset.range q.world.exchanges).filter
          fun x => HoldsSample (life x q.world.journal)).card +
        ((Finset.range q.world.exchanges).filter
          fun x => EndedUnrecorded (life x q.world.journal)).card ∧
      ∀ owns, List.Forall₂ (fun m own => Program kept own m fun _ => 0) q.threads owns →
        ∀ x, (x < q.world.exchanges ∧ Event.ended x ∉ life x q.world.journal) ↔
          ∃ o ∈ owns.sum + kept q.world.shared, o.exchange = x := by
  obtain ⟨hands, hkeeps, hbalance⟩ := hp.accounts_of_reaches h
  obtain ⟨hexchanges, hcount⟩ := hbalance.count_starts
  refine ⟨hbalance.recordedOnce, hexchanges, hcount, fun owns howns x => ?_⟩
  rw [← hbalance.mem_listed_iff, Ledger.listed_add, listed_sum_eq hkeeps howns q.world,
    ← Ledger.listed_add, ← Ledger.resting_add, Ledger.mem_listed_resting]

/-! ### A future dropped on another thread -/

/-- Futures of a measured service, laid down for any thread to take. -/
abbrev Shelf : Type := List (Flight Unit)

namespace Shelf

/-- The exchanges of the futures on a shelf. -/
def laid (s : Shelf) : Multiset Observation :=
  (s.map fun f => f.owned fun _ => 0).sum

/-- Call a measured service and lay the future on the shelf. -/
def put : Exec Shelf Unit := do
  let f ← (Instrumentation.plain false).call (fun _ => pure ()) .plain
  Exec.access fun s => ((), f :: s)

/-- Drop a future. -/
def dropped : Option (Flight Unit) → Exec Shelf Unit
  | some f => f.drop (.plain false) ⟨fun _ => pure (.pending ()), fun _ => pure ()⟩
  | none => pure ()

/-- Take the future from the top of the shelf and drop it. -/
def take : Exec Shelf Unit := do
  dropped (← Exec.access fun s => (s.head?, s.tail))

/-- A thread that lays down a future and one that drops it. -/
def pool : Pool Shelf where
  world := { shared := [] }
  threads := [put, take]

/-- Calling the service gives a future, which is owned from then on. -/
theorem program_call : Program laid 0
    ((Instrumentation.plain false).call (fun _ => pure ()) .plain)
    (Flight.owned fun _ : Unit => 0) :=
  .call .plain (fun _ => 0) .plain_now .plain_record .plain_provider fun _ => .pure () fun _ => 0

/-- The thread owns nothing once the future is on the shelf. -/
theorem program_put : Program laid 0 put fun _ => 0 := by
  refine .bind program_call fun f => .access _ fun s => ?_
  simp [laid]

/-- A future is owned until it is dropped. -/
theorem program_dropped (f : Option (Flight Unit)) :
    Program laid (f.elim 0 fun f => f.owned fun _ => 0) (dropped f) fun _ => 0 := by
  cases f with
  | none => exact .pure () fun _ => 0
  | some f =>
      exact .drop f (fun _ => 0) .plain_now .plain_record .plain_provider (.pure () fun _ => 0)

/-- The thread owns the future between taking and dropping it. -/
theorem program_take : Program laid 0 take fun _ => 0 := by
  refine .bind (.access _ fun s => ?_) program_dropped
  cases s <;> simp [laid]

/-- The shelf is empty at first. -/
theorem pool_fresh : pool.Fresh laid := by
  refine ⟨rfl, rfl, rfl, rfl, fun m hm => ?_⟩
  simp only [pool, List.mem_cons, List.not_mem_nil, or_false] at hm
  rcases hm with rfl | rfl
  · exact program_put
  · exact program_take

/-- The exchange of a future that one thread laid down and another one dropped was recorded and
is over. -/
theorem recorded_once_elsewhere : ∃ q, pool.Reaches q ∧ q.world.exchanges = 1 ∧
    (life 0 q.world.journal).countP Event.isRecording = 1 ∧
    RecordedOnce 0 (life 0 q.world.journal) ∧
    ∀ x, x < q.world.exchanges → Event.ended x ∈ life x q.world.journal := by
  have hput := Pool.reaches_run (p := pool) (t := 0) rfl
  have htake := hput.trans (Pool.reaches_run (t := 1) rfl)
  obtain ⟨honce, -, -, hopen⟩ := Pool.recorded_once pool_fresh htake
  refine ⟨_, htake, by decide +kernel, by decide +kernel, honce 0, fun x hlt => ?_⟩
  have hprogram : Program laid 0 (.ended (.returned ()) : Exec Shelf Unit) fun _ => 0 :=
    .pure () fun _ => 0
  by_contra hended
  obtain ⟨o, ho, -⟩ := (hopen [0, 0] (.cons hprogram (.cons hprogram .nil)) x).mp ⟨hlt, hended⟩
  exact absurd ho (Multiset.notMem_zero o)

end Shelf

/-! ### Exchanges that end with an error without a text -/

namespace Failure

/-- Run an exchange through an interceptor whose delegate gives an error. -/
def thrown (f : Failure) : Exec Unit Unit := do
  let _ ← (Instrumentation.plain false).intercept .plain f.delegate

/-- Call a measured service whose futures give an error, and poll the future. -/
def polled (f : Failure) : Exec Unit Unit := do
  let flight ← (Instrumentation.plain false).call (fun _ => pure ()) .plain
  match ← flight.poll (.plain false) f.futures with
  | .pending flight => flight.drop (.plain false) f.futures
  | .done _ => pure ()

/-- A thread that runs an exchange in each of the two shapes. -/
def pool (f : Failure) : Pool Unit where
  world := { shared := () }
  threads := [f.thrown, f.polled]

/-- The exchange of an interceptor begins and ends within it, whatever error it gives. -/
theorem program_thrown (f : Failure) : Program (fun _ => 0) 0 f.thrown fun _ => 0 :=
  .bind (.intercept .plain .plain_now .plain_record .plain_provider fun _ => .pure _ fun _ => 0)
    fun _ => .pure () fun _ => 0

/-- The future is polled to its end, or dropped if it is not at its end. -/
theorem program_polled (f : Failure) : Program (fun _ => 0) 0 f.polled fun _ => 0 := by
  refine .bind (.call .plain (fun _ => 0) .plain_now .plain_record .plain_provider fun _ =>
    .pure () fun _ => 0) fun flight => ?_
  have hpoll : Program (fun _ : Unit => 0) 0 (f.futures.poll flight.inner)
      (Poll.owned fun _ => 0) := .pure (Poll.done (.error f)) (Poll.owned fun _ => 0)
  refine .bind (.poll flight (fun _ => 0) .plain_now .plain_record .plain_provider hpoll)
    fun result => ?_
  cases result with
  | pending flight =>
      exact .drop flight (fun _ => 0) .plain_now .plain_record .plain_provider
        (.pure () fun _ => 0)
  | done _ => exact .pure () fun _ => 0

/-- Nothing has happened in the pool of the example yet. -/
theorem pool_fresh (f : Failure) : f.pool.Fresh fun _ => 0 := by
  refine ⟨rfl, rfl, rfl, rfl, fun m hm => ?_⟩
  simp only [pool, List.mem_cons, List.not_mem_nil, or_false] at hm
  rcases hm with rfl | rfl
  · exact f.program_thrown
  · exact f.program_polled

/-- The exchanges of an error without a text are over in the end without a recording, in both
shapes: those that have begun are not made up of those that were recorded and those that still hold
their sample. -/
theorem broken_unrecorded :
    broken.pool.Fresh (fun _ => 0) ∧ ∃ q, broken.pool.Reaches q ∧
      count Event.isStart q.world.journal = 2 ∧ count Event.isRecording q.world.journal = 0 ∧
      (∀ x < 2, EndedUnrecorded (life x q.world.journal)) ∧
      count Event.isStart q.world.journal ≠ count Event.isRecording q.world.journal +
        ((Finset.range q.world.exchanges).filter
          fun x => HoldsSample (life x q.world.journal)).card := by
  have hthrown := Pool.reaches_run (p := broken.pool) (t := 0) rfl
  have hpolled := hthrown.trans (Pool.reaches_run (t := 1) rfl)
  exact ⟨broken.pool_fresh, _, hpolled, by decide +kernel, by decide +kernel, by decide +kernel,
    by decide +kernel⟩

end Failure

end ExchangeMetrics
