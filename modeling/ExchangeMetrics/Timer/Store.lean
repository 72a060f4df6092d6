import ExchangeMetrics.Error
import ExchangeMetrics.Timer.Basic

/-!
# Timers kept in memory

The observations of one timer with one set of tags form a series, of which only a summary is
kept: how many there were, how long they took together, and how long the longest took. A
series keeps the description with which it was first recorded.

## Main results

* `TimerStore.series?_record`: what recording an observation does to every series.
-/

namespace ExchangeMetrics

/-- The summary of the observations of one timer with one set of tags. -/
structure Series where
  /-- The name of the timer. -/
  name : String
  /-- The tags. -/
  tags : Tags
  /-- The description given with the first observation. -/
  description : Option String
  /-- The number of observations. -/
  count : Nat
  /-- The sum of their durations. -/
  total : Duration
  /-- The longest of them. -/
  max : Duration
deriving DecidableEq

namespace Series

/-- Whether a series is the one of this name and these tags. -/
def isOf (s : Series) (name : String) (tags : Tags) : Bool :=
  s.name = name && s.tags = tags

/-- A series is the one that has the name and the tags. -/
theorem isOf_iff {s : Series} {name : String} {tags : Tags} :
    s.isOf name tags = true ↔ s.name = name ∧ s.tags = tags := by
  unfold isOf
  rw [Bool.and_eq_true, decide_eq_true_eq, decide_eq_true_eq]

/-- The series of a timer and tags before any observation. -/
def start (timer : TimerId) (tags : Tags) : Series :=
  ⟨timer.name, tags, timer.description, 0, .zero, .zero⟩

/-- Count one more observation. -/
def observe (s : Series) (elapsed : Duration) : Series :=
  { s with count := s.count + 1, total := s.total.add elapsed, max := s.max.max elapsed }

/-- An observation changes neither the name nor the tags of a series. -/
theorem isOf_observe (s : Series) (elapsed : Duration) (name : String) (tags : Tags) :
    (s.observe elapsed).isOf name tags = s.isOf name tags := rfl

end Series

/-- All series, in the order of their first observations. -/
structure TimerStore where
  /-- The series. -/
  series : List Series := []
deriving DecidableEq

namespace TimerStore

/-- The store without observations. -/
def empty : TimerStore := {}

/-- Count an observation in the series of its timer and tags among others, which is added at
the end if it is not there. -/
def observeIn (timer : TimerId) (tags : Tags) (elapsed : Duration) : List Series → List Series
  | [] => [(Series.start timer tags).observe elapsed]
  | s :: ss =>
      if s.isOf timer.name tags then s.observe elapsed :: ss
      else s :: observeIn timer tags elapsed ss

/-- Record an observation. -/
def record (store : TimerStore) (timer : TimerId) (tags : Tags) (elapsed : Duration) :
    TimerStore :=
  ⟨observeIn timer tags elapsed store.series⟩

/-- Take an observation from whoever made it. None is ever refused. -/
def take (store : TimerStore) (timer : TimerId) (tags : Tags) (elapsed : Duration) :
    Except MetricsError Unit × TimerStore :=
  (.ok (), store.record timer tags elapsed)

/-- The series of a name and tags, if there is one. -/
def series? (store : TimerStore) (name : String) (tags : Tags) : Option Series :=
  store.series.find? (·.isOf name tags)

/-- The series recorded under a name. -/
def find (store : TimerStore) (name : String) : List Series :=
  store.series.filter (·.name = name)

/-- The series recorded under a name, in the order of their tags. -/
def findSorted (store : TimerStore) (name : String) : List Series :=
  (store.find name).mergeSort fun s t => compareTags s.tags.entries t.tags.entries != .gt

/-- The series under a name whose tags include all of these pairs. -/
def matching (store : TimerStore) (name : String) (pairs : List (String × String)) :
    List Series :=
  (store.find name).filter (·.tags.containsAll pairs)

/-- A series under a name whose tags include all of these pairs, if there is one. -/
def timer? (store : TimerStore) (name : String) (pairs : List (String × String)) :
    Option Series :=
  (store.matching name pairs).head?

/-- The number of observations under a name, over all tags. -/
def count (store : TimerStore) (name : String) : Nat :=
  (store.find name).foldr (fun s n => s.count + n) 0

/-- Forget all observations. -/
def clear (_store : TimerStore) : TimerStore := empty

/-! ### Recording, series by series -/

/-- Recording an observation counts it in the series of its name and tags, which is begun if
need be, and leaves every other series as it was. -/
theorem series?_record (store : TimerStore) (timer : TimerId) (tags : Tags)
    (elapsed : Duration) (name : String) (tags' : Tags) :
    (store.record timer tags elapsed).series? name tags' =
      if timer.name = name ∧ tags = tags' then
        some (((store.series? name tags').getD (Series.start timer tags)).observe elapsed)
      else store.series? name tags' := by
  obtain ⟨ss⟩ := store
  simp only [record, series?]
  induction ss with
  | nil =>
      by_cases h : timer.name = name ∧ tags = tags'
      · obtain ⟨rfl, rfl⟩ := h
        simp [observeIn, Series.isOf, Series.start, Series.observe]
      · have hs' : ((Series.start timer tags).observe elapsed).isOf name tags' = false := by
          rw [Series.isOf_observe]
          exact Bool.eq_false_iff.2 fun h' => h (Series.isOf_iff.1 h')
        simp [observeIn, hs', h]
  | cons s ss ih =>
      by_cases hs : s.isOf timer.name tags = true
      · obtain ⟨hn, ht⟩ := Series.isOf_iff.1 hs
        simp only [observeIn, hs, if_true]
        by_cases h : timer.name = name ∧ tags = tags'
        · obtain ⟨rfl, rfl⟩ := h
          simp [Series.isOf_observe, hs]
        · have hs' : s.isOf name tags' = false := by
            exact Bool.eq_false_iff.2 fun h' => h (by simpa [hn, ht] using Series.isOf_iff.1 h')
          simp [Series.isOf_observe, hs', h]
      · simp only [observeIn, hs, if_false, Bool.false_eq_true]
        by_cases h : timer.name = name ∧ tags = tags'
        · obtain ⟨rfl, rfl⟩ := h
          simp only [and_self, if_true] at ih ⊢
          simp [hs, ih]
        · simp only [h, if_false] at ih ⊢
          by_cases hs' : s.isOf name tags' = true
          · simp [hs']
          · simp [hs', ih]

end TimerStore

end ExchangeMetrics
