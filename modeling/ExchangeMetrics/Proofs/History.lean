import Mathlib.Algebra.GroupWithZero.Nat
import Mathlib.Data.List.Nodup
import ExchangeMetrics.Proofs.Canonical
import ExchangeMetrics.Proofs.Summaries

/-!
# The registry in memory as the summary of its history

The registry that keeps its timers in memory is called to record observations and to forget them
all. At any time it tells of the observations that were recorded since it last forgot them, and
of nothing else: for each timer name and each set of tags that occurred there is one series, which
sums up the observations that came with them.

## Main results

* `Series.Summarises.observe`: one more observation.
* `TimerStore.keys_record`, `TimerStore.count_record`: what recording does to the whole store.
* `TimerStore.perform_eq_taking`: calls leave what was recorded since the last one that cleared.
* `TimerStore.tells_taking`: a store tells of all it took.
* `TimerStore.perform_tells`: the registry in memory after any calls.
-/

namespace ExchangeMetrics

/-- No duration is shorter than zero. -/
theorem Duration.zero_max (d : Duration) : zero.max d = d :=
  if_pos (Nat.zero_le d.nanos)

/-! ### What a series tells -/

namespace Series

/-- A series sums up these observations, of which the newest comes first. -/
structure Summarises (s : Series) (mine : List Intake) : Prop where
  /-- There are so many of them. -/
  count : s.count = mine.length
  /-- They took this long together, or longer than any duration. -/
  total : s.total.nanos = min (mine.map (·.elapsed.nanos)).sum (durationLimit - 1)
  /-- One of them took the longest time. -/
  max_mem : ∃ o ∈ mine, o.elapsed = s.max
  /-- None took longer. -/
  le_max : ∀ o ∈ mine, o.elapsed.nanos ≤ s.max.nanos
  /-- The first of them came with the description. -/
  description : mine.getLast?.map (·.timer.description) = some s.description

namespace Summarises

/-- A series that was started and has observed one length of time summarises that observation. -/
theorem start (o : Intake) : ((start o.timer o.tags).observe o.elapsed).Summarises [o] where
  count := rfl
  total := by
    change min (0 + o.elapsed.nanos) (durationLimit - 1) = _
    rw [List.map_singleton, List.sum_singleton, Nat.zero_add]
  max_mem := ⟨o, List.mem_singleton_self o, (Duration.zero_max o.elapsed).symm⟩
  le_max o' ho' := by
    obtain rfl := List.mem_singleton.1 ho'
    exact (congrArg Duration.nanos (Duration.zero_max o'.elapsed)).ge
  description := rfl

/-- A series that observes once more summarises the observation together with the earlier ones. -/
theorem observe {s : Series} {mine : List Intake} (h : s.Summarises mine) (o : Intake) :
    (s.observe o.elapsed).Summarises (o :: mine) where
  count := congrArg (· + 1) h.count
  total := by
    change (s.total.add o.elapsed).nanos = _
    rw [Duration.add_nanos, h.total, List.map_cons, List.sum_cons]
    omega
  max_mem := by
    obtain ⟨o', ho', hmax⟩ := h.max_mem
    by_cases hle : s.max.nanos ≤ o.elapsed.nanos
    · exact ⟨o, List.mem_cons_self, (if_pos hle).symm⟩
    · exact ⟨o', List.mem_cons_of_mem o ho', hmax.trans (if_neg hle).symm⟩
  le_max o' ho' := by
    change _ ≤ (s.max.max o.elapsed).nanos
    rw [Duration.max_nanos]
    rcases List.mem_cons.1 ho' with rfl | ho'
    · exact Nat.le_max_right _ _
    · exact (h.le_max o' ho').trans (Nat.le_max_left _ _)
  description := by
    obtain ⟨first, hfirst, hdescription⟩ := Option.map_eq_some_iff.1 h.description
    rw [List.getLast?_cons, hfirst]
    exact congrArg some hdescription

end Summarises

/-- The series of some observations sums them up. -/
theorem summarises_summary {mine : List Intake} (h : mine ≠ []) :
    ∃ s, summary none mine = some s ∧ s.Summarises mine := by
  induction mine with
  | nil => exact absurd rfl h
  | cons o older ih =>
      cases older with
      | nil => exact ⟨_, rfl, .start o⟩
      | cons o' older =>
          obtain ⟨s, hs, hsum⟩ := ih (List.cons_ne_nil o' older)
          refine ⟨s.observe o.elapsed, ?_, hsum.observe o⟩
          rw [summary, hs, Option.getD_some]

/-- Series that agree and have the same description are equal. -/
theorem Agrees.eq_of_description {s s' : Series} (h : s.Agrees s')
    (hdescription : s.description = s'.description) : s = s' := by
  obtain ⟨name, tags, description, count, total, max⟩ := s
  obtain ⟨rfl, rfl, rfl, rfl, rfl⟩ := h
  obtain rfl := hdescription
  rfl

/-- The name and the tags of a series, by which it is found. -/
def key (s : Series) : String × Tags :=
  (s.name, s.tags)

/-- The key of a series is the name and the tags that it is found by. -/
theorem key_eq_iff {s : Series} {name : String} {tags : Tags} :
    s.key = (name, tags) ↔ s.isOf name tags = true := by
  rw [key, Prod.mk.injEq, isOf_iff]

end Series

namespace TimerStore

/-! ### What recording does to the whole store -/

/-- The names and tags of all series. -/
def keys (store : TimerStore) : List (String × Tags) :=
  store.series.map Series.key

/-- Recording begins a series if there is none of its name and tags. -/
theorem keys_record (store : TimerStore) (timer : TimerId) (tags : Tags) (elapsed : Duration) :
    (store.record timer tags elapsed).keys =
      if (timer.name, tags) ∈ store.keys then store.keys
      else store.keys ++ [(timer.name, tags)] := by
  obtain ⟨ss⟩ := store
  change (observeIn timer tags elapsed ss).map Series.key =
    if _ ∈ ss.map Series.key then ss.map Series.key else ss.map Series.key ++ _
  induction ss with
  | nil => rfl
  | cons s ss ih =>
      rw [observeIn]
      by_cases hs : s.isOf timer.name tags = true
      · rw [if_pos hs, List.map_cons, List.map_cons, Series.key_eq_iff.2 hs,
          if_pos List.mem_cons_self]
        exact congrArg (· :: ss.map Series.key) (Series.key_eq_iff.2 hs)
      · have hne : (timer.name, tags) ≠ s.key := fun h => hs (Series.key_eq_iff.1 h.symm)
        rw [if_neg hs, List.map_cons, List.map_cons, ih]
        simp only [List.mem_cons, hne, false_or]
        split <;> rfl

/-- Recording adds a key only if it is new, so that no key occurs twice. -/
theorem nodup_keys_record {store : TimerStore} (h : store.keys.Nodup) (timer : TimerId)
    (tags : Tags) (elapsed : Duration) : (store.record timer tags elapsed).keys.Nodup := by
  rw [keys_record]
  split
  · exact h
  · rename_i hnot
    rw [← List.concat_eq_append]
    exact h.concat hnot

/-- Recording adds one to the count of its name and to no other. -/
theorem count_record (store : TimerStore) (timer : TimerId) (tags : Tags) (elapsed : Duration)
    (name : String) :
    (store.record timer tags elapsed).count name =
      store.count name + if timer.name = name then 1 else 0 := by
  obtain ⟨ss⟩ := store
  simp only [count, find, record]
  induction ss with
  | nil =>
      by_cases hname : timer.name = name <;>
        simp [observeIn, Series.start, Series.observe, hname]
  | cons s ss ih =>
      rw [observeIn]
      by_cases hs : s.isOf timer.name tags = true
      · have hobserve : (s.observe elapsed).name = s.name := rfl
        rw [if_pos hs, List.filter_cons, List.filter_cons, hobserve, ← (Series.isOf_iff.1 hs).1]
        by_cases hname : s.name = name
        · simp only [hname, decide_true, if_true, List.foldr_cons, Series.observe]
          omega
        · simp only [hname, decide_false, if_false, Bool.false_eq_true, Nat.add_zero]
      · rw [if_neg hs, List.filter_cons, List.filter_cons]
        by_cases hname : s.name = name
        · simp only [hname, decide_true, if_true, List.foldr_cons, ih, Nat.add_assoc]
        · simp only [hname, decide_false, if_false, Bool.false_eq_true, ih]

/-! ### Finding series -/

section

variable {store : TimerStore} {name : String} {tags : Tags} {s : Series}

/-- A series that was found is in the store, under that name and those tags. -/
theorem mem_series_of_series? (h : store.series? name tags = some s) :
    s ∈ store.series ∧ s.name = name ∧ s.tags = tags := by
  have hisOf := List.find?_some h
  exact ⟨List.mem_of_find?_eq_some h, Series.isOf_iff.1 hisOf⟩

/-- If no two series have the same name and tags, each is the one that is found by them. -/
theorem mem_series_iff (hkeys : store.keys.Nodup) :
    s ∈ store.series ↔ store.series? s.name s.tags = some s := by
  refine ⟨fun hs => ?_, fun h => (mem_series_of_series? h).1⟩
  cases hfound : store.series? s.name s.tags with
  | none =>
      have hnot := List.find?_eq_none.1 hfound s hs
      exact absurd (Series.isOf_iff.2 ⟨rfl, rfl⟩) hnot
  | some t =>
      obtain ⟨ht, hname, htags⟩ := mem_series_of_series? hfound
      exact congrArg some (List.inj_on_of_nodup_map hkeys ht hs (Prod.ext hname htags))

/-- If no key occurs twice, the series of a name are those that are found by it and their own tags.
-/
theorem mem_find_iff (hkeys : store.keys.Nodup) :
    s ∈ store.find name ↔ store.series? name s.tags = some s := by
  rw [find, List.mem_filter, decide_eq_true_eq, mem_series_iff hkeys]
  constructor
  · rintro ⟨h, rfl⟩
    exact h
  · intro h
    obtain ⟨-, rfl, -⟩ := mem_series_of_series? h
    exact ⟨h, rfl⟩

/-- The series found under a name have different tags. -/
theorem nodup_tags_find (hkeys : store.keys.Nodup) (name : String) :
    ((store.find name).map (·.tags)).Nodup := by
  have hsub : ((store.find name).map Series.key).Nodup := by
    refine List.Nodup.sublist (List.Sublist.map _ ?_) hkeys
    exact List.filter_sublist
  have hkey : (store.find name).map Series.key =
      ((store.find name).map (·.tags)).map (Prod.mk name) := by
    rw [List.map_map]
    refine List.map_congr_left fun s hs => ?_
    exact congrArg (·, s.tags) (of_decide_eq_true (List.mem_filter.1 hs).2)
  rw [hkey] at hsub
  exact hsub.of_map

/-- Stores with the same series have them in some order. -/
theorem find_perm {store' : TimerStore} (hkeys : store.keys.Nodup) (hkeys' : store'.keys.Nodup)
    (h : ∀ name tags, store.series? name tags = store'.series? name tags) (name : String) :
    (store.find name).Perm (store'.find name) := by
  refine List.Perm.filter _ ?_
  refine (List.perm_ext_iff_of_nodup hkeys.of_map hkeys'.of_map).2 fun s => ?_
  rw [mem_series_iff hkeys, mem_series_iff hkeys', h]

/-- A timer is found exactly if some series of the name has all the tags asked for. -/
theorem timer?_isSome_iff {pairs : List (String × String)} :
    (store.timer? name pairs).isSome = true ↔
      ∃ s ∈ store.find name, s.tags.containsAll pairs = true := by
  rw [timer?, List.isSome_head?, matching]
  simp

/-- The timer that is found is a series of the name with all the tags asked for. -/
theorem mem_of_timer? {pairs : List (String × String)} (h : store.timer? name pairs = some s) :
    s ∈ store.find name ∧ s.tags.containsAll pairs = true :=
  List.mem_filter.1 (List.mem_of_head? h)

end

/-! ### Stores that took observations -/

/-- The newest observation is recorded last. -/
theorem taking_cons (store : TimerStore) (o : Intake) (l : List Intake) :
    store.taking (o :: l) = (store.taking l).record o.timer o.tags o.elapsed := rfl

/-- In a store that has only taken observations no key occurs twice. -/
theorem nodup_keys_taking (l : List Intake) : (empty.taking l).keys.Nodup := by
  induction l with
  | nil => exact List.nodup_nil
  | cons o l ih => exact nodup_keys_record ih o.timer o.tags o.elapsed

/-- A store counts the observations of a name. -/
theorem count_taking (l : List Intake) (name : String) :
    (empty.taking l).count name = l.countP (·.timer.name = name) := by
  induction l with
  | nil => rfl
  | cons o l ih =>
      rw [taking_cons, count_record, ih, List.countP_cons]
      simp only [decide_eq_true_eq]

/-- A series is the summary of the observations of its name and tags. -/
theorem series?_taking_empty (l : List Intake) (name : String) (tags : Tags) :
    (empty.taking l).series? name tags = Series.summary none (l.filter (·.isOf name tags)) :=
  series?_taking empty l name tags

/-- What a store tells of the observations that it took, of which the newest comes first. -/
structure Tells (store : TimerStore) (l : List Intake) : Prop where
  /-- Under a name there are only series of that name. -/
  named : ∀ name, ∀ s ∈ store.find name, s.name = name
  /-- No two of them have the same tags. -/
  distinct : ∀ name, ((store.find name).map (·.tags)).Nodup
  /-- If an observation came under this name with the tags that these pairs stand for, however
  its tags were put together, there is exactly one series with these tags, and otherwise none. -/
  one : ∀ name pairs,
    (∃ o ∈ l, o.timer.name = name ∧ ∀ key, o.tags.get? key = lastValue? pairs key) ↔
      ∃! s, s ∈ store.find name ∧ ∀ key, s.tags.get? key = lastValue? pairs key
  /-- A series sums up the observations under its name that came with its tags. -/
  summary : ∀ name, ∀ s ∈ store.find name, s.Summarises (l.filter (·.isOf name s.tags))
  /-- All observations under a name are counted. -/
  count : ∀ name, store.count name = l.countP (·.timer.name = name)
  /-- A series that has all of these pairs is found if there is one. -/
  timer?_isSome : ∀ name pairs, (store.timer? name pairs).isSome = true ↔
    ∃ s ∈ store.find name, ∀ p ∈ pairs, s.tags.get? p.1 = some p.2
  /-- What is found is such a series. -/
  timer?_mem : ∀ name pairs s, store.timer? name pairs = some s →
    s ∈ store.find name ∧ ∀ p ∈ pairs, s.tags.get? p.1 = some p.2

/-- A series is found under its name exactly if it is the summary of what came with its tags. -/
theorem mem_find_taking_iff {l : List Intake} {name : String} {s : Series} :
    s ∈ (empty.taking l).find name ↔
      Series.summary none (l.filter (·.isOf name s.tags)) = some s := by
  rw [mem_find_iff (nodup_keys_taking l), series?_taking_empty]

/-- Every series of a store summarises the observations of its name and tags. -/
theorem summarises_of_mem_find {l : List Intake} {name : String} {s : Series}
    (h : s ∈ (empty.taking l).find name) : s.Summarises (l.filter (·.isOf name s.tags)) := by
  rw [mem_find_taking_iff] at h
  have hmine : l.filter (·.isOf name s.tags) ≠ [] := by
    intro hnil
    rw [hnil] at h
    cases h
  obtain ⟨s', hs', hsum⟩ := Series.summarises_summary hmine
  obtain rfl := Option.some.inj (h.symm.trans hs')
  exact hsum

/-- There is a series of a name and tags exactly if an observation came with them. -/
theorem exists_mem_find_taking_iff {l : List Intake} {name : String} {tags : Tags} :
    (∃ o ∈ l, o.timer.name = name ∧ o.tags = tags) ↔
      ∃ s ∈ (empty.taking l).find name, s.tags = tags := by
  constructor
  · rintro ⟨o, ho, hof⟩
    have hmine : l.filter (·.isOf name tags) ≠ [] :=
      List.ne_nil_of_mem (List.mem_filter.2 ⟨ho, Intake.isOf_iff.2 hof⟩)
    obtain ⟨s, hs, -⟩ := Series.summarises_summary hmine
    rw [← series?_taking_empty] at hs
    obtain ⟨-, -, rfl⟩ := mem_series_of_series? hs
    exact ⟨s, (mem_find_iff (nodup_keys_taking l)).2 hs, rfl⟩
  · rintro ⟨s, hs, rfl⟩
    obtain ⟨o, ho, -⟩ := (summarises_of_mem_find hs).max_mem
    obtain ⟨ho, hof⟩ := List.mem_filter.1 ho
    exact ⟨o, ho, Intake.isOf_iff.1 hof⟩

/-- A store that has taken observations tells of them all. -/
theorem tells_taking (l : List Intake) : (empty.taking l).Tells l where
  named name s hs := of_decide_eq_true (List.mem_filter.1 hs).2
  distinct := nodup_tags_find (nodup_keys_taking l)
  one name pairs := by
    simp only [← Tags.eq_ofPairs_iff, exists_mem_find_taking_iff]
    refine ⟨fun ⟨s, hs, htags⟩ => ⟨s, ⟨hs, htags⟩, fun s' ⟨hs', htags'⟩ => ?_⟩, fun h => ?_⟩
    · have hnodup := nodup_tags_find (nodup_keys_taking l) name
      exact List.inj_on_of_nodup_map hnodup hs' hs (htags'.trans htags.symm)
    · obtain ⟨s, ⟨hs, htags⟩, -⟩ := h
      exact ⟨s, hs, htags⟩
  summary name s hs := summarises_of_mem_find hs
  count := count_taking l
  timer?_isSome name pairs := by
    simp only [timer?_isSome_iff, Tags.containsAll_iff]
  timer?_mem name pairs s h := by
    obtain ⟨hs, hpairs⟩ := mem_of_timer? h
    exact ⟨hs, Tags.containsAll_iff.1 hpairs⟩

/-! ### Another order -/

/-- The description that came first with the observations of a series, of which the newest comes
first. -/
def firstDescription? (l : List Intake) (name : String) (tags : Tags) : Option (Option String) :=
  (l.filter (·.isOf name tags)).getLast?.map (·.timer.description)

/-- Stores that took the same observations have the same series, if the series of the one have the
descriptions of the other; the order of the observations does not matter otherwise. -/
theorem series?_eq_of_perm {l l' : List Intake} (h : l.Perm l')
    (hfirst : ∀ name tags, firstDescription? l name tags = firstDescription? l' name tags)
    (name : String) (tags : Tags) :
    (empty.taking l).series? name tags = (empty.taking l').series? name tags := by
  rw [series?_taking_empty, series?_taking_empty]
  have hagrees := Series.summary_perm none (h.filter (·.isOf name tags)) fun o ho =>
    (List.mem_filter.mp ho).2
  have hdescription : (Series.summary none (l.filter (·.isOf name tags))).map (·.description) =
      (Series.summary none (l'.filter (·.isOf name tags))).map (·.description) := by
    rw [Series.description_summary, Series.description_summary]
    exact hfirst name tags
  generalize Series.summary none (l.filter (·.isOf name tags)) = x,
    Series.summary none (l'.filter (·.isOf name tags)) = x' at hagrees hdescription ⊢
  cases hagrees with
  | none => rfl
  | some hs => exact congrArg some (hs.eq_of_description (Option.some.inj hdescription))

/-! ### Calls -/

/-- A call that changes what a registry keeps. -/
inductive Call where
  /-- An observation is recorded. -/
  | record (o : Intake)
  /-- All observations are forgotten. -/
  | clear

/-- Whether a call records an observation. -/
def Call.records : Call → Bool
  | record _ => true
  | clear => false

/-- What was recorded since the last call that cleared, the newest first, after another call. -/
def Call.recall (l : List Intake) : Call → List Intake
  | record o => o :: l
  | clear => []

/-- What some calls recorded since the last of them that cleared, the newest first. -/
def sinceClear (calls : List Call) : List Intake :=
  calls.foldl Call.recall []

/-- Call a registry, one call after another: the answers to those that record, and what is kept
afterwards. -/
def perform (store : TimerStore) : List Call → List (Except MetricsError Unit) × TimerStore
  | [] => ([], store)
  | .record o :: calls =>
      let taken := store.take o.timer o.tags o.elapsed
      let rest := taken.2.perform calls
      (taken.1 :: rest.1, rest.2)
  | .clear :: calls => store.clear.perform calls

/-- Every observation is accepted. -/
theorem perform_answers (store : TimerStore) (calls : List Call) :
    (store.perform calls).1 = List.replicate (calls.countP Call.records) (.ok ()) := by
  induction calls generalizing store with
  | nil => rfl
  | cons call calls ih =>
      cases call with
      | record o =>
          rw [perform, List.countP_cons_of_pos rfl, List.replicate_succ, ← ih]
          rfl
      | clear =>
          rw [perform, ih, List.countP_cons_of_neg Bool.false_ne_true]

/-- Calls leave what was recorded since the last one that cleared. -/
theorem perform_eq_taking (l : List Intake) (calls : List Call) :
    ((empty.taking l).perform calls).2 = empty.taking (calls.foldl Call.recall l) := by
  induction calls generalizing l with
  | nil => rfl
  | cons call calls ih =>
      cases call with
      | record o => exact ih (o :: l)
      | clear => exact ih []

/-- Every call that records succeeds, and afterwards the registry tells of what was recorded since
the last call that cleared. Calls that recorded the same observations leave the same series, as
long as the descriptions that came first in each series are the same. -/
theorem perform_tells (calls : List Call) :
    (empty.perform calls).1 = List.replicate (calls.countP Call.records) (.ok ()) ∧
      (empty.perform calls).2.Tells (sinceClear calls) ∧
      ∀ calls' : List Call, (sinceClear calls).Perm (sinceClear calls') →
        (∀ name tags, firstDescription? (sinceClear calls) name tags =
          firstDescription? (sinceClear calls') name tags) →
        ∀ name, ((empty.perform calls).2.find name).Perm ((empty.perform calls').2.find name) := by
  have hafter (calls : List Call) :
      (empty.perform calls).2 = empty.taking (sinceClear calls) := perform_eq_taking [] calls
  refine ⟨perform_answers empty calls, ?_, fun calls' hperm hfirst name => ?_⟩
  · rw [hafter]
    exact tells_taking (sinceClear calls)
  · rw [hafter, hafter]
    exact find_perm (nodup_keys_taking _) (nodup_keys_taking _)
      (series?_eq_of_perm hperm hfirst) name

end TimerStore

end ExchangeMetrics
