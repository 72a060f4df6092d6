import ExchangeMetrics.Timer.Store

/-!
# What a series tells of its observations

A series of the registry that keeps its timers in memory is a summary of the observations of one
timer name with one set of tags. The order in which they were made does not matter for it, but for
one thing: the description is the one that came with the first of them.

## Main results

* `TimerStore.series?_taking`: a series is the summary of its own observations.
* `Series.summary_perm`: observations made in another order have the same summary.
* `TimerStore.agrees_of_perm`: stores that took the same observations in another order.
-/

namespace ExchangeMetrics

namespace Duration

/-- Durations of as many nanoseconds are equal. -/
theorem ext {a b : Duration} (h : a.nanos = b.nanos) : a = b := by
  cases a
  cases b
  exact (Duration.mk.injEq ..).mpr h

/-- Sums stop at the longest duration, in whichever order they are formed. -/
theorem add_right_comm (a b c : Duration) : (a.add b).add c = (a.add c).add b := by
  refine ext ?_
  simp only [add_nanos]
  omega

/-- The longer of two durations has the greater number of nanoseconds. -/
theorem max_nanos (a b : Duration) : (a.max b).nanos = Max.max a.nanos b.nanos := by
  rw [max]
  split <;> omega

/-- The order in which the longest of three durations is sought does not matter. -/
theorem max_right_comm (a b c : Duration) : (a.max b).max c = (a.max c).max b := by
  refine ext ?_
  simp only [max_nanos]
  omega

end Duration

/-- An observation as a registry is given it. -/
structure Intake where
  /-- The timer. -/
  timer : TimerId
  /-- The tags. -/
  tags : Tags
  /-- The time that was measured. -/
  elapsed : Duration

/-- Whether an observation belongs to the series of this name and these tags. -/
def Intake.isOf (o : Intake) (name : String) (tags : Tags) : Bool :=
  o.timer.name = name && o.tags = tags

/-- An observation is one of a name and tags exactly if it was made with them. -/
theorem Intake.isOf_iff {o : Intake} {name : String} {tags : Tags} :
    o.isOf name tags = true ↔ o.timer.name = name ∧ o.tags = tags := by
  rw [isOf, Bool.and_eq_true, decide_eq_true_eq, decide_eq_true_eq]

namespace Series

/-- What becomes of a series, or of none, by observations of which the newest comes first. -/
def summary (s : Option Series) : List Intake → Option Series
  | [] => s
  | o :: older => some (((summary s older).getD (start o.timer o.tags)).observe o.elapsed)

/-- Two series tell the same about their observations, the description apart. -/
structure Agrees (s s' : Series) : Prop where
  name : s.name = s'.name
  tags : s.tags = s'.tags
  count : s.count = s'.count
  total : s.total = s'.total
  max : s.max = s'.max

namespace Agrees

variable {s s' s'' : Series}

/-- A series agrees with itself. -/
theorem refl (s : Series) : s.Agrees s := ⟨rfl, rfl, rfl, rfl, rfl⟩

/-- Series that agree with a third one agree. -/
theorem trans (h : s.Agrees s') (h' : s'.Agrees s'') : s.Agrees s'' :=
  ⟨h.name.trans h'.name, h.tags.trans h'.tags, h.count.trans h'.count, h.total.trans h'.total,
    h.max.trans h'.max⟩

/-- Series that agree still agree when both observe the same. -/
theorem observe (h : s.Agrees s') (elapsed : Duration) :
    (s.observe elapsed).Agrees (s'.observe elapsed) where
  name := h.name
  tags := h.tags
  count := congrArg (· + 1) h.count
  total := congrArg (·.add elapsed) h.total
  max := congrArg (·.max elapsed) h.max

/-- Two observations may change places. -/
theorem observe_observe (h : s.Agrees s') (d d' : Duration) :
    ((s.observe d).observe d').Agrees ((s'.observe d').observe d) where
  name := h.name
  tags := h.tags
  count := congrArg (· + 2) h.count
  total := by
    change (s.total.add d).add d' = (s'.total.add d').add d
    rw [h.total, Duration.add_right_comm]
  max := by
    change (s.max.max d).max d' = (s'.max.max d').max d
    rw [h.max, Duration.max_right_comm]

end Agrees

/-- Series that were started for the same name and tags agree, whatever their descriptions. -/
theorem start_agrees {o o' : Intake} {name : String} {tags : Tags} (h : o.isOf name tags = true)
    (h' : o'.isOf name tags = true) : (start o.timer o.tags).Agrees (start o'.timer o'.tags) := by
  obtain ⟨hname, htags⟩ := Intake.isOf_iff.mp h
  obtain ⟨hname', htags'⟩ := Intake.isOf_iff.mp h'
  exact ⟨hname.trans hname'.symm, htags.trans htags'.symm, rfl, rfl, rfl⟩

/-- Observations of one series that were made in another order have the same summary. -/
theorem summary_perm (s : Option Series) {name : String} {tags : Tags} {l l' : List Intake}
    (h : l.Perm l') (hl : ∀ o ∈ l, o.isOf name tags = true) :
    Option.Rel Agrees (summary s l) (summary s l') := by
  induction h with
  | nil =>
      cases s with
      | none => exact .none
      | some s => exact .some (.refl s)
  | @cons o l l' _ ih =>
      have ih := ih fun o' ho' => hl o' (List.mem_cons_of_mem o ho')
      rw [summary, summary]
      generalize summary s l = x, summary s l' = x' at ih
      cases ih with
      | some hs => exact .some (hs.observe o.elapsed)
      | none => exact .some (.refl _)
  | swap o o' l =>
      have ho := hl o (List.mem_cons_of_mem o' List.mem_cons_self)
      have ho' := hl o' List.mem_cons_self
      rw [summary, summary, summary, summary]
      refine .some (Agrees.observe_observe ?_ o.elapsed o'.elapsed)
      cases summary s l with
      | none => exact start_agrees ho ho'
      | some s => exact .refl s
  | @trans l l' l'' h _ ih ih' =>
      have ih := ih hl
      have ih' := ih' fun o ho => hl o (h.mem_iff.mpr ho)
      generalize summary s l = x, summary s l' = x', summary s l'' = x'' at ih ih' ⊢
      cases ih with
      | some hs =>
          cases ih' with
          | some hs' => exact .some (hs.trans hs')
      | none => exact ih'

/-- A series has the description that it had, or the one that came with its first observation. -/
theorem description_summary (s : Option Series) (l : List Intake) :
    (summary s l).map (·.description) =
      (s.map (·.description)).or (l.getLast?.map (·.timer.description)) := by
  induction l with
  | nil => rw [summary, List.getLast?_nil, Option.map_none, Option.or_none]
  | cons o l ih =>
      have hobserve : (summary s (o :: l)).map (·.description) =
          some (((summary s l).map (·.description)).getD o.timer.description) := by
        rw [summary]
        cases summary s l <;> rfl
      rw [hobserve, ih, List.getLast?_cons]
      cases s with
      | some s => rfl
      | none => cases l.getLast? <;> rfl

/-- Observations that came with one description have the same description in another order. -/
theorem description_summary_perm (s : Option Series) {l l' : List Intake} (h : l.Perm l')
    (hsame : ∀ o ∈ l, ∀ o' ∈ l, o.timer.description = o'.timer.description) :
    (summary s l).map (·.description) = (summary s l').map (·.description) := by
  rw [description_summary, description_summary]
  refine congrArg _ ?_
  cases hl : l.getLast? with
  | none =>
      rw [List.getLast?_eq_none_iff] at hl
      subst hl
      rw [← h.nil_eq]
      rfl
  | some o =>
      cases hl' : l'.getLast? with
      | none =>
          rw [List.getLast?_eq_none_iff] at hl'
          subst hl'
          rw [h.eq_nil] at hl
          cases hl
      | some o' =>
          have ho := List.mem_of_getLast? hl
          have ho' := h.mem_iff.mpr (List.mem_of_getLast? hl')
          exact congrArg some (hsame o ho o' ho')

end Series

namespace TimerStore

/-- The store after some observations, of which the newest comes first. -/
def taking (store : TimerStore) (l : List Intake) : TimerStore :=
  l.foldr (fun o store => store.record o.timer o.tags o.elapsed) store

/-- A series is the summary of the observations that belong to it. -/
theorem series?_taking (store : TimerStore) (l : List Intake) (name : String) (tags : Tags) :
    (store.taking l).series? name tags =
      Series.summary (store.series? name tags) (l.filter (·.isOf name tags)) := by
  induction l with
  | nil => rfl
  | cons o l ih =>
      rw [taking, List.foldr_cons, series?_record, List.filter_cons]
      by_cases h : o.timer.name = name ∧ o.tags = tags
      · rw [if_pos h, if_pos (Intake.isOf_iff.mpr h), Series.summary, ← ih]
        rfl
      · rw [if_neg h, if_neg (mt Intake.isOf_iff.mp h), ← ih]
        rfl

/-- Two series agree, and they have the same description unless observations of the series came
with several. -/
structure SameUpToDescription (l : List Intake) (name : String) (tags : Tags) (s s' : Series) :
    Prop where
  agrees : s.Agrees s'
  description : s.description = s'.description ∨ ∃ o ∈ l, ∃ o' ∈ l,
    o.isOf name tags = true ∧ o'.isOf name tags = true ∧
      o.timer.description ≠ o'.timer.description

/-- Stores that took the same observations in another order have the same series. -/
theorem agrees_of_perm (store : TimerStore) {l l' : List Intake} (h : l.Perm l') (name : String)
    (tags : Tags) : Option.Rel (SameUpToDescription l name tags)
      ((store.taking l).series? name tags) ((store.taking l').series? name tags) := by
  rw [series?_taking, series?_taking]
  have hmine := h.filter (·.isOf name tags)
  have hagrees := Series.summary_perm (store.series? name tags) hmine fun o ho =>
    (List.mem_filter.mp ho).2
  have hdescription := Series.description_summary_perm (store.series? name tags) hmine
  generalize Series.summary (store.series? name tags) (l.filter (·.isOf name tags)) = x,
    Series.summary (store.series? name tags) (l'.filter (·.isOf name tags)) = x'
    at hagrees hdescription ⊢
  cases hagrees with
  | none => exact .none
  | some hs =>
      refine .some ⟨hs, Classical.or_iff_not_imp_right.mpr fun hnone => ?_⟩
      refine Option.some.inj (hdescription fun o ho o' ho' => ?_)
      rw [List.mem_filter] at ho ho'
      refine Decidable.byContradiction fun hne => hnone ?_
      exact ⟨o, ho.1, o', ho'.1, ho.2, ho'.2, hne⟩

end TimerStore

end ExchangeMetrics
