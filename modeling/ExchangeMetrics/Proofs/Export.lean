import ExchangeMetrics.Proofs.History
import ExchangeMetrics.Proofs.Life
import ExchangeMetrics.Timer.Histogram

/-!
# Observations counted by a meter

The registry that exports its observations to a meter knows its histograms by the name alone, and
the registry in memory knows its series by the name and the tags. Given the same observations, the
two count alike nevertheless, because every observation is one measurement, whatever histogram it is
made on.

The histogram of a name is built at the first observation of the name and at no other.

## Main results

* `HistogramExporter.told_concat`: what one more observation tells the meter.
* `HistogramExporter.countP_builds_told`: a histogram is built once.
* `HistogramExporter.told_built`: a measurement is made on a histogram that was built before.
* `HistogramExporter.exports`: a meter is told of everything, and counts as many measurements as the
  registry in memory counts observations.
-/

namespace ExchangeMetrics

/-- A measurement as a meter receives it. -/
structure Measurement where
  /-- The name of the histogram on which it is made. -/
  name : String
  /-- The value. -/
  value : MeterValue
  /-- The attributes. -/
  attributes : List (String × String)

/-- Whether a measurement is one of this name and these tags. -/
def Measurement.isOf (m : Measurement) (name : String) (tags : Tags) : Bool :=
  m.name = name && m.attributes = tags.toPairs

/-- The measurement that belongs to an observation. -/
def Intake.measurement (o : Intake) : Measurement :=
  ⟨o.timer.name, .ofDuration o.elapsed, o.tags.toPairs⟩

namespace MeterEvent

/-- The measurement that a meter is told of, if it is told of one. -/
def measurement? : MeterEvent → Option Measurement
  | created .. => none
  | measured name value attributes => some ⟨name, value, attributes⟩

/-- Whether a meter is told to build a histogram of this name. -/
def builds (name : String) : MeterEvent → Bool
  | created built .. => built = name
  | measured .. => false

end MeterEvent

/-! ### Tags as attributes -/

namespace Tags

/-- Different tags have different pairs. -/
theorem toPairs_inj {as bs : Tags} : as.toPairs = bs.toPairs ↔ as = bs := by
  refine ⟨fun h => ext_get? fun key => ?_, congrArg toPairs⟩
  rw [← lastValue?_toPairs, ← lastValue?_toPairs, h]

/-- The attributes stand in the order of their keys. -/
theorem pairwise_toPairs (ts : Tags) :
    ts.toPairs.Pairwise fun p q => Text.Before p.1 q.1 :=
  List.pairwise_map.2 ts.ascending

end Tags

/-- The measurement of an observation tells its name and its tags apart from all others. -/
theorem Intake.isOf_measurement (o : Intake) (name : String) (tags : Tags) :
    o.measurement.isOf name tags = o.isOf name tags := by
  rw [Bool.eq_iff_iff, Intake.isOf_iff, Measurement.isOf, Bool.and_eq_true, decide_eq_true_eq,
    decide_eq_true_eq]
  exact and_congr_right' Tags.toPairs_inj

namespace HistogramExporter

/-! ### Exporting one observation after another -/

/-- Export observations, the first of them first: the exporter afterwards, and what the meter is
told. -/
def recordAll (e : HistogramExporter) : List Intake → HistogramExporter × List MeterEvent
  | [] => (e, [])
  | o :: calls =>
      let recorded := e.record o.timer o.tags o.elapsed
      let rest := recorded.1.recordAll calls
      (rest.1, recorded.2 ++ rest.2)

/-- What a meter is told by an exporter that is new. -/
def told (scope : String) (calls : List Intake) : List MeterEvent :=
  ((⟨scope, []⟩ : HistogramExporter).recordAll calls).2

/-- What the meter is told of an observation before its measurement, if it comes after these. -/
def introduction (scope : String) (earlier : List Intake) (o : Intake) : List MeterEvent :=
  if earlier.any (·.timer.name = o.timer.name) then []
  else [.created o.timer.name o.timer.description "s" scope]

section

variable (e : HistogramExporter) (calls : List Intake) (o : Intake)

/-- Exporting observations in two parts. -/
theorem recordAll_append (calls' : List Intake) :
    e.recordAll (calls ++ calls') =
      (((e.recordAll calls).1.recordAll calls').1,
        (e.recordAll calls).2 ++ ((e.recordAll calls).1.recordAll calls').2) := by
  induction calls generalizing e with
  | nil => rfl
  | cons o calls ih =>
      rw [List.cons_append, recordAll, ih, recordAll, List.append_assoc]

/-- The scope of an exporter does not change with an observation. -/
theorem scope_record : (e.record o.timer o.tags o.elapsed).1.scope = e.scope := by
  rw [record]
  split <;> rfl

/-- Nor does it with many. -/
theorem scope_recordAll : (e.recordAll calls).1.scope = e.scope := by
  induction calls generalizing e with
  | nil => rfl
  | cons o calls ih => exact (ih _).trans (e.scope_record o)

/-- After an observation there is a histogram of its name, besides those that were there. -/
theorem mem_built_record {name : String} :
    name ∈ (e.record o.timer o.tags o.elapsed).1.built ↔
      o.timer.name = name ∨ name ∈ e.built := by
  rw [record]
  split
  · rename_i hbuilt
    rw [List.contains_iff_mem] at hbuilt
    constructor
    · intro hname
      exact .inr hname
    · rintro (rfl | hname)
      · exact hbuilt
      · exact hname
  · rw [List.mem_cons, eq_comm]

/-- The histograms that were built are those of the names that occurred. -/
theorem mem_built_recordAll (name : String) :
    name ∈ (e.recordAll calls).1.built ↔
      name ∈ e.built ∨ ∃ o ∈ calls, o.timer.name = name := by
  induction calls generalizing e with
  | nil => simp [recordAll]
  | cons o calls ih =>
      rw [recordAll, ih, mem_built_record, List.exists_mem_cons_iff]
      tauto

end

/-! ### What the meter is told -/

section

variable (scope : String) (calls : List Intake)

/-- One more observation tells the meter of its measurement, and before that of the histogram if no
earlier observation had the name. -/
theorem told_concat (o : Intake) :
    told scope (calls ++ [o]) = told scope calls ++ (introduction scope calls o ++
      [.measured o.timer.name (.ofDuration o.elapsed) o.tags.toPairs]) := by
  rw [told, recordAll_append]
  refine congrArg (told scope calls ++ ·) ?_
  rw [recordAll, recordAll, List.append_nil, record, introduction]
  have hbuilt := mem_built_recordAll ⟨scope, []⟩ calls o.timer.name
  by_cases hname : ∃ o' ∈ calls, o'.timer.name = o.timer.name
  · rw [if_pos (List.contains_iff_mem.2 (hbuilt.2 (.inr hname))), if_pos (by simpa using hname)]
    rfl
  · have hnot : o.timer.name ∉ ((⟨scope, []⟩ : HistogramExporter).recordAll calls).1.built := by
      intro hmem
      exact (hbuilt.1 hmem).elim List.not_mem_nil hname
    rw [if_neg (mt List.contains_iff_mem.1 hnot), if_neg (by simpa using hname), scope_recordAll]
    rfl

/-- What the meter is told of an observation stands behind what it was told of the earlier ones. -/
theorem exists_told_eq (o : Intake) (later : List Intake) :
    ∃ rest, told scope (calls ++ o :: later) = told scope calls ++ (introduction scope calls o ++
      .measured o.timer.name (.ofDuration o.elapsed) o.tags.toPairs :: rest) := by
  obtain ⟨rest, hrest⟩ : ∃ rest, told scope ((calls ++ [o]) ++ later) =
      told scope (calls ++ [o]) ++ rest := ⟨_, congrArg Prod.snd (recordAll_append _ _ _)⟩
  refine ⟨rest, ?_⟩
  rw [List.append_assoc, List.singleton_append] at hrest
  rw [hrest, told_concat]
  simp only [List.append_assoc, List.singleton_append]

/-- Every observation is measured once, in the order of the observations. -/
theorem measurements_told :
    (told scope calls).filterMap MeterEvent.measurement? = calls.map Intake.measurement := by
  induction calls using List.reverseRecOn with
  | nil => rfl
  | append_singleton calls o ih =>
      have hintroduction :
          (introduction scope calls o).filterMap MeterEvent.measurement? = [] := by
        rw [introduction]
        split <;> rfl
      rw [told_concat, List.filterMap_append, List.filterMap_append, hintroduction, ih,
        List.map_append]
      rfl

/-- The histogram of a name is built once if the name occurs, and otherwise never. -/
theorem countP_builds_told (name : String) :
    (told scope calls).countP (·.builds name) =
      if calls.any (·.timer.name = name) then 1 else 0 := by
  induction calls using List.reverseRecOn with
  | nil => rfl
  | append_singleton calls o ih =>
      rw [told_concat, List.countP_append, List.countP_append, ih, introduction, List.any_append]
      by_cases hearlier : calls.any (·.timer.name = o.timer.name) = true
      · rw [if_pos hearlier]
        by_cases hname : o.timer.name = name
        · subst hname
          simp [hearlier, MeterEvent.builds]
        · simp [hname, MeterEvent.builds]
      · rw [if_neg hearlier]
        by_cases hname : o.timer.name = name
        · subst hname
          simp [hearlier, MeterEvent.builds]
        · simp [hname, MeterEvent.builds]

/-- A histogram has the description that came with the first observation of its name. -/
theorem description_of_created {name unit scope' : String} {description : Option String}
    (h : .created name description unit scope' ∈ told scope calls) :
    unit = "s" ∧ scope' = scope ∧
      (calls.find? (·.timer.name = name)).map (·.timer.description) = some description := by
  induction calls using List.reverseRecOn with
  | nil => cases h
  | append_singleton calls o ih =>
      rw [told_concat, List.mem_append, List.mem_append, List.mem_singleton] at h
      rw [List.find?_append]
      rcases h with hmem | hmem | ⟨⟨⟩⟩
      · obtain ⟨hunit, hscope, hfirst⟩ := ih hmem
        obtain ⟨first, hfound, hdescription⟩ := Option.map_eq_some_iff.1 hfirst
        refine ⟨hunit, hscope, ?_⟩
        rw [hfound]
        exact congrArg some hdescription
      · rw [introduction] at hmem
        split at hmem
        · cases hmem
        · rename_i hnot
          obtain ⟨rfl, rfl, rfl, rfl⟩ := MeterEvent.created.inj (List.mem_singleton.1 hmem)
          have hnone : calls.find? (·.timer.name = o.timer.name) = none := by
            rw [List.find?_eq_none]
            intro o' ho' hname
            exact hnot (List.any_eq_true.2 ⟨o', ho', hname⟩)
          rw [hnone]
          refine ⟨rfl, rfl, ?_⟩
          simp

/-- A measurement is made on a histogram that was built before: the last one by what is told of the
last observation, and any other by what was told of those before. -/
theorem told_built {before after : List MeterEvent} {name : String} {value : MeterValue}
    {attributes : List (String × String)}
    (h : told scope calls = before ++ .measured name value attributes :: after) :
    before.countP (·.builds name) = 1 := by
  induction calls using List.reverseRecOn generalizing after with
  | nil => exact absurd h.symm (List.append_ne_nil_of_right_ne_nil _ (List.cons_ne_nil _ _))
  | append_singleton calls o ih =>
      have hbuilt := countP_builds_told scope (calls ++ [o]) name
      rw [told_concat, ← List.append_assoc] at h hbuilt
      rcases eq_or_eq_of_concat_eq h with ⟨hbefore, hlast, rfl⟩ | ⟨after, hbefore, rfl⟩
      · obtain ⟨rfl, -, -⟩ := MeterEvent.measured.inj hlast
        rw [hbefore, List.countP_append, List.any_append] at hbuilt
        simpa [MeterEvent.builds] using hbuilt
      · rw [introduction] at hbefore
        split at hbefore
        · exact ih ((List.append_nil _).symm.trans hbefore)
        · rcases eq_or_eq_of_concat_eq hbefore with ⟨-, ⟨⟩, -⟩ | ⟨after, htold, -⟩
          exact ih htold

/-- A meter counts as many measurements of a name and tags as observations were made with them. -/
theorem countP_isOf_told (name : String) (tags : Tags) :
    ((told scope calls).filterMap MeterEvent.measurement?).countP (·.isOf name tags) =
      calls.countP (·.isOf name tags) := by
  rw [measurements_told, List.countP_map]
  refine List.countP_congr fun o _ => ?_
  rw [Function.comp_apply, Intake.isOf_measurement]

end

end HistogramExporter

/-! ### The registry in memory beside it -/

namespace TimerStore

/-- Without a reset in between, all observations count. -/
theorem sinceClear_map_record (calls : List Intake) :
    sinceClear (calls.map .record) = calls.reverse := by
  induction calls using List.reverseRecOn with
  | nil => rfl
  | append_singleton calls o ih =>
      rw [sinceClear, List.map_append, List.foldl_append, ← sinceClear, ih, List.reverse_append]
      rfl

/-- A series counts the observations that came with its name and tags. -/
theorem count_series?_perform (calls : List Intake) (name : String) (tags : Tags) :
    ((empty.perform (calls.map .record)).2.series? name tags).elim 0 (·.count) =
      calls.countP (·.isOf name tags) := by
  have hstore : (empty.perform (calls.map .record)).2 = empty.taking calls.reverse := by
    rw [← sinceClear_map_record]
    exact perform_eq_taking [] _
  have hcount : calls.countP (·.isOf name tags) =
      (calls.reverse.filter (·.isOf name tags)).length := by
    rw [List.countP_eq_length_filter, List.filter_reverse, List.length_reverse]
  rw [hstore, series?_taking_empty, hcount]
  cases hmine : calls.reverse.filter (·.isOf name tags) with
  | nil => rfl
  | cons o older =>
      obtain ⟨s, hs, hsum⟩ := Series.summarises_summary (List.cons_ne_nil o older)
      rw [hs]
      exact hsum.count

end TimerStore

namespace HistogramExporter

/-- What a meter is told by an exporter of these observations, of which the first comes first, and
how that compares with the registry in memory. -/
structure Exports (scope : String) (calls : List Intake) : Prop where
  /-- An observation tells the meter of its measurement, and right before that of the histogram if
  it is the first of its name. -/
  step : ∀ before o after, calls = before ++ o :: after → ∃ later,
    told scope calls = told scope before ++ (introduction scope before o ++
      .measured o.timer.name (.ofDuration o.elapsed) o.tags.toPairs :: later)
  /-- The histogram of a name is built once if the name occurs, and otherwise never. -/
  once : ∀ name, (told scope calls).countP (·.builds name) =
    if calls.any (·.timer.name = name) then 1 else 0
  /-- It is built in seconds, with the description that came with the first observation of the
  name. -/
  first : ∀ name description unit scope', .created name description unit scope' ∈
    told scope calls → unit = "s" ∧ scope' = scope ∧
      (calls.find? (·.timer.name = name)).map (·.timer.description) = some description
  /-- Every measurement is made on a histogram that was built before. -/
  built : ∀ before name value attributes after, told scope calls =
    before ++ .measured name value attributes :: after → before.countP (·.builds name) = 1
  /-- There is one measurement an observation, in the order of the observations, and its value is
  what was observed in seconds. -/
  measured : (told scope calls).filterMap MeterEvent.measurement? = calls.map Intake.measurement
  /-- The attributes stand in the order of their keys. -/
  sorted : ∀ m ∈ (told scope calls).filterMap MeterEvent.measurement?,
    m.attributes.Pairwise fun p q => Text.Before p.1 q.1
  /-- As many measurements of a name and tags are made as the registry in memory counts after the
  same observations. -/
  alike : ∀ name tags,
    ((told scope calls).filterMap MeterEvent.measurement?).countP (·.isOf name tags) =
      ((TimerStore.empty.perform (calls.map .record)).2.series? name tags).elim 0 (·.count)

/-- Whatever is observed, the meter is told of it once, in order and in seconds, on one histogram a
name, and counts as many measurements as the registry in memory counts observations. -/
theorem exports (scope : String) (calls : List Intake) : Exports scope calls where
  step before o after hcalls := by
    rw [hcalls]
    exact exists_told_eq scope before o after
  once := countP_builds_told scope calls
  first _ _ _ _ hcreated := description_of_created scope calls hcreated
  built _ _ _ _ _ htold := told_built scope calls htold
  measured := measurements_told scope calls
  sorted m hm := by
    rw [measurements_told] at hm
    obtain ⟨o, -, rfl⟩ := List.mem_map.1 hm
    exact o.tags.pairwise_toPairs
  alike name tags := by
    rw [countP_isOf_told, TimerStore.count_series?_perform]

end HistogramExporter

end ExchangeMetrics
