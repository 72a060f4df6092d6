import ExchangeMetrics.Exec.Basic

/-!
# The life of an exchange

Of everything that is written into the journal, the events that are about one exchange make up
its life. A life is well formed if each of its events brings the exchange from one `Stage` to
the next: the measurement begins, the request is handed on, whoever it was handed on to is done
with it, and then, as a rule, the exchange is recorded, which takes the tags provider and the
registry, and is over. The one exception is an exchange whose delegate failed with an error
that gives no text: it is over without having been recorded.

## Main results

* `Life.settled_before_recording`: recording begins only when the delegate is done.
* `Life.recordings_eq`, `Life.reports_eq`, `Life.submissions_le`: how often an exchange is
  recorded, reported on, and submitted to the registry, stage by stage.
* `Life.recorded_iff_accepted`: the report says that the observation was recorded exactly if the
  registry took it.
-/

namespace ExchangeMetrics

namespace Event

/-- The exchange that an event is about, if it is about one. -/
def exchange? : Event → Option ExchangeId
  | started x _ => some x
  | dispatched x => some x
  | settled x _ => some x
  | recording x _ => some x
  | tagged x _ => some x
  | submitted x => some x
  | answered x _ => some x
  | reported x _ => some x
  | ended x => some x
  | _ => none

/-- Whether the measurement of an exchange begins. -/
def isStart : Event → Bool
  | started .. => true
  | _ => false

/-- Whether a recording begins. -/
def isRecording : Event → Bool
  | recording .. => true
  | _ => false

/-- Whether the observation of an exchange is given to a registry. -/
def isSubmission : Event → Bool
  | submitted _ => true
  | _ => false

/-- Whether a recording is reported on. -/
def isReport : Event → Bool
  | reported .. => true
  | _ => false

/-- Whether an exchange is over. -/
def hasEnded : Event → Bool
  | ended _ => true
  | _ => false

/-- The beginning of an exchange is about the exchange. -/
theorem exchange?_of_isStart {e : Event} (h : e.isStart = true) : ∃ x, e.exchange? = some x := by
  cases e with
  | started x request => exact ⟨x, rfl⟩
  | _ => cases h

/-- The recording of an exchange is about the exchange. -/
theorem exchange?_of_isRecording {e : Event} (h : e.isRecording = true) :
    ∃ x, e.exchange? = some x := by
  cases e with
  | recording x reply => exact ⟨x, rfl⟩
  | _ => cases h

end Event

/-- The events about an exchange, in the order in which they happened. -/
def life (x : ExchangeId) : List Moment → List Event
  | [] => []
  | m :: older =>
      if m.event.exchange? = some x then life x older ++ [m.event] else life x older

/-- How far an exchange has come. -/
inductive Stage where
  /-- Its measurement has begun. -/
  | begun
  /-- Its request was handed on. -/
  | underway
  /-- Whoever the request was handed on to is done with it. -/
  | settled (how : Departure)
  /-- Its recording has begun. -/
  | recording
  /-- The tags provider was asked. -/
  | tagged (tags : Except MetricsError Tags)
  /-- The registry was given the observation. -/
  | submitted
  /-- The registry has answered. -/
  | answered (answer : Except MetricsError Unit)
  /-- Its recording is over. -/
  | reported
  /-- It is over. -/
  | ended
  /-- It is over, and was not recorded. -/
  | lost

/-- Which events bring an exchange from one stage to the next. -/
inductive Stage.Next (x : ExchangeId) : Stage → Event → Stage → Prop where
  | dispatched : Next x begun (.dispatched x) underway
  | settled (how : Departure) : Next x underway (.settled x how) (settled how)
  | recording (how : Departure) (reply : Reply) :
      Next x (settled how) (.recording x reply) recording
  /-- The error of the delegate gives no text. -/
  | lost {f : Failure} (h : f.IsMute) : Next x (settled (.result (.error f))) (.ended x) lost
  | tagged (tags : Except MetricsError Tags) : Next x recording (.tagged x tags) (tagged tags)
  /-- There are no tags. -/
  | untagged (reason : MetricsError) (metric : String) :
      Next x (tagged (.error reason)) (.reported x (.unrecorded metric reason)) reported
  /-- The clock panicked. -/
  | unread (tags : Tags) (metric : String) :
      Next x (tagged (.ok tags))
        (.reported x (.unrecorded metric (.registry "meter registry panicked"))) reported
  | submitted (tags : Tags) : Next x (tagged (.ok tags)) (.submitted x) submitted
  /-- The registry panicked. -/
  | unanswered (metric : String) :
      Next x submitted
        (.reported x (.unrecorded metric (.registry "meter registry panicked"))) reported
  | answered (answer : Except MetricsError Unit) :
      Next x submitted (.answered x answer) (answered answer)
  /-- The registry refused the observation. -/
  | refused (reason : MetricsError) (metric : String) :
      Next x (answered (.error reason)) (.reported x (.unrecorded metric reason)) reported
  /-- The registry took the observation. -/
  | recorded (metric : String) (tags : Nat) (elapsed : Duration) :
      Next x (answered (.ok ())) (.reported x (.recorded metric tags elapsed)) reported
  | ended : Next x reported (.ended x) ended

/-- The well-formed lives of an exchange, by the stage that they have come to. -/
inductive Life (x : ExchangeId) : Stage → List Event → Prop where
  | started (request : RequestView) : Life x .begun [.started x request]
  | next {s s' : Stage} {l : List Event} {e : Event} (h : Life x s l) (hn : s.Next x e s') :
      Life x s' (l ++ [e])

/-! ### Lives in a journal -/

section Journal

variable {σ : Type} (x : ExchangeId)

/-- Before anything has happened, no exchange has a life. -/
@[simp]
theorem life_nil : life x [] = [] := rfl

/-- An event that is not about an exchange is not in its life. -/
theorem life_cons_of_ne {m : Moment} {older : List Moment} (h : m.event.exchange? ≠ some x) :
    life x (m :: older) = life x older := by
  rw [life, if_neg h]

/-- An event about an exchange is the last one in its life so far. -/
theorem life_cons_of_eq {m : Moment} {older : List Moment} (h : m.event.exchange? = some x) :
    life x (m :: older) = life x older ++ [m.event] := by
  rw [life, if_pos h]

/-- Every event about an exchange is in its life. -/
theorem mem_life_of_mem {m : Moment} {journal : List Moment} (h : m ∈ journal)
    (he : m.event.exchange? = some x) : m.event ∈ life x journal := by
  induction journal with
  | nil => exact absurd h List.not_mem_nil
  | cons m' older ih =>
      by_cases hm' : m'.event.exchange? = some x
      · rw [life_cons_of_eq x hm']
        rcases List.mem_cons.mp h with rfl | h
        · exact List.mem_append_right _ (List.mem_singleton_self _)
        · exact List.mem_append_left _ (ih h)
      · rw [life_cons_of_ne x hm']
        rcases List.mem_cons.mp h with rfl | h
        · exact absurd he hm'
        · exact ih h

/-- Every event in a life has happened. -/
theorem exists_mem_of_mem_life {e : Event} {journal : List Moment} (h : e ∈ life x journal) :
    ∃ m ∈ journal, m.event = e := by
  induction journal with
  | nil => exact absurd h List.not_mem_nil
  | cons m older ih =>
      have holder : e ∈ life x older → ∃ m' ∈ m :: older, m'.event = e := by
        intro hmem
        obtain ⟨m', hm', rfl⟩ := ih hmem
        exact ⟨m', List.mem_cons_of_mem m hm', rfl⟩
      by_cases hm : m.event.exchange? = some x
      · rw [life_cons_of_eq x hm] at h
        rcases List.mem_append.mp h with h | h
        · exact holder h
        · exact ⟨m, List.mem_cons_self, (List.mem_singleton.mp h).symm⟩
      · rw [life_cons_of_ne x hm] at h
        exact holder h

/-- How an event changes the number of events of a kind in a life. -/
theorem countP_life_cons (p : Event → Bool) (m : Moment) (older : List Moment) :
    (life x (m :: older)).countP p =
      (life x older).countP p + if m.event.exchange? = some x ∧ p m.event then 1 else 0 := by
  by_cases h : m.event.exchange? = some x
  · rw [life_cons_of_eq x h, List.countP_append, List.countP_singleton]
    simp [h]
  · rw [life_cons_of_ne x h]
    simp [h]

/-- A life that has not begun had not begun before. -/
theorem life_eq_nil_of_cons {m : Moment} {older : List Moment} (h : life x (m :: older) = []) :
    m.event.exchange? ≠ some x ∧ life x older = [] := by
  have hne : m.event.exchange? ≠ some x := by
    intro heq
    rw [life_cons_of_eq x heq] at h
    exact List.append_ne_nil_of_right_ne_nil _ (List.cons_ne_nil _ _) h
  rw [life_cons_of_ne x hne] at h
  exact ⟨hne, h⟩

end Journal

/-! ### What a life tells -/

/-- In a list that is split at a member, the last member is the one at which it is split, or it
stands behind that one. -/
theorem eq_or_eq_of_concat_eq {α : Type} {l before after : List α} {x y : α}
    (h : l ++ [x] = before ++ y :: after) :
    (l = before ∧ x = y ∧ after = []) ∨
      ∃ after', l = before ++ y :: after' ∧ after = after' ++ [x] := by
  rcases List.eq_nil_or_concat after with rfl | ⟨after', z, rfl⟩
  · obtain ⟨hl, hx⟩ := List.append_inj' h rfl
    exact .inl ⟨hl, List.singleton_inj.mp hx, rfl⟩
  · rw [List.concat_eq_append, ← List.cons_append, ← List.append_assoc] at h
    obtain ⟨hl, hx⟩ := List.append_inj' h rfl
    obtain rfl := List.singleton_inj.mp hx
    exact .inr ⟨after', hl, List.concat_eq_append⟩

namespace Life

variable {x : ExchangeId} {s : Stage} {l : List Event}

/-- Before each event but the first the life has come to some stage. -/
theorem split {before after : List Event} {e : Event} (h : Life x s (before ++ e :: after))
    (hb : before ≠ []) : ∃ s₁ s₂, Life x s₁ before ∧ s₁.Next x e s₂ := by
  generalize hl : before ++ e :: after = l at h
  induction h generalizing after with
  | started request =>
      rcases before with _ | ⟨b, before⟩
      · exact absurd rfl hb
      · simp at hl
  | @next s₁ s₂ l' e' h' hn ih =>
      rcases eq_or_eq_of_concat_eq hl.symm with ⟨rfl, rfl, -⟩ | ⟨after, rfl, -⟩
      · exact ⟨s₁, s₂, h', hn⟩
      · exact ih rfl

/-- The life of an exchange that has just begun is its beginning. -/
theorem begun_iff : Life x .begun l ↔ ∃ request, l = [.started x request] := by
  constructor
  · rintro (⟨request⟩ | ⟨-, hn⟩)
    · exact ⟨request, rfl⟩
    · cases hn
  · rintro ⟨request, rfl⟩
    exact .started request

/-- The life of an exchange whose delegate is done is its beginning, the handing on and the
settling. -/
theorem settled_iff {how : Departure} : Life x (.settled how) l ↔
    ∃ request, l = [.started x request, .dispatched x, .settled x how] := by
  constructor
  · rintro (_ | ⟨h, hn⟩)
    cases hn
    rcases h with _ | ⟨h, hn⟩
    cases hn
    obtain ⟨request, rfl⟩ := begun_iff.mp h
    exact ⟨request, rfl⟩
  · rintro ⟨request, rfl⟩
    exact ((Life.started request).next .dispatched).next (.settled how)

/-- An exchange is settled once, by the third event of its life. -/
theorem getElem?_settled {how : Departure} (h : Life x s l)
    (hmem : .settled x how ∈ l) : l[2]? = some (.settled x how) := by
  induction h with
  | started request => simp at hmem
  | next h hn ih =>
      rcases List.mem_append.mp hmem with hmem | hmem
      · obtain ⟨hlt, -⟩ := List.getElem?_eq_some_iff.mp (ih hmem)
        rw [List.getElem?_append_left hlt]
        exact ih hmem
      · obtain rfl := List.mem_singleton.mp hmem
        cases hn with
        | settled how =>
            obtain ⟨request, hl⟩ := settled_iff.mp (h.next (.settled how))
            rw [hl]
            rfl

/-- A life starts with the start of the measurement. -/
theorem eq_started_cons (h : Life x s l) : ∃ request rest, l = .started x request :: rest := by
  induction h with
  | started request => exact ⟨request, [], rfl⟩
  | next _ _ ih =>
      obtain ⟨request, rest, rfl⟩ := ih
      exact ⟨request, rest ++ [_], rfl⟩

/-- When recording begins, the delegate is done with the request. -/
theorem settled_before_recording {before after : List Event} {reply : Reply}
    (h : Life x s (before ++ .recording x reply :: after)) :
    ∃ request how, before = [.started x request, .dispatched x, .settled x how] := by
  rcases before with _ | ⟨b, before⟩
  · obtain ⟨request, rest, hl⟩ := h.eq_started_cons
    cases hl
  · obtain ⟨s₁, s₂, h₁, hn⟩ := h.split (List.cons_ne_nil b before)
    cases hn
    obtain ⟨request, hb⟩ := settled_iff.mp h₁
    exact ⟨request, _, hb⟩

end Life

/-! ### How often things happen in a life -/

namespace Stage

/-- How many recordings have begun. -/
def recordings : Stage → Nat
  | begun | underway | settled _ | lost => 0
  | _ => 1

/-- How many reports there were. -/
def reports : Stage → Nat
  | reported | ended => 1
  | _ => 0

/-- How often the observation was given to the registry at most. -/
def submissions : Stage → Nat
  | begun | underway | settled _ | recording | tagged _ | lost => 0
  | _ => 1

/-- Whether the exchange is over. -/
def hasEnded : Stage → Bool
  | ended | lost => true
  | _ => false

/-- An event that takes an exchange to another stage is about it. -/
theorem Next.exchange?_eq {x : ExchangeId} {s s' : Stage} {e : Event} (h : s.Next x e s') :
    e.exchange? = some x := by
  cases h <;> rfl

/-- The event that ends an exchange is the one that takes it to its last stage. -/
theorem Next.eq_ended_iff {x : ExchangeId} {s s' : Stage} {e : Event} (h : s.Next x e s') :
    e = .ended x ↔ s'.hasEnded = true := by
  cases h <;> simp [hasEnded]

/-- The recording of an exchange begins once at most. -/
theorem recordings_le_one (s : Stage) : s.recordings ≤ 1 := by
  cases s <;> simp [recordings]

/-- There is no report before a recording. -/
theorem reports_le_recordings (s : Stage) : s.reports ≤ s.recordings := by
  cases s <;> simp [reports, recordings]

/-- Nothing is submitted before a recording. -/
theorem submissions_le_recordings (s : Stage) : s.submissions ≤ s.recordings := by
  cases s <;> simp [submissions, recordings]

end Stage

namespace Life

variable {x : ExchangeId} {s : Stage} {l : List Event}

/-- An exchange begins once. -/
theorem starts_eq (h : Life x s l) : l.countP Event.isStart = 1 := by
  induction h with
  | started request => rfl
  | next _ hn ih =>
      rw [List.countP_append, ih]
      cases hn <;> rfl

/-- An exchange is recorded at most once, and when it is over it was recorded, unless it is
lost. -/
theorem recordings_eq (h : Life x s l) : l.countP Event.isRecording = s.recordings := by
  induction h with
  | started request => rfl
  | next _ hn ih =>
      rw [List.countP_append, ih]
      cases hn <;> rfl

/-- The stage of an exchange says how often it was reported on. -/
theorem reports_eq (h : Life x s l) : l.countP Event.isReport = s.reports := by
  induction h with
  | started request => rfl
  | next _ hn ih =>
      rw [List.countP_append, ih]
      cases hn <;> rfl

/-- The stage of an exchange says how often it was submitted at most. -/
theorem submissions_le (h : Life x s l) : l.countP Event.isSubmission ≤ s.submissions := by
  induction h with
  | started request => exact Nat.le_refl 0
  | next _ hn ih =>
      rw [List.countP_append]
      refine Nat.le_trans (Nat.add_le_add_right ih _) ?_
      cases hn <;> simp [Stage.submissions, Event.isSubmission]

/-- The stage of an exchange says whether it has ended. -/
theorem ends_eq (h : Life x s l) : l.countP Event.hasEnded = s.hasEnded.toNat := by
  induction h with
  | started request => rfl
  | next _ hn ih =>
      rw [List.countP_append, ih]
      cases hn <;> rfl

/-- The end of an exchange is in its life exactly if the exchange has ended. -/
theorem ended_mem_iff (h : Life x s l) : Event.ended x ∈ l ↔ s.hasEnded = true := by
  induction h with
  | started request => simp [Stage.hasEnded]
  | next _ hn ih =>
      rw [List.mem_append, ih]
      cases hn <;> simp [Stage.hasEnded]

/-- An exchange is lost only if its delegate failed with an error that gives no text. -/
theorem mute_of_lost (h : Life x .lost l) :
    ∃ f : Failure, f.IsMute ∧ .settled x (.result (.error f)) ∈ l := by
  rcases h with _ | ⟨h, hn⟩
  cases hn with
  | @lost f hf =>
      obtain ⟨request, rfl⟩ := settled_iff.mp h
      exact ⟨f, hf, by simp⟩

/-- An exchange that has tags goes to the registry, unless the clock panics. -/
theorem submitted_of_tagged {tags : Tags} (h : Life x s l) (ht : .tagged x (.ok tags) ∈ l) :
    s = .tagged (.ok tags) ∨ .submitted x ∈ l ∨
      ∃ metric, .reported x (.unrecorded metric (.registry "meter registry panicked")) ∈ l := by
  induction h with
  | started request => simp at ht
  | next _ hn ih =>
      rcases List.mem_append.mp ht with ht | ht
      · rcases ih ht with rfl | hsubmitted | ⟨metric, hreported⟩
        · cases hn with
          | unread _ metric => exact .inr (.inr ⟨metric, by simp⟩)
          | submitted => exact .inr (.inl (by simp))
        · exact .inr (.inl (List.mem_append_left _ hsubmitted))
        · exact .inr (.inr ⟨metric, List.mem_append_left _ hreported⟩)
      · obtain rfl := List.mem_singleton.mp ht
        cases hn
        exact .inl rfl

/-- What a life tells about the answer of the registry and about the report, stage by stage. -/
theorem reports_and_answers (h : Life x s l) :
    match s with
    | .answered answer =>
        (∀ r, .reported x r ∉ l) ∧ (.answered x (.ok ()) ∈ l ↔ answer = .ok ())
    | .reported | .ended => ∀ r, .reported x r ∈ l →
        ((∃ metric n d, r = .recorded metric n d) ↔ .answered x (.ok ()) ∈ l)
    | _ => (∀ r, .reported x r ∉ l) ∧ .answered x (.ok ()) ∉ l := by
  induction h with
  | started request => simp
  | next _ hn ih => cases hn <;> simp_all [eq_comm]

/-- A report says that the observation was recorded exactly if the registry took it. -/
theorem recorded_iff_accepted {r : Report} (h : Life x s l) (hr : .reported x r ∈ l) :
    (∃ metric n d, r = .recorded metric n d) ↔ .answered x (.ok ()) ∈ l := by
  have key := h.reports_and_answers
  cases s with
  | reported | ended => exact key r hr
  | _ => exact absurd hr (key.1 r)

end Life

end ExchangeMetrics
