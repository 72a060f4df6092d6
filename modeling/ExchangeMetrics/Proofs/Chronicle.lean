import ExchangeMetrics.Proofs.Following
import ExchangeMetrics.Proofs.Program

/-!
# What the journal says of one thread

The entries that one thread wrote into the journal are its track. Some entries fit only behind
certain others of the same thread: an exchange starts right after the clock was read for it, its
recording begins right after the delegate was done with the request, and what the registry is given
is the time between the first reading and another one that was just made. A journal in which every
entry fits can be trusted.

Two things are known of a thread while it runs: its track, on which nobody else writes, and the
observations that it has seen begin. Both outlast whatever other threads do, so they may be relied
upon by a thread that acts beside others.

## Main results

* `Began.cons`: an observation that has begun has begun for good.
* `Sound.writes`: a journal that can be trusted can be trusted with another entry that fits.
* `Exec.follows_quietly`, `Exec.follows_note`, `Exec.follows_onThread`, `Exec.follows_newExchange`,
  `Exec.follows_access`: what single actions do to what is known of their thread.
-/

namespace ExchangeMetrics

/-- What a thread wrote into the journal, the newest first. -/
def track (t : ThreadId) : List Moment → List Event
  | [] => []
  | m :: older => if m.thread = t then m.event :: track t older else track t older

section

variable {t : ThreadId} {m : Moment} {older : List Moment}

/-- An event on the thread is on its track. -/
theorem track_cons_of_eq (h : m.thread = t) : track t (m :: older) = m.event :: track t older :=
  if_pos h

/-- An event on another thread is not. -/
theorem track_cons_of_ne (h : m.thread ≠ t) : track t (m :: older) = track t older :=
  if_neg h

/-- What is on the track of a thread happened there. -/
theorem exists_mem_of_mem_track {e : Event} {journal : List Moment} (h : e ∈ track t journal) :
    ∃ m ∈ journal, m.thread = t ∧ m.event = e := by
  induction journal with
  | nil => exact absurd h List.not_mem_nil
  | cons m older ih =>
      have holder : e ∈ track t older → ∃ m' ∈ m :: older, m'.thread = t ∧ m'.event = e := by
        intro hmem
        obtain ⟨m', hm', hthread, rfl⟩ := ih hmem
        exact ⟨m', List.mem_cons_of_mem m hm', hthread, rfl⟩
      by_cases hm : m.thread = t
      · rw [track_cons_of_eq hm] at h
        rcases List.mem_cons.1 h with rfl | h
        · exact ⟨m, List.mem_cons_self, hm, rfl⟩
        · exact holder h
      · rw [track_cons_of_ne hm] at h
        exact holder h

/-- A track only ever grows. -/
theorem track_suffix_cons (t : ThreadId) (m : Moment) (older : List Moment) :
    track t older <:+ track t (m :: older) := by
  by_cases h : m.thread = t
  · exact ⟨[m.event], (track_cons_of_eq h).symm⟩
  · exact ⟨[], (track_cons_of_ne h).symm⟩

end

/-! ### Entries that fit -/

/-- An observation began: on some thread the exchange was started right after the reading that is
its sample. -/
def Began (journal : List Moment) (o : Observation) : Prop :=
  ∃ t, [.started o.exchange o.request, .clockRead o.sample.begun] <:+: track t journal

/-- What has begun has begun for good. -/
theorem Began.cons {journal : List Moment} {o : Observation} (h : Began journal o) (m : Moment) :
    Began (m :: journal) o := by
  obtain ⟨t, hinfix⟩ := h
  exact ⟨t, hinfix.trans (track_suffix_cons t m journal).isInfix⟩

/-- What an exchange may be recorded with, once whoever its request was handed on to is done with
it. Whether one that was dropped is described as such or as a panic is left open. -/
def Departure.Allows : Departure → Reply → Prop
  | .result (.ok response), reply => reply = .ofResponse response
  | .result (.error f), reply =>
      ∃ s, f.display = .text s ∧ reply = .failed ⟨Fault.bareTypeName f.typeName, s⟩
  | .panicked, reply => reply = .failed .delegatePanicked
  | .dropped, reply => reply = .failed .cancelled ∨ reply = .failed .delegatePanicked

/-- What the registry may be given for an exchange on a thread that has left this track: the time
between the two readings, the second of which was just made, after the tags were there. -/
def FitsSubmission (older : List Moment) (x : ExchangeId) (l : List Event) : Prop :=
  ∃ o : Observation, o.exchange = x ∧ Began older o ∧ ∃ reading timer tags between rest,
    l = .observed timer tags (reading.since o.sample.begun) :: .clockRead reading ::
      (between ++ .tagged x (.ok tags) :: rest)

/-- What may be said to have been recorded of an exchange: what the registry was given and has
taken. -/
def FitsReport (x : ExchangeId) (l : List Event) (name : String) (size : Nat) (d : Duration) :
    Prop :=
  ∃ timer tags between rest, timer.name = name ∧ tags.size = size ∧
    l = .answered x (.ok ()) :: (between ++ .submitted x :: .observed timer tags d :: rest)

/-- An entry of a thread fits what was in the journal before. -/
def Event.Fits (older : List Moment) (t : ThreadId) : Event → Prop
  | started _ _ => ∃ reading rest, track t older = .clockRead reading :: rest
  | recording x reply => ∃ how rest, track t older = .settled x how :: rest ∧ how.Allows reply
  | submitted x => FitsSubmission older x (track t older)
  | reported x (.recorded name size d) => FitsReport x (track t older) name size d
  | _ => True

/-- Every entry fits what was in the journal before it. -/
def AllFit : List Moment → Prop
  | [] => True
  | m :: older => m.event.Fits older m.thread ∧ AllFit older

/-- Everything in a journal in which all fits has fitted when it was written. -/
theorem AllFit.fits {newer older : List Moment} {m : Moment} (h : AllFit (newer ++ m :: older)) :
    m.event.Fits older m.thread := by
  induction newer with
  | nil => exact h.1
  | cons m' newer ih => exact ih h.2

/-! ### What is known of a thread -/

variable {σ α : Type}

/-- What is known of a thread. -/
structure Known where
  /-- Its track. -/
  track : List Event
  /-- The observations that it has seen begin. -/
  begun : Observation → Prop

namespace Known

/-- What is known is true of a journal. -/
structure Holds (k : Known) (t : ThreadId) (journal : List Moment) : Prop where
  track : ExchangeMetrics.track t journal = k.track
  begun : ∀ o, k.begun o → Began journal o

/-- More is known later. -/
structure Grows (k k' : Known) : Prop where
  track : k.track <:+ k'.track
  begun : ∀ o, k.begun o → k'.begun o

/-- What is known includes itself. -/
theorem Grows.refl (k : Known) : k.Grows k :=
  ⟨List.suffix_refl _, fun _ h => h⟩

/-- What includes something that is known includes all that is included there. -/
theorem Grows.trans {k k' k'' : Known} (h : k.Grows k') (h' : k'.Grows k'') : k.Grows k'' :=
  ⟨h.track.trans h'.track, fun o ho => h'.begun o (h.begun o ho)⟩

/-- What is known once the thread wrote something. -/
def writes (k : Known) (e : Event) : Known :=
  { k with track := e :: k.track }

/-- Nothing is forgotten when an event is written. -/
theorem grows_writes (k : Known) (e : Event) : k.Grows (k.writes e) :=
  ⟨List.suffix_cons _ _, fun _ h => h⟩

/-- What is known once the thread learned that some observations had begun. -/
def learns (k : Known) (os : Observation → Prop) : Known :=
  { k with begun := fun o => k.begun o ∨ os o }

/-- Nothing is forgotten when observations become known. -/
theorem grows_learns (k : Known) (os : Observation → Prop) : k.Grows (k.learns os) :=
  ⟨List.suffix_refl _, fun _ h => .inl h⟩

end Known

/-- What is known of a journal is known of it with another entry of the thread. -/
theorem Known.Holds.cons {k : Known} {t : ThreadId} {journal : List Moment} {e : Event}
    {after : Thread} (h : k.Holds t journal) :
    (k.writes e).Holds t (⟨t, e, after⟩ :: journal) where
  track := (track_cons_of_eq rfl).trans (congrArg (e :: ·) h.track)
  begun o ho := (h.begun o ho).cons _

/-- The journal can be trusted, and the futures that rest in the shared state have begun. -/
structure Sound (kept : σ → Multiset Observation) (w : World σ) : Prop where
  fits : AllFit w.journal
  kept : ∀ o ∈ kept w.shared, Began w.journal o

/-- What an action guarantees, with what is known of its thread afterwards. -/
structure Faithful (kept : σ → Multiset Observation) (t : ThreadId) (w w' : World σ) (k' : Known) :
    Prop where
  sound : Sound kept w'
  holds : k'.Holds t w'.journal
  others : ∀ u, u ≠ t → track u w'.journal = track u w.journal
  begun : ∀ o, Began w.journal o → Began w'.journal o

/-- Threads rely on the journal and on what is known of them, and keep both true. -/
def truth (kept : σ → Multiset Observation) : Protocol σ Known where
  relies t k w := Sound kept w ∧ k.Holds t w.journal
  guarantees t w _ w' k' := Faithful kept t w w' k'

section

variable {kept : σ → Multiset Observation} {t : ThreadId} {w w' : World σ} {k : Known}

/-- What a thread writes has to fit. -/
theorem Sound.writes {e : Event} {after : Thread} (h : Sound kept w) (hk : k.Holds t w.journal)
    (hj : w'.journal = ⟨t, e, after⟩ :: w.journal) (hs : w'.shared = w.shared)
    (hfits : e.Fits w.journal t) : Faithful kept t w w' (k.writes e) where
  sound := by
    refine ⟨?_, fun o ho => ?_⟩
    · rw [hj]
      exact ⟨hfits, h.fits⟩
    · rw [hs] at ho
      rw [hj]
      exact (h.kept o ho).cons _
  holds := by
    rw [hj]
    exact hk.cons
  others u hu := by
    rw [hj]
    exact track_cons_of_ne (Ne.symm hu)
  begun o ho := by
    rw [hj]
    exact ho.cons _

/-- What a thread learns has to be true. -/
theorem Faithful.learns {os : Observation → Prop} (h : Faithful kept t w w' k)
    (hos : ∀ o, os o → Began w'.journal o) : Faithful kept t w w' (k.learns os) where
  sound := h.sound
  holds := ⟨h.holds.track, fun o ho => ho.elim (h.holds.begun o) (hos o)⟩
  others := h.others
  begun := h.begun

end

/-! ### Single actions -/

namespace Exec

variable {kept : σ → Multiset Observation} {c : Context} {k : Known}

/-- An action that leaves the journal and the shared state alone. -/
theorem follows_quietly {f : Context → World σ → α × World σ} {post : Ending α → Known → Prop}
    (hj : ∀ w, (f c w).2.journal = w.journal) (hs : ∀ w, (f c w).2.shared = w.shared)
    (hpost : ∀ w, post (.returned (f c w).1) k) :
    (atomically f).Follows (truth kept) c k post := by
  rintro w ⟨hsound, hk⟩
  refine ⟨k, ⟨⟨?_, ?_⟩, ?_, ?_, ?_⟩, hpost w⟩
  · rw [hj]
    exact hsound.fits
  · rw [hj, hs]
    exact hsound.kept
  · rw [hj]
    exact hk
  · intro u _
    rw [hj]
  · intro o ho
    rw [hj]
    exact ho

/-- A single event may be written if it fits whatever the journal is, and then it is known. -/
theorem follows_note {event : Event} {post : Ending Unit → Known → Prop}
    (hfits : ∀ w : World σ, k.Holds c.thread w.journal → event.Fits w.journal c.thread)
    (hpost : post (.returned ()) (k.writes event)) :
    (note event : Exec σ Unit).Follows (truth kept) c k post := by
  rintro w ⟨hsound, hk⟩
  exact ⟨k.writes event, hsound.writes hk rfl rfl (hfits w hk), hpost⟩

/-- What belongs to the thread may be changed if the event of the change fits. -/
theorem follows_onThread {f : Thread → α × Thread × Event} {post : Ending α → Known → Prop}
    (hfits : ∀ t older, (f t).2.2.Fits older c.thread)
    (hpost : ∀ t, post (.returned (f t).1) (k.writes (f t).2.2)) :
    (onThread f : Exec σ α).Follows (truth kept) c k post := by
  rintro w ⟨hsound, hk⟩
  refine ⟨k.writes (f (w.thread c.thread)).2.2, ?_, hpost (w.thread c.thread)⟩
  exact hsound.writes hk rfl rfl (hfits _ _)

/-- An exchange that is numbered right after the clock was read has begun with that reading. -/
theorem follows_newExchange {request : RequestView} {reading : Instant} {rest : List Event}
    {post : Ending ExchangeId → Known → Prop} (htrack : k.track = .clockRead reading :: rest)
    (hpost : ∀ x, post (.returned x)
      ((k.writes (.started x request)).learns (· = ⟨x, request, ⟨reading⟩⟩))) :
    (newExchange request : Exec σ ExchangeId).Follows (truth kept) c k post := by
  rintro w ⟨hsound, hk⟩
  have hbefore : track c.thread w.journal = .clockRead reading :: rest := hk.track.trans htrack
  let w' := { w with exchanges := w.exchanges + 1 }.note c.thread (.started w.exchanges request)
  have hwrites : Faithful kept c.thread w w' (k.writes (.started w.exchanges request)) :=
    hsound.writes hk rfl rfl ⟨reading, rest, hbefore⟩
  refine ⟨_, hwrites.learns ?_, hpost w.exchanges⟩
  rintro o rfl
  refine ⟨c.thread, [], rest, ?_⟩
  have hafter : track c.thread w'.journal =
      .started w.exchanges request :: track c.thread w.journal := track_cons_of_eq rfl
  rw [hafter, hbefore]
  rfl

/-- Observations that change hands with the shared state have begun. -/
theorem follows_access {f : σ → α × σ} {own : Multiset Observation}
    {gives : α → Multiset Observation} {post : Ending α → Known → Prop}
    (hf : ∀ s, own + kept s = gives (f s).1 + kept (f s).2) (hown : ∀ o ∈ own, k.begun o)
    (hpost : ∀ a, post (.returned a) (k.learns (· ∈ gives a))) :
    (access f : Exec σ α).Follows (truth kept) c k post := by
  rintro w ⟨hsound, hk⟩
  have hbegan : ∀ o ∈ gives (f w.shared).1 + kept (f w.shared).2, Began w.journal o := by
    intro o ho
    rw [← hf] at ho
    rcases Multiset.mem_add.1 ho with ho | ho
    · exact hk.begun o (hown o ho)
    · exact hsound.kept o ho
  have hquiet : Faithful kept c.thread w { w with shared := (f w.shared).2 } k := by
    refine ⟨⟨hsound.fits, fun o ho => ?_⟩, hk, fun _ _ => rfl, fun _ ho => ho⟩
    exact hbegan o (Multiset.mem_add.2 (.inr ho))
  refine ⟨_, hquiet.learns fun o ho => ?_, hpost (f w.shared).1⟩
  exact hbegan o (Multiset.mem_add.2 (.inl ho))

end Exec

end ExchangeMetrics
