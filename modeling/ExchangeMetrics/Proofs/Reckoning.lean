import ExchangeMetrics.Proofs.Errands
import ExchangeMetrics.Proofs.Following
import Mathlib.Data.Multiset.Bind
import Mathlib.Tactic.Abel

/-!
# Threads that run errands keep the books

Everything that is due is accounted for: what the registry was given, which futures were created
and which are parked, together with what is still due of the threads, is what was due of the
errands in the beginning and what became due of the futures since. An errand keeps to this in each
of its actions, and takes its thread through the turns that were ahead of it, whatever other
threads do meanwhile.

A thread relies on little: nobody else touches its route stack, no two futures have the same
number, and a parked future is as its dealings say.

## Main results

* `Errand.protocol`: what threads that run errands rely on and guarantee.
* `Commons.take_runs`: taking a future makes due what becomes of it then.
-/

namespace ExchangeMetrics

/-! ### The books -/

/-- What happened to the scopes and the route stack of a thread, the newest first. -/
def happenings (t : ThreadId) (journal : List Moment) : List Moment :=
  journal.filter fun m => m.thread = t && m.event.isRouting

/-- How a thread stands after what happened to it, given how it stood at first. -/
def latest (first : Thread) : List Moment → Thread
  | [] => first
  | m :: _ => m.after

namespace Commons

/-- What was delivered. -/
def assets (s : Commons) : Multiset Due :=
  (s.sightings.map Sighting.due : List Due) +
    (s.voyages.map fun v => Due.creation v.booking : List Due) +
    (s.parked.map fun p => Due.putBack p.booking : List Due)

/-- What became due of the futures. -/
def claims (s : Commons) : Multiset Due :=
  Multiset.bind s.voyages Voyage.claims

/-- No two futures have the same number, and what is parked is as its dealings say. -/
structure Sound (s : Commons) : Prop where
  numbers : (s.voyages.map (·.booking.id)).Nodup
  parked : ∀ p ∈ s.parked, Due.putBack p.booking ∈ s.claims

/-- The store is what recording the sightings one after another has made of the store that there
was at first. -/
def Tallied (first : TimerStore) (s : Commons) : Prop :=
  s.store = first.taking (s.sightings.map (·.toIntake))

/-- What was delivered and what is still due go up and down with what becomes due. -/
def Balanced (s : Commons) (due : Multiset Due) (s' : Commons) (due' : Multiset Due) : Prop :=
  s.assets + due + s'.claims = s'.assets + due' + s.claims

end Commons

/-- The account of a thread that runs an errand. -/
structure Standing where
  /-- How the thread stands. -/
  stand : Thread
  /-- What is going to happen to it, in order. -/
  ahead : List Moment
  /-- What is due of it. -/
  due : Multiset Due

/-- What an action of a thread guarantees, with its accounts before and after it. -/
structure Standing.Kept (first : TimerStore) (t : ThreadId) (w : World Commons) (g : Standing)
    (w' : World Commons) (g' : Standing) : Prop where
  /-- Other threads are left alone. -/
  others : ∀ u, u ≠ t → w'.thread u = w.thread u ∧ happenings u w'.journal = happenings u w.journal
  /-- The thread stands as its account says. -/
  stand : w'.thread t = g'.stand
  /-- What happens to the thread was ahead of it. -/
  ahead : (happenings t w'.journal).reverse ++ g'.ahead =
    (happenings t w.journal).reverse ++ g.ahead
  /-- Whatever changes how the thread stands is in the journal. -/
  noted : ∀ b, w.thread t = latest b (happenings t w.journal) →
    w'.thread t = latest b (happenings t w'.journal)
  /-- The propagator offers what it did. -/
  propagated : w'.propagated = w.propagated
  /-- The store is what the sightings make of it. -/
  tallied : w.shared.Tallied first → w'.shared.Tallied first
  /-- The books are balanced. -/
  balanced : w.shared.Balanced g.due w'.shared g'.due

/-- What threads that run errands rely on and guarantee, when the global propagator offers some
headers and the store was there at first. -/
def Errand.protocol (offers : List (String × String)) (first : TimerStore) :
    Protocol Commons Standing where
  relies t g w := w.thread t = g.stand ∧ w.propagated = offers ∧ w.shared.Sound
  guarantees := Standing.Kept first

section

variable {first : TimerStore} {t : ThreadId} {w : World Commons} {g : Standing} {e : Event}

/-- An event that is about neither scopes nor the route stack does not happen to any thread. -/
theorem happenings_note_of_not_isRouting (he : e.isRouting = false) (w : World Commons)
    (t u : ThreadId) : happenings u (w.note t e).journal = happenings u w.journal := by
  refine List.filter_cons_of_neg ?_
  rw [he, Bool.and_false]
  exact Bool.false_ne_true

/-- Any other event happens to the thread on which it is written. -/
theorem happenings_note (he : e.isRouting = true) (w : World Commons) (t u : ThreadId) :
    happenings u (w.note t e).journal =
      if t = u then ⟨t, e, w.thread t⟩ :: happenings u w.journal else happenings u w.journal := by
  rw [World.note, happenings, List.filter_cons, he, Bool.and_true]
  simp only [decide_eq_true_eq, happenings]

/-- An action that does nothing to threads and to what is shared. -/
theorem Standing.Kept.quiet {w' : World Commons} (hstand : w.thread t = g.stand)
    (ht : ∀ u, w'.thread u = w.thread u)
    (hj : ∀ u, happenings u w'.journal = happenings u w.journal)
    (hp : w'.propagated = w.propagated) (hs : w'.shared = w.shared) :
    Standing.Kept first t w g w' g where
  others u _ := ⟨ht u, hj u⟩
  stand := (ht t).trans hstand
  ahead := by rw [hj t]
  noted b hb := by rw [ht t, hj t, hb]
  propagated := hp
  tallied h := by rwa [hs]
  balanced := by
    rw [hs]
    exact rfl

/-- An action that changes how the thread stands, and was ahead of it. -/
theorem Standing.Kept.turn {b b' : Thread} {ahead : List Moment} {due : Multiset Due}
    (he : e.isRouting = true) : Standing.Kept first t w ⟨b, ⟨t, e, b'⟩ :: ahead, due⟩
      ((w.setThread t b').note t e) ⟨b', ahead, due⟩ := by
  have hself : (w.setThread t b').thread t = b' := by
    rw [World.thread_setThread, if_pos rfl]
  have hhappened (u : ThreadId) : happenings u ((w.setThread t b').note t e).journal =
      if t = u then ⟨t, e, b'⟩ :: happenings u w.journal else happenings u w.journal := by
    rw [happenings_note he, hself]
    rfl
  refine ⟨fun u hu => ⟨?_, ?_⟩, hself, ?_, fun b _ => ?_, rfl, id, rfl⟩
  · rw [World.thread_note, World.thread_setThread, if_neg (Ne.symm hu)]
  · rw [hhappened, if_neg (Ne.symm hu)]
  · rw [hhappened, if_pos rfl, List.reverse_cons, List.append_assoc, List.singleton_append]
  · rw [hhappened, if_pos rfl]
    exact hself

/-- An action that changes nothing but what is shared. -/
theorem Standing.Kept.shared {s : Commons} {due : Multiset Due} (hstand : w.thread t = g.stand)
    (htallied : w.shared.Tallied first → s.Tallied first)
    (hbalanced : w.shared.Balanced g.due s due) :
    Standing.Kept first t w g { w with shared := s } { g with due := due } where
  others _ _ := ⟨rfl, rfl⟩
  stand := hstand
  ahead := rfl
  noted _ := id
  propagated := rfl
  tallied := htallied
  balanced := hbalanced

end

namespace Exec

variable {α : Type} {offers : List (String × String)} {first : TimerStore} {c : Context}
  {g : Standing} {b : Thread} {ahead : List Moment} {due : Multiset Due}

/-- Following the protocol of errands. -/
abbrev Runs (offers : List (String × String)) (first : TimerStore) (c : Context)
    (m : Exec Commons α) (g : Standing) (post : Ending α → Standing → Prop) : Prop :=
  m.Follows (Errand.protocol offers first) c g post

variable {post : Ending α → Standing → Prop}

/-! ### Single actions -/

/-- A note that is not about scopes and the route stack. -/
theorem runs_note {e : Event} {post : Ending Unit → Standing → Prop} (he : e.isRouting = false)
    (hpost : post (.returned ()) g) :
    (note e : Exec Commons Unit).Runs offers first c g post := by
  refine follows_atomically.mpr fun w ⟨hstand, _, _⟩ => ⟨g, ?_, hpost⟩
  exact .quiet hstand (fun _ => rfl) (happenings_note_of_not_isRouting he w c.thread) rfl rfl

/-- Asking for the context leaves everything as it stands. -/
theorem runs_context {post : Ending Context → Standing → Prop} (hpost : post (.returned c) g) :
    (context : Exec Commons Context).Runs offers first c g post := by
  refine follows_atomically.mpr fun w ⟨hstand, _, _⟩ => ⟨g, ?_, hpost⟩
  exact .quiet hstand (fun _ => rfl) (fun _ => rfl) rfl rfl

/-- Asking for the headers of the propagator gives those offered at first. -/
theorem runs_propagated {post : Ending (List (String × String)) → Standing → Prop}
    (hpost : post (.returned offers) g) :
    (propagated : Exec Commons (List (String × String))).Runs offers first c g post := by
  refine follows_atomically.mpr fun w ⟨hstand, hoffers, _⟩ => ⟨g, ?_, hoffers ▸ hpost⟩
  exact .quiet hstand (fun _ => rfl) (fun _ => rfl) rfl rfl

/-- Numbering an exchange leaves everything as it stands. -/
theorem runs_newExchange {request : RequestView} {post : Ending ExchangeId → Standing → Prop}
    (hpost : ∀ x, post (.returned x) g) :
    (newExchange request : Exec Commons ExchangeId).Runs offers first c g post := by
  refine follows_atomically.mpr fun w ⟨hstand, _, _⟩ => ⟨g, ?_, hpost _⟩
  exact .quiet hstand (fun _ => rfl)
    (happenings_note_of_not_isRouting rfl { w with exchanges := w.exchanges + 1 } c.thread) rfl rfl

/-- A change of what belongs to the thread, which was ahead of it. -/
theorem runs_onThread {f : Thread → α × Thread × Event} {a : α} {b' : Thread} {e : Event}
    (hf : f b = (a, b', e)) (he : e.isRouting = true)
    (hpost : post (.returned a) ⟨b', ahead, due⟩) :
    (onThread f : Exec Commons α).Runs offers first c ⟨b, ⟨c.thread, e, b'⟩ :: ahead, due⟩
      post := by
  refine follows_atomically.mpr fun w ⟨hstand, _, _⟩ => ⟨⟨b', ahead, due⟩, ?_, ?_⟩
  · simp only [show w.thread c.thread = b from hstand, hf]
    exact .turn he
  · simp only [show w.thread c.thread = b from hstand, hf]
    exact hpost

/-- A change of what is shared. -/
theorem runs_access {f : Commons → α × Commons}
    (h : ∀ s, s.Sound → (s.Tallied first → (f s).2.Tallied first) ∧
      ∃ due, s.Balanced g.due (f s).2 due ∧ post (.returned (f s).1) { g with due := due }) :
    (access f).Runs offers first c g post := by
  refine follows_atomically.mpr fun w ⟨hstand, _, hsound⟩ => ?_
  obtain ⟨htallied, due, hbalanced, hpost⟩ := h w.shared hsound
  exact ⟨{ g with due := due }, .shared hstand htallied hbalanced, hpost⟩

end Exec

/-! ### What is shared -/

/-- What became due of a parked future when something is done with it. -/
def Parked.dealt (p : Parked) (d : Dealing) : Multiset Due :=
  p.booking.claims ((Course.afloat p.booking.plan).deal d)

/-- Of an exchange that came to a reply nothing but an observation is due. -/
theorem Gauge.kind_of_mem_sighting {g : Gauge} {label : Nat} {view : RequestView} {reply : Reply}
    {x : Due} (h : x ∈ g.sighting label view reply) : x.kind = .observation := by
  rw [sighting] at h
  split at h
  · obtain rfl := Multiset.mem_singleton.mp h
    rfl
  · exact absurd h (Multiset.notMem_zero x)

/-- Nor is of one that ended. -/
theorem Gauge.kind_of_mem_concluded {g : Gauge} {label : Nat} {view : RequestView}
    {e : Ending Result} {x : Due} (h : x ∈ g.concluded label view e) : x.kind = .observation := by
  rw [concluded.eq_def] at h
  split at h
  · exact kind_of_mem_sighting h
  · split at h
    · exact kind_of_mem_sighting h
    · exact absurd h (Multiset.notMem_zero x)
  · exact kind_of_mem_sighting h

/-- What is due of a future depends on how far it has come, not on how far it had to go. -/
theorem Booking.claims_plan (b : Booking) (plan : Plan) (c : Course) :
    Booking.claims { b with plan := plan } c = b.claims c := by
  cases c <;> rfl

namespace Voyage

/-- Nothing is changed about the booking of a future by what is done with it. -/
theorem booking_deal (id : FutureId) (d : Dealing) (v : Voyage) :
    (v.deal id d).booking = v.booking := by
  rw [deal]
  split <;> rfl

/-- What is done with a future changes no other one. -/
theorem deal_of_ne {id : FutureId} {v : Voyage} (h : v.booking.id ≠ id) (d : Dealing) :
    v.deal id d = v :=
  if_neg h

/-- A future that is due to be put back is pending, with the plan that it was parked with. -/
theorem course_of_mem_claims {v : Voyage} {b : Booking} (h : Due.putBack b ∈ v.claims) :
    v.course = .afloat b.plan ∧ b = { v.booking with plan := b.plan } := by
  rw [claims] at h
  cases hc : v.course with
  | afloat plan =>
      rw [hc] at h
      obtain rfl := Due.putBack.inj (Multiset.mem_singleton.mp h)
      exact ⟨rfl, rfl⟩
  | landed outcome =>
      rw [hc] at h
      cases Gauge.kind_of_mem_concluded h
  | sunk fault =>
      rw [hc] at h
      cases Gauge.kind_of_mem_sighting h

/-- A future that is due to be put back is dealt with as it was parked. -/
theorem claims_deal {v : Voyage} {p : Parked} (h : Due.putBack p.booking ∈ v.claims)
    (d : Dealing) : v.booking.id = p.id ∧ v.claims = {.putBack p.booking} ∧
      (v.deal p.id d).claims = p.dealt d := by
  obtain ⟨hcourse, hbooking⟩ := course_of_mem_claims h
  have hid : v.booking.id = p.id := (congrArg Booking.id hbooking).symm
  have hclaims (c : Course) : v.booking.claims c = p.booking.claims c := by
    rw [hbooking]
    exact (v.booking.claims_plan p.booking.plan c).symm
  have hdeal : (v.deal p.id d).course = v.course.deal d := by
    rw [deal, if_pos hid]
    rfl
  refine ⟨hid, ?_, ?_⟩
  · rw [claims, hcourse, hclaims]
    rfl
  · rw [claims, hdeal, booking_deal, hcourse, hclaims]
    rfl

end Voyage

namespace Commons

variable {offers : List (String × String)} {first : TimerStore} {c : Context} {g : Standing}
  {b : Thread} {ahead : List Moment} {due : Multiset Due}

/-- Reading the clock leaves everything as it stands. -/
theorem read_runs {post : Ending Instant → Standing → Prop}
    (hpost : ∀ reading, post (.returned reading) g) : read.Runs offers first c g post :=
  Exec.runs_access fun _ _ => ⟨id, g.due, rfl, hpost _⟩

/-- An observation that is recorded is no longer due. -/
theorem record_runs {label : Nat} {timer : TimerId} {tags : Tags} {elapsed : Duration}
    {post : Ending (Except MetricsError Unit) → Standing → Prop}
    (hpost : post (.returned (.ok ())) ⟨b, ahead, due⟩) :
    (record label timer tags elapsed).Runs offers first c
      ⟨b, ahead, {.sighting label timer tags} + due⟩ post := by
  refine Exec.runs_access fun s _ => ⟨fun htallied => ?_, due, ?_, hpost⟩
  · exact congrArg (·.record timer tags elapsed) htallied
  · have hdue : Sighting.due ⟨⟨timer, tags, elapsed⟩, label⟩ = .sighting label timer tags := rfl
    simp only [Balanced, assets, claims, List.map_cons, hdue, ← Multiset.cons_coe,
      ← Multiset.singleton_add]
    abel

/-- A future that is left for all threads is no longer due to be created. -/
theorem leave_runs {p : Parked} {post : Ending Unit → Standing → Prop}
    (hpost : post (.returned ()) ⟨b, ahead, due⟩) :
    (leave p).Runs offers first c ⟨b, ahead, {.creation p.booking} + due⟩ post := by
  refine Exec.runs_access fun s _ => ⟨id, due, ?_, hpost⟩
  have hclaims : Voyage.claims ⟨p.booking, []⟩ = {.putBack p.booking} := rfl
  simp only [Balanced, assets, claims, List.map_cons, ← Multiset.cons_coe,
    ← Multiset.singleton_add, Multiset.add_bind, Multiset.singleton_bind, hclaims]
  abel

/-- A future that is put back is no longer due to be put back. -/
theorem putBack_runs {p : Parked} {post : Ending Unit → Standing → Prop}
    (hpost : post (.returned ()) ⟨b, ahead, due⟩) :
    (putBack p).Runs offers first c ⟨b, ahead, {.putBack p.booking} + due⟩ post := by
  refine Exec.runs_access fun s _ => ⟨id, due, ?_, hpost⟩
  simp only [Balanced, assets, claims, List.map_cons, ← Multiset.cons_coe,
    ← Multiset.singleton_add]
  abel

/-- Dealing with the future of a number does not change what was created. -/
theorem map_booking_deal {α : Type} (f : Booking → α) (id : FutureId) (d : Dealing)
    (voyages : List Voyage) :
    (voyages.map (Voyage.deal id d)).map (fun v => f v.booking) =
      voyages.map fun v => f v.booking := by
  rw [List.map_map]
  exact List.map_congr_left fun v _ => congrArg f (v.booking_deal id d)

/-- Dealing with a future changes what is due of this one and of no other. -/
theorem bind_claims_deal {voyages : List Voyage} {v : Voyage} (d : Dealing)
    (hnumbers : (voyages.map (·.booking.id)).Nodup) (hv : v ∈ voyages) :
    Multiset.bind (voyages.map (Voyage.deal v.booking.id d)) Voyage.claims + v.claims =
      Multiset.bind voyages Voyage.claims + (v.deal v.booking.id d).claims := by
  induction voyages with
  | nil => cases hv
  | cons u voyages ih =>
      rw [List.map_cons, List.nodup_cons] at hnumbers
      simp only [List.map_cons, ← Multiset.cons_coe, Multiset.cons_bind]
      rcases List.mem_cons.mp hv with rfl | hv
      · have hrest : voyages.map (Voyage.deal v.booking.id d) = voyages := by
          refine (List.map_congr_left fun u hu => ?_).trans (List.map_id voyages)
          refine Voyage.deal_of_ne (fun h => hnumbers.1 ?_) d
          exact h ▸ List.mem_map_of_mem (f := fun v : Voyage => v.booking.id) hu
        rw [hrest]
        abel
      · have hne : u.booking.id ≠ v.booking.id := fun h =>
          hnumbers.1 (h ▸ List.mem_map_of_mem (f := fun v : Voyage => v.booking.id) hv)
        rw [Voyage.deal_of_ne hne, add_assoc, ih hnumbers.2 hv, add_assoc]

/-- A future that is taken is no longer parked, and what becomes due of it by what is done with it
takes the place of that. -/
theorem take_runs {id : FutureId} {d : Dealing} {post : Ending (Option Parked) → Standing → Prop}
    (hnone : post (.returned none) ⟨b, ahead, due⟩)
    (hsome : ∀ p, post (.returned (some p)) ⟨b, ahead, p.dealt d + due⟩) :
    (take id d).Runs offers first c ⟨b, ahead, due⟩ post := by
  refine Exec.runs_access fun s hsound => ?_
  rcases hfind : s.parked.find? (·.id = id) with _ | p
  · simp only [hfind]
    exact ⟨fun h => h, due, rfl, hnone⟩
  · simp only [hfind]
    refine ⟨fun h => h, p.dealt d + due, ?_, hsome p⟩
    obtain ⟨hp, newer, older, hparked, hnewer⟩ := List.find?_eq_some_iff_append.mp hfind
    have herase : s.parked.eraseP (·.id = id) = newer ++ older := by
      have hnot : ∀ q ∈ newer, ¬ decide (q.id = id) = true := by simpa using hnewer
      rw [hparked, List.eraseP_append_right _ hnot]
      exact congrArg (newer ++ ·) (List.eraseP_cons_of_pos hp)
    obtain rfl : p.id = id := of_decide_eq_true hp
    have hmem : p ∈ s.parked := hparked ▸ List.mem_append_right _ List.mem_cons_self
    obtain ⟨v, hv, hdue⟩ := Multiset.mem_bind.mp (hsound.parked p hmem)
    obtain ⟨hid, hbefore, hafter⟩ := v.claims_deal hdue d
    have hclaims := bind_claims_deal d hsound.numbers (Multiset.mem_coe.mp hv)
    rw [hid, hbefore, hafter] at hclaims
    have hassets : s.assets = Commons.assets { s with
        parked := newer ++ older, voyages := s.voyages.map (Voyage.deal p.id d) } +
          {.putBack p.booking} := by
      simp only [assets, map_booking_deal, hparked, List.map_append, List.map_cons,
        ← Multiset.coe_add, ← Multiset.cons_coe, ← Multiset.singleton_add]
      abel
    rw [Balanced, herase, hassets, claims, claims]
    calc _ = Commons.assets { s with
              parked := newer ++ older, voyages := s.voyages.map (Voyage.deal p.id d) } + due +
            (Multiset.bind (s.voyages.map (Voyage.deal p.id d)) Voyage.claims +
              {.putBack p.booking}) := by abel
      _ = _ := by rw [hclaims]
      _ = _ := by abel

end Commons

end ExchangeMetrics
