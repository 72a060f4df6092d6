import ExchangeMetrics.Proofs.Audit

/-!
# Threads do not interfere

Threads that run errands share instrumentations, a registry, a clock and the futures that they
leave for each other, and any of them may take the next action at any time. What happens to the
scopes and the route stack of a thread is nevertheless what its own steps do to them. The future of
a measured service touches neither, wherever it is polled or dropped, and is recorded with the
route that was resolved on the thread that called the service. And as long as the same is done with
every future in the same order and every exchange takes the same time, the registry ends up with
the same series.

## Main results

* `Errand.resolvedBy_turns`: the route of a future is resolved where the service is called.
* `Errand.Audited.intakes_perm`: what the registry is given does not depend on who acts when.
* `Errand.threads_apart`: threads do not interfere, however their actions interleave.
-/

namespace ExchangeMetrics

/-! ### Futures and threads -/

section

variable {σ : Type}

/-- Whatever a computation does, it changes nothing that belongs to a thread. -/
def Exec.Calm {α : Type} (m : Exec σ α) : Prop :=
  m.Restores (fun _ w _ w' _ => ∀ u, w'.thread u = w.thread u) fun (_ _ : Unit) => True

/-- Whatever is composed of what changes nothing about threads changes nothing about them. -/
theorem Exec.calm_composes : Exec.Composes (@Exec.Calm σ) :=
  Exec.Composes.of_keeps (fun _ => trivial) (fun _ _ => trivial) (fun ht _ => ht)
    fun _ _ => rfl

end

variable {offers : List (String × String)} {es : List Errand} {w : World Commons}
  {accounts accounts' : ThreadId → Standing} {q q' : Pool Commons}

/-- What is seen of a future's exchange has the route that was resolved for the request of the call,
by what was claimed for it in one of these moments. -/
def Booking.ResolvedBy (offers : List (String × String)) (calls : List (FutureId × Request))
    (moments : List Moment) (v : Booking) : Prop :=
  ∃ m ∈ moments, ∃ request entry, (v.id, request) ∈ calls ∧
    m.event = .claimed request.uri entry ∧
    v.view = v.gauge.view offers request (request.route <|> entry.map (·.template))

/-- What became of a call is still known when more has happened. -/
theorem Booking.ResolvedBy.mono {calls calls' : List (FutureId × Request)}
    {moments moments' : List Moment} {v : Booking} (h : v.ResolvedBy offers calls moments)
    (hcalls : calls ⊆ calls') (hmoments : moments ⊆ moments') :
    v.ResolvedBy offers calls' moments' := by
  obtain ⟨m, hm, request, entry, hcall, hclaimed, hview⟩ := h
  exact ⟨m, hmoments hm, request, entry, hcalls hcall, hclaimed, hview⟩

/-- The observation that satisfies a due, if the times of exchanges are known. -/
def Due.intake? (times : Nat → Duration) : Due → Option Intake
  | .sighting label timer tags => some ⟨timer, tags, times label⟩
  | _ => none

/-- What happens meanwhile is a part of what happens to a thread in an exchange. -/
theorem Thread.subset_inExchange (b b' : Thread) (t : ThreadId) (request : Request)
    (meanwhile : List Moment) : meanwhile ⊆ b.inExchange t request meanwhile b' :=
  List.subset_cons_of_subset _ (List.subset_cons_of_subset _ (List.subset_append_left _ _))

namespace Errand

/-- The route of a future is resolved on the thread that calls the service. -/
theorem resolvedBy_turns {e : Errand} {b : Thread} {v : Booking} (t : ThreadId)
    (h : .creation v ∈ e.dues offers b) : v.ResolvedBy offers e.calls (e.turns t b) := by
  induction e generalizing b with
  | done => exact absurd h (Multiset.notMem_zero _)
  | clear next ih => exact (ih h).mono (List.Subset.refl _) (List.subset_cons_self _ _)
  | poll _ next ih | drop _ _ next ih => exact ih h
  | expand template work outcome next ihwork ihnext =>
      rw [dues, Multiset.mem_add] at h
      rcases h with h | h
      · refine (ihwork h).mono (List.subset_append_left _ _) ?_
        refine List.subset_append_of_subset_left _ (List.subset_cons_of_subset _ ?_)
        exact List.subset_append_left _ _
      · exact (ihnext h).mono (List.subset_append_right _ _) (List.subset_append_right _ _)
  | exchange label g request work outcome next ihwork ihnext =>
      simp only [dues, Multiset.mem_add] at h
      rcases h with (h | h) | h
      · cases Gauge.kind_of_mem_concluded h
      · exact (ihwork h).mono (List.subset_append_left _ _)
          (List.subset_append_of_subset_left _ (b.subset_inExchange _ t request _))
      · exact (ihnext h).mono (List.subset_append_right _ _) (List.subset_append_right _ _)
  | call id label g request work plan next ihwork ihnext =>
      simp only [dues, Multiset.mem_add] at h
      rcases h with (h | h) | h
      · cases plan with
        | returned plan =>
            obtain rfl := Due.creation.inj (Multiset.mem_singleton.mp h)
            refine ⟨_, List.mem_cons_of_mem _ List.mem_cons_self, request, _, List.mem_cons_self,
              rfl, ?_⟩
            rw [Option.map_map]
            rfl
        | panicked message => cases Gauge.kind_of_mem_sighting h
      · exact (ihwork h).mono
          (List.subset_cons_of_subset _ (List.subset_append_left _ _))
          (List.subset_append_of_subset_left _ (b.subset_inExchange _ t request _))
      · exact (ihnext h).mono
          (List.subset_cons_of_subset _ (List.subset_append_right _ _))
          (List.subset_append_right _ _)

/-! ### What the registry is given -/

/-- All threads have come to their ends, with every future just this was done, the newest first,
and exchanges took these times. -/
structure Settled (order : FutureId → List Dealing) (times : Nat → Duration) (q : Pool Commons) :
    Prop where
  ended : AllEnded q
  dealings : ∀ v ∈ q.world.shared.voyages, v.dealings = order v.booking.id
  elapsed : ∀ o ∈ q.world.shared.sightings, o.elapsed = times o.label

variable {order : FutureId → List Dealing} {times : Nat → Duration}

/-- The futures that were created are those that were due at first. -/
theorem Audited.bookings_perm (h : Audited es w accounts q) (h' : Audited es w accounts' q')
    (hq : AllEnded q) (hq' : AllEnded q') :
    (q.world.shared.voyages.map (·.booking)).Perm (q'.world.shared.voyages.map (·.booking)) := by
  have hcreated {r : Pool Commons} {a : ThreadId → Standing} (hr : Audited es w a r)
      (hended : AllEnded r) : Multiset.map Due.creation (r.world.shared.voyages.map (·.booking)) =
        (owed es w).filter (·.kind = .newFuture) := by
    have hassets := congrArg (Multiset.filter (·.kind = .newFuture)) (hr.assets_eq hended)
    have hclaims : r.world.shared.claims.filter (·.kind = .newFuture) = 0 :=
      Multiset.filter_eq_nil.mpr fun x hx => Commons.kind_of_mem_claims hx
    rw [filter_kind_assets, Multiset.filter_add, hclaims, add_zero] at hassets
    rw [← hassets, Multiset.map_coe, List.map_map]
    rfl
  have hinjective : Function.Injective Due.creation := fun _ _ => Due.creation.inj
  refine Multiset.coe_eq_coe.mp (Multiset.map_injective hinjective ?_)
  rw [hcreated h hq, hcreated h' hq']

/-- If the same was done with every future in the same order, the same became due. -/
theorem Audited.claims_eq (h : Audited es w accounts q) (h' : Audited es w accounts' q')
    (hq : Settled order times q) (hq' : Settled order times q') :
    q.world.shared.claims = q'.world.shared.claims := by
  have hvoyages {r : Pool Commons} (hr : Settled order times r) : r.world.shared.voyages =
      (r.world.shared.voyages.map (·.booking)).map fun b => ⟨b, order b.id⟩ := by
    rw [List.map_map]
    refine (List.map_id _).symm.trans (List.map_congr_left fun v hv => ?_)
    exact congrArg (Voyage.mk v.booking) (hr.dealings v hv)
  have hperm := (h.bookings_perm h' hq.ended hq'.ended).map fun b => Voyage.mk b (order b.id)
  rw [← hvoyages hq, ← hvoyages hq'] at hperm
  exact congrArg (Multiset.bind · Voyage.claims) (Multiset.coe_eq_coe.mpr hperm)

/-- The registry is given the same observations, whoever acts when. -/
theorem Audited.intakes_perm (h : Audited es w accounts q) (h' : Audited es w accounts' q')
    (hq : Settled order times q) (hq' : Settled order times q') :
    (q.world.shared.sightings.map (·.toIntake)).Perm
      (q'.world.shared.sightings.map (·.toIntake)) := by
  have hassets : q.world.shared.assets = q'.world.shared.assets := by
    rw [h.assets_eq hq.ended, h'.assets_eq hq'.ended, h.claims_eq h' hq hq']
  have hdues := congrArg (Multiset.filter (·.kind = .observation)) hassets
  rw [filter_kind_assets, filter_kind_assets] at hdues
  have hintakes {r : Pool Commons} (hr : Settled order times r) :
      r.world.shared.sightings.map (·.toIntake) =
        (r.world.shared.sightings.map Sighting.due).filterMap (Due.intake? times) := by
    rw [List.filterMap_map, ← List.filterMap_eq_map]
    refine List.filterMap_congr fun o ho => ?_
    exact congrArg (fun d => some (Intake.mk o.timer o.tags d)) (hr.elapsed o ho)
  rw [hintakes hq, hintakes hq']
  exact (Multiset.coe_eq_coe.mp hdues).filterMap _

/-! ### The theorem -/

/-- The world after a thread alone has run its errand. -/
def alone (t : ThreadId) (e : Errand) (w : World Commons) : World Commons :=
  (e.exec.run { thread := t } w).2

/-- What is ahead of a thread and what has happened to it are the turns of its errand. -/
theorem Audited.ahead_append (h : Audited es w accounts q) {t : ThreadId} {e : Errand}
    (he : es[t]? = some e) : (accounts t).ahead.reverse ++ happenings t q.world.journal =
      (e.turns t (w.thread t)).reverse := by
  have hahead : (account es w t).ahead = e.turns t (w.thread t) := by
    rw [account, he]
    rfl
  rw [← hahead, ← h.ahead t, List.reverse_append, List.reverse_reverse]

/-- What happens to a thread that runs its errand alone. -/
theorem Untouched.happenings_alone (hw : Untouched w) (hes : (es.flatMap creates).Nodup)
    {t : ThreadId} {e : Errand} (he : es[t]? = some e) :
    happenings t (alone t e w).journal = (e.turns t (w.thread t)).reverse ∧
      (alone t e w).thread t = latest (w.thread t) (happenings t (alone t e w).journal) := by
  have hthread : (pool es w).threads[t]? = some e.exec := by
    rw [pool, List.getElem?_map, he]
    rfl
  obtain ⟨accounts, h⟩ := hw.audited_of_reaches hes (Pool.reaches_run hthread)
  have hlt := (List.getElem?_eq_some_iff.mp hthread).1
  obtain ⟨hahead, -⟩ := h.follows t _ (List.getElem?_set_self hlt)
  have hhappened := h.ahead_append he
  rw [hahead] at hhappened
  exact ⟨hhappened, h.noted t⟩

/-- What is guaranteed of threads that run errands side by side, compared with what each of them
does alone. -/
structure Apart (es : List Errand) (w : World Commons) (q : Pool Commons) : Prop where
  /-- What has happened to the scopes and the route stack of a thread is what its own steps do to
  them, in their order, as far as it has come. -/
  happened : ∀ t e, es[t]? = some e →
    happenings t q.world.journal <:+ happenings t (alone t e w).journal
  /-- The thread stands as this leaves it. -/
  stand : ∀ t, q.world.thread t = latest (w.thread t) (happenings t q.world.journal)
  /-- A thread that has come to its end stands as it does alone. -/
  ended : ∀ t e x, es[t]? = some e → q.threads[t]? = some (.ended x) →
    q.world.thread t = (alone t e w).thread t
  /-- What is seen of a future's exchange has the route that was resolved on the thread that called
  the service, by what this thread claimed there for the request of the call. -/
  routes : ∀ v ∈ q.world.shared.voyages, ∃ t, ∃ e : Errand, es[t]? = some e ∧
    .creation v.booking ∈ e.dues w.propagated (w.thread t) ∧
    v.booking.ResolvedBy w.propagated e.calls (happenings t (alone t e w).journal)
  /-- Whatever the registry was given is due of an exchange on a thread or of a future, as it was
  seen when it was created. -/
  tagged : ∀ o ∈ q.world.shared.sightings,
    (∃ t, ∃ e : Errand, es[t]? = some e ∧ o.due ∈ e.dues w.propagated (w.thread t)) ∨
      ∃ v ∈ q.world.shared.voyages, o.due ∈ v.claims

/-- Whoever keeps the books does not interfere. -/
theorem Audited.apart (h : Audited es w accounts q) (hw : Untouched w)
    (hes : (es.flatMap creates).Nodup) : Apart es w q where
  happened t e he := by
    rw [(hw.happenings_alone hes he).1]
    exact ⟨(accounts t).ahead.reverse, h.ahead_append he⟩
  stand := h.noted
  ended t e x he hx := by
    obtain ⟨hahead, -⟩ := h.follows t _ hx
    have hhappened := h.ahead_append he
    rw [hahead, List.reverse_nil, List.nil_append] at hhappened
    obtain ⟨halone, hstand⟩ := hw.happenings_alone hes he
    rw [h.noted, hstand, halone, hhappened]
  routes v hv := by
    have hassets : Due.creation v.booking ∈ q.world.shared.assets :=
      Multiset.mem_add.mpr (.inl (Multiset.mem_add.mpr (.inr (Multiset.mem_coe.mpr
        (List.mem_map_of_mem hv)))))
    have howed := (h.mem_of_mem_assets hassets).resolve_right fun hclaims =>
      Commons.kind_of_mem_claims hclaims rfl
    obtain ⟨t, e, he, hdue⟩ := exists_of_mem_owed howed
    refine ⟨t, e, he, hdue, ?_⟩
    rw [(hw.happenings_alone hes he).1]
    exact (resolvedBy_turns t hdue).mono (List.Subset.refl _) fun _ => List.mem_reverse.mpr
  tagged o ho := by
    have hassets : o.due ∈ q.world.shared.assets :=
      Multiset.mem_add.mpr (.inl (Multiset.mem_add.mpr (.inl (Multiset.mem_coe.mpr
        (List.mem_map_of_mem ho)))))
    exact (h.mem_of_mem_assets hassets).imp exists_of_mem_owed fun hclaims => by
      obtain ⟨v, hv, hdue⟩ := Multiset.mem_bind.mp hclaims
      exact ⟨v, Multiset.mem_coe.mp hv, hdue⟩

/-- Threads that run errands side by side do not interfere, however their actions interleave. The
futures of measured services, and whatever else polls and drops futures as they do, change nothing
about threads. And if every future was dealt with in the same order and every exchange took the
same time, the registry has the same series in the end, up to the descriptions of those that were
recorded under several. -/
theorem threads_apart (hw : Untouched w) (hes : (es.flatMap creates).Nodup) :
    (∀ q, (pool es w).Reaches q → Apart es w q) ∧
      (∀ {φ : Type} (i : LiveInstrumentation Commons) (futures : Futures Commons φ)
        (flight : Flight φ), i.Consists Exec.Calm → (futures.poll flight.inner).Calm →
          (futures.drop flight.inner).Calm →
            (flight.poll i futures).Calm ∧ (flight.drop i futures).Calm) ∧
      ∀ (order : FutureId → List Dealing) (times : Nat → Duration) (q q' : Pool Commons),
        (pool es w).Reaches q → (pool es w).Reaches q' →
          Settled order times q → Settled order times q' → ∀ name tags,
            Option.Rel (TimerStore.SameUpToDescription
                (q.world.shared.sightings.map (·.toIntake)) name tags)
              (q.world.shared.store.series? name tags) (q'.world.shared.store.series? name tags)
                := by
  refine ⟨fun q hq => ?_, fun i futures flight hi hpoll hdrop => ?_,
    fun order times q q' hq hq' hs hs' name tags => ?_⟩
  · obtain ⟨accounts, h⟩ := hw.audited_of_reaches hes hq
    exact h.apart hw hes
  · exact ⟨Exec.calm_composes.poll hi flight hpoll, Exec.calm_composes.drop hi flight hdrop⟩
  · obtain ⟨accounts, h⟩ := hw.audited_of_reaches hes hq
    obtain ⟨accounts', h'⟩ := hw.audited_of_reaches hes hq'
    rw [h.tallied, h'.tallied]
    exact TimerStore.agrees_of_perm _ (h.intakes_perm h' hs hs') name tags

/-! ### Three errands in two orders -/

/-- A gauge with the standard tags. -/
def gauge : Gauge where
  timer := { name := "http.client.requests" }
  propagates := false
  provider view reply := .returned (.ok (standardTags "UNKNOWN" view reply))

/-- A thread that calls a service for an expanded template, one that makes an exchange while a route
is captured that does not fit, and one that polls the future of the first. -/
def errands : List Errand :=
  [.expand "http://example.com/hotels/{hotel}" done
    (.returned (Template.expand "http://example.com/hotels/{hotel}" (.positional ["1"])))
    (.call 7 0 gauge
      { Request.plain with uri := ⟨some "http", some "example.com", "/hotels/1", none⟩ } done
      (.returned ⟨1, .returned (.ok .plain), .returned ()⟩) done),
    .expand "http://example.com/rooms" done
      (.returned (Template.expand "http://example.com/rooms" (.positional [])))
      (.exchange 1 gauge .plain (.clear done) (.panicked "no connection") done),
    .poll 7 (.poll 7 done)]

/-- A world whose clock goes on after the first reading and then stands still. -/
def world : World Commons where
  shared := { readings := fun n => if n = 0 then ⟨0⟩ else ⟨5⟩ }

/-- The exchange of the second thread is made before the future is polled or afterwards. Its series
is the first of the two or the second one, but the series are the same. -/
theorem threads_apart_inTwoOrders : ∃ q q', (pool errands world).Reaches q ∧
    (pool errands world).Reaches q' ∧ Apart errands world q ∧ Apart errands world q' ∧
    q.world.shared.store.series ≠ q'.world.shared.store.series ∧
    ∀ name tags, Option.Rel (TimerStore.SameUpToDescription
        (q.world.shared.sightings.map (·.toIntake)) name tags)
      (q.world.shared.store.series? name tags) (q'.world.shared.store.series? name tags) := by
  have hfirst := Pool.reaches_run (p := pool errands world) (t := 0) rfl
  have hsecond := hfirst.trans (Pool.reaches_run (t := 1) rfl)
  have hthird := hsecond.trans (Pool.reaches_run (t := 2) rfl)
  have hsecond' := hfirst.trans (Pool.reaches_run (t := 2) rfl)
  have hthird' := hsecond'.trans (Pool.reaches_run (t := 1) rfl)
  have hended {a b c : Ending Unit} (m : Exec Commons Unit)
      (hm : m ∈ [.ended a, .ended b, .ended c]) : ∃ e, m = .ended e := by
    simp only [List.mem_cons, List.not_mem_nil, or_false] at hm
    rcases hm with rfl | rfl | rfl <;> exact ⟨_, rfl⟩
  have huntouched : Untouched world := ⟨rfl, rfl, rfl, rfl⟩
  have hes : (errands.flatMap creates).Nodup := by decide
  obtain ⟨hapart, -, hsame⟩ := threads_apart huntouched hes
  refine ⟨_, _, hthird, hthird', hapart _ hthird, hapart _ hthird', by decide +kernel,
    hsame (fun _ => [.polled, .polled]) (fun label => .ofNanos (if label = 0 then 5 else 0)) _ _
      hthird hthird' ⟨hended, ?_, ?_⟩ ⟨hended, ?_, ?_⟩⟩
  · decide +kernel
  · decide +kernel
  · decide +kernel
  · decide +kernel

end Errand

end ExchangeMetrics
