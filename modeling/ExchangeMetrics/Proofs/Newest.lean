import ExchangeMetrics.Proofs.Tokens

/-!
# The newest route of a target

An entry that is bound when its expansion returns is the newest one with the target of its URI.
It stays so until the stack is cleared, or until something else is captured or claimed for the
same target; whatever else happens on the thread, and however the stack changes above and below
the entry, it is this entry that is claimed for the URI.

## Main results

* `Route.Stack.Newest.claim`: the newest entry is claimed.
* `Turn.newest`: what is the newest entry stays it as long as nothing disturbs it.
* `Replays.newest_of_bound`, `Replays.newest`: an entry is the newest from when it is bound.
-/

namespace ExchangeMetrics

namespace Route.Stack

/-- An entry is on the stack, and none above it is bound to a URI with the same target as a given
one. -/
def Newest (s : Stack) (entry : Entry) (uri : Uri) : Prop :=
  ∃ above below, s.entries = above ++ entry :: below ∧ ∀ e ∈ above, e.sharesTarget uri = false

section

variable {s s' : Stack} {entry : Entry} {uri : Uri}

/-- The newest entry for a target is claimed for its own URI. -/
theorem Newest.claim (h : s.Newest entry uri) (huri : entry.uri = some uri) :
    ∃ s', s.claim uri = some (entry, s') := by
  obtain ⟨above, below, hs, habove⟩ := h
  have hself : entry.isFor uri = true := by
    rw [Entry.isFor, huri]
    exact uri.equal_refl
  have hnone : above.find? (·.isFor uri) = none := by
    refine List.find?_eq_none.mpr fun e he hfor => ?_
    exact absurd (Entry.sharesTarget_of_isFor hfor) (Bool.eq_false_iff.mp (habove e he))
  have hfind : s.entries.find? (·.isFor uri) = some entry := by
    rw [hs, List.find?_append, hnone, Option.none_or, List.find?_cons, hself]
  have htake : s.take (·.isFor uri) =
      some (entry, { s with entries := s.entries.eraseP (·.isFor uri) }) := by
    rw [take, hfind, Option.map_some]
  exact ⟨_, by rw [Stack.claim, htake]; rfl⟩

/-- An entry without a URI on top does not come between. -/
theorem Newest.push (h : s.Newest entry uri) (template : String) :
    (s.push template).Newest entry uri := by
  obtain ⟨above, below, hs, habove⟩ := h
  refine ⟨⟨s.next, template, none⟩ :: above, below, by rw [Stack.push, hs]; rfl, fun e he => ?_⟩
  rcases List.mem_cons.mp he with rfl | he
  · rfl
  · exact habove e he

/-- Binding an entry with another token leaves an entry where it is, and above it there is nothing
new but what was bound. -/
theorem exists_bindIn_append {token : UInt64} (u : Uri) (above below : List Entry)
    (htoken : entry.token ≠ token) :
    ∃ above' below', bindIn token u (above ++ entry :: below) = above' ++ entry :: below' ∧
      ∀ e ∈ above', e ∈ above ∨ e.uri = some u := by
  induction above with
  | nil =>
      by_cases hany : below.any (·.token = token) = true
      · exact ⟨[], bindIn token u below, by simp [bindIn, hany], nofun⟩
      · exact ⟨[], below, by simp [bindIn, hany, htoken], nofun⟩
  | cons a above ih =>
      obtain ⟨above', below', hbind, habove'⟩ := ih
      rw [List.cons_append, bindIn]
      split
      · refine ⟨a :: above', below', by rw [hbind]; rfl, fun e he => ?_⟩
        rcases List.mem_cons.mp he with rfl | he
        · exact .inl List.mem_cons_self
        · exact (habove' e he).imp_left (List.mem_cons_of_mem a)
      · split
        · refine ⟨{ a with uri := some u } :: above, below, rfl, fun e he => ?_⟩
          rcases List.mem_cons.mp he with rfl | he
          · exact .inr rfl
          · exact .inl (List.mem_cons_of_mem a he)
        · exact ⟨a :: above, below, rfl, fun e he => .inl he⟩

/-- Binding another entry to a URI with another target does not come between. -/
theorem Newest.bind {token : UInt64} {u : Uri} (h : s.Newest entry uri)
    (htoken : entry.token ≠ token) (hu : u.sameTarget uri = false) :
    (s.bind token u).Newest entry uri := by
  obtain ⟨above, below, hs, habove⟩ := h
  obtain ⟨above', below', hbind, habove'⟩ := exists_bindIn_append u above below htoken
  refine ⟨above', below', by rw [Stack.bind, hs, hbind], fun e he => ?_⟩
  rcases habove' e he with hmem | hbound
  · exact habove e hmem
  · rw [Entry.sharesTarget, hbound]
    exact hu

/-- Discarding another entry does not come between. -/
theorem Newest.discard {token : UInt64} (h : s.Newest entry uri) (htoken : entry.token ≠ token) :
    (s.discard token).Newest entry uri := by
  obtain ⟨above, below, hs, habove⟩ := h
  refine ⟨above.filter (·.token ≠ token), below.filter (·.token ≠ token), ?_, fun e he => ?_⟩
  · rw [Stack.discard, hs, List.filter_append, List.filter_cons_of_pos (by simpa using htoken)]
  · exact habove e (List.mem_of_mem_filter he)

/-- Claiming for another target leaves an entry where it is, whether the claimed one lies below it
or above it. -/
theorem Newest.of_claim {u : Uri} {claimed : Entry} (h : s.Newest entry uri)
    (huri : entry.uri = some uri) (hu : u.sameTarget uri = false)
    (hclaim : s.claim u = some (claimed, s')) : s'.Newest entry uri := by
  obtain ⟨above, below, hs, habove⟩ := h
  obtain ⟨newer, older, hs₁, hs'⟩ := claim_eq_some hclaim
  have hne : claimed ≠ entry := by
    rintro rfl
    have hshares := (mem_claim hclaim).2
    rw [Entry.sharesTarget, huri] at hshares
    have hsame : u.sameTarget uri = true := Uri.sameTarget_symm hshares
    rw [hu] at hsame
    cases hsame
  rw [hs] at hs₁
  rcases List.append_eq_append_iff.mp hs₁ with ⟨mid, rfl, hmid⟩ | ⟨mid, rfl, hmid⟩
  · rcases mid with _ | ⟨e, mid⟩
    · exact absurd (List.cons.inj hmid).1.symm hne
    · obtain ⟨rfl, rfl⟩ := List.cons.inj hmid
      refine ⟨above, mid ++ older, ?_, habove⟩
      rw [hs', List.append_assoc, List.cons_append]
  · rcases mid with _ | ⟨e, mid⟩
    · exact absurd (List.cons.inj hmid).1 hne
    · rw [List.cons_append] at hmid
      obtain ⟨rfl, rfl⟩ := List.cons.inj hmid
      refine ⟨newer ++ mid, below, by rw [hs', List.append_assoc], fun e he => habove e ?_⟩
      rcases List.mem_append.mp he with he | he
      · exact List.mem_append_left _ he
      · exact List.mem_append_right _ (List.mem_cons_of_mem _ he)

end

end Route.Stack

/-! ### What disturbs an entry -/

/-- An event on a thread interferes with the entries for a target there: it clears the stack, or
something is captured or claimed for the same target. -/
inductive Disturbs (t : ThreadId) (uri : Uri) (older : List Moment) : Moment → Prop where
  | cleared (b : Thread) : Disturbs t uri older ⟨t, .cleared, b⟩
  /-- The outermost scope is closed. -/
  | closed (b : Thread) (h : openScopes t older = 1) : Disturbs t uri older ⟨t, .scopeClosed, b⟩
  | bound (b : Thread) (token : UInt64) {u : Uri} (h : u.sameTarget uri = true) :
      Disturbs t uri older ⟨t, .bound token u, b⟩
  | claimed (b : Thread) (entry : Option Route.Entry) {u : Uri} (h : u.sameTarget uri = true) :
      Disturbs t uri older ⟨t, .claimed u entry, b⟩

/-- Nothing that happened lately interfered with the entries for a target. -/
def Undisturbed (t : ThreadId) (uri : Uri) (newer older : List Moment) : Prop :=
  ∀ newer₁ m newer₂, newer = newer₁ ++ m :: newer₂ → ¬ Disturbs t uri (newer₂ ++ older) m

/-- What has not happened yet disturbs nothing. -/
theorem Undisturbed.nil {t : ThreadId} {uri : Uri} {older : List Moment} :
    Undisturbed t uri [] older :=
  fun _ _ _ h => absurd h.symm (List.append_ne_nil_of_right_ne_nil _ (List.cons_ne_nil _ _))

/-- One more event that disturbs nothing. -/
theorem Undisturbed.cons {t : ThreadId} {uri : Uri} {m : Moment} {newer older : List Moment}
    (h : Undisturbed t uri newer older) (hm : ¬ Disturbs t uri (newer ++ older) m) :
    Undisturbed t uri (m :: newer) older := by
  rintro (_ | ⟨m₁, newer₁⟩) m' newer₂ heq
  · obtain ⟨rfl, rfl⟩ := List.cons.inj heq
    exact hm
  · exact h newer₁ m' newer₂ (List.cons.inj heq).2

/-- What was undisturbed at last was undisturbed before. -/
theorem Undisturbed.tail {t : ThreadId} {uri : Uri} {m : Moment} {newer older : List Moment}
    (h : Undisturbed t uri (m :: newer) older) : Undisturbed t uri newer older := by
  rintro newer₁ m' newer₂ rfl
  exact h (m :: newer₁) m' newer₂ rfl

/-- The newest entry for a target stays the newest in a turn that does not disturb it. -/
theorem Turn.newest {t : ThreadId} {older : List Moment} {b b' : Thread} {n n' : Nesting}
    {e : Event} {entry : Route.Entry} {uri : Uri} (ht : Turn b n e b' n')
    (h : b.routes.Newest entry uri) (huri : entry.uri = some uri)
    (hquiet : ¬ Disturbs t uri older ⟨t, e, b'⟩) (hactive : b.active = n.scopes)
    (hopen : openScopes t older = n.scopes) (hended : entry.token ∉ n.expanding) :
    b'.routes.Newest entry uri := by
  cases ht with
  | opened | unclaimed | other => exact h
  | closed n' =>
      rw [Route.routes_closed]
      split
      · rename_i hb
        have hone : openScopes t older = 1 := by
          rw [hactive, Nat.add_sub_cancel] at hb
          rw [hopen, hb]
        exact absurd (.closed _ hone) hquiet
      · exact h
  | captured _ template => exact h.push template
  | bound _ token u =>
      have htoken : entry.token ≠ token := fun heq => hended (heq ▸ Multiset.mem_cons_self _ _)
      refine h.bind htoken (Bool.eq_false_iff.mpr fun hu => hquiet ?_)
      exact .bound _ token hu
  | discarded _ token =>
      have htoken : entry.token ≠ token := fun heq => hended (heq ▸ Multiset.mem_cons_self _ _)
      exact h.discard htoken
  | @claimed _ u claimed routes hclaim =>
      refine h.of_claim huri (Bool.eq_false_iff.mpr fun hu => hquiet ?_) hclaim
      exact .claimed _ (some claimed) hu
  | cleared => exact absurd (.cleared _) hquiet

namespace Replays

variable {t : ThreadId} {b : Thread} {n : Nesting} {entry : Route.Entry} {uri : Uri}

/-- The newest entry for a target stays the newest as long as nothing disturbs it. The only
expansion with its token is over, so no error of a handler discards it. -/
theorem newest {newer older : List Moment} (h : Replays t (newer ++ older) b n)
    (huri : entry.uri = some uri) (hquiet : Undisturbed t uri newer older)
    (hone : countOn t (Event.captures entry.token) (newer ++ older) ≤ 1)
    (hended : 0 < countOn t (Event.concludes entry.token) older)
    (hfirst : ∀ b₀ n₀, Replays t older b₀ n₀ → b₀.routes.Newest entry uri) :
    b.routes.Newest entry uri := by
  induction newer generalizing b n with
  | nil => exact hfirst b n h
  | cons m newer ih =>
      have hone' : countOn t (Event.captures entry.token) (newer ++ older) ≤ 1 :=
        Nat.le_trans (List.sublist_cons_self m _).countP_le hone
      rw [List.cons_append] at h
      cases h with
      | skip h _ => exact ih h hquiet.tail hone'
      | @turn _ b₀ _ n₀ _ e h ht =>
          have hover : entry.token ∉ n₀.expanding := by
            have heq := h.captures_eq entry.token
            have hle : countOn t (Event.concludes entry.token) older ≤
                countOn t (Event.concludes entry.token) (newer ++ older) :=
              (List.sublist_append_right newer older).countP_le
            refine Multiset.count_eq_zero.mp ?_
            omega
          exact ht.newest (ih h hquiet.tail hone') huri (hquiet [] _ newer rfl) h.active_eq
            h.openScopes_eq hover

/-- An entry that was pushed last lies on top of the stack, and no other one has its token. -/
theorem entries_of_captured {mid older : List Moment} {k : UInt64} {template : String}
    {after : Thread} (h : Replays t (mid ++ ⟨t, .captured k template, after⟩ :: older) b n)
    (hmid : ∀ m ∈ mid, m.thread ≠ t)
    (hone : countOn t (Event.captures k) (mid ++ ⟨t, .captured k template, after⟩ :: older) ≤ 1) :
    ∃ below, b.routes.entries = ⟨k, template, none⟩ :: below ∧ ∀ e ∈ below, e.token ≠ k := by
  induction mid with
  | nil =>
      rw [List.nil_append] at h hone
      cases h with
      | skip _ hne => exact absurd rfl hne
      | @turn _ b₀ _ n₀ _ _ hr ht =>
          have hself : (Event.captured k template).captures k = true := by simp [Event.captures]
          rw [countOn_turn, hself, if_pos rfl] at hone
          have hle := hr.holds_add_claims_le k
          have hnone : b₀.routes.holds k = 0 := by omega
          cases ht with
          | captured =>
              refine ⟨b₀.routes.entries, rfl, fun e he htoken => ?_⟩
              have hfree := List.countP_eq_zero.mp hnone e he
              simp [htoken] at hfree
          | other _ he => cases he
  | cons m mid ih =>
      have hm : m.thread ≠ t := hmid m List.mem_cons_self
      rw [List.cons_append] at h
      rw [List.cons_append, countOn_cons_of_ne hm] at hone
      cases h with
      | skip h _ => exact ih h (fun m' hm' => hmid m' (List.mem_cons_of_mem m hm')) hone
      | turn _ _ => exact absurd rfl hm

/-- An entry that was pushed and then bound is the newest for its target. -/
theorem newest_of_bound {mid older : List Moment} {k : UInt64} {template : String} {b₁ b₂ : Thread}
    (h : Replays t (⟨t, .bound k uri, b₁⟩ :: (mid ++ ⟨t, .captured k template, b₂⟩ :: older)) b n)
    (hmid : ∀ m ∈ mid, m.thread ≠ t)
    (hone : countOn t (Event.captures k) (mid ++ ⟨t, .captured k template, b₂⟩ :: older) ≤ 1) :
    b.routes.Newest ⟨k, template, some uri⟩ uri := by
  cases h with
  | skip _ hne => exact absurd rfl hne
  | turn hr ht =>
      obtain ⟨below, hentries, hbelow⟩ := hr.entries_of_captured hmid hone
      cases ht with
      | bound =>
          have hany : below.any (·.token = k) = false :=
            List.any_eq_false.mpr fun e he => by simpa using hbelow e he
          refine ⟨[], below, ?_, nofun⟩
          rw [Route.Stack.bind, hentries]
          simp [Route.Stack.bindIn, hany]
      | other _ he => cases he

end Replays

end ExchangeMetrics
