import ExchangeMetrics.Proofs.Reshaping

/-!
# What a token stands for

Whoever pushes a template is given a token, and finds the entry again by it, however long that takes
and whatever has become of the stack in between. `Thread.Move` is all that can be done to what
belongs to a thread: templates are pushed, entries are bound, discarded and claimed, the stack is
cleared, scopes are opened and closed, in any order and with any tokens. As long as fewer than
`2 ^ 64` templates were pushed, a token finds the entry that was pushed with it, or nothing.

This rests on the order of the tokens: they ascend from the oldest entry to the newest, and the
token that is issued next is greater than all of them. Moves take entries away from anywhere in the
stack, but none of them puts one back or issues a token a second time.

## Main results

* `Route.Stack.Reached.ascending`: the order of the tokens on a stack.
* `Thread.withToken_move`: what a move makes of the entry with a token.
* `Thread.withToken_moved`: what becomes of the entry that was pushed with a token.
* `Thread.tokens_identify`: tokens identify entries, after all moves and so on all threads.
-/

namespace ExchangeMetrics

namespace Route.Stack

section

variable {n : Nat} {s : Stack} {k : UInt64} {e : Entry}

/-! ### The order of tokens -/

/-- Whatever a claim finds, it adds no entries and leaves those that stay in their order. -/
theorem sublist_afterClaim (s : Stack) (uri : Uri) :
    (s.afterClaim uri).entries.Sublist s.entries := by
  rw [afterClaim]
  cases hclaim : s.claim uri with
  | none => exact .refl _
  | some taken => exact sublist_of_claim hclaim

/-- Tokens ascend from the oldest entry to the newest: a push issues a greater one, and binding
leaves them as they are. -/
theorem Reached.ascending (h : Reached n s) (hfew : n ≤ 2 ^ 64) :
    s.entries.Pairwise fun newer older => older.token < newer.token := by
  induction h with
  | empty => exact .nil
  | @push n s h template ih =>
      refine List.pairwise_cons.mpr ⟨fun e he => ?_, ih (by omega)⟩
      have hlt := h.token_lt (by omega) e he
      rw [UInt64.lt_iff_toNat_lt, h.toNat_next (by omega)]
      exact hlt
  | @bind n s h token uri ih =>
      have htokens : (s.entries.map Entry.token).Pairwise fun newer older => older < newer :=
        List.pairwise_map.mpr (ih hfew)
      rw [← token_bindIn token uri] at htokens
      exact List.pairwise_map.mp htokens
  | discard _ _ ih => exact (ih hfew).filter _
  | claim _ hclaim ih => exact (ih hfew).sublist (sublist_of_claim hclaim)
  | clear _ _ => exact .nil

/-- The token that is issued next is greater than all those on the stack. -/
theorem Reached.token_lt_next (h : Reached n s) (hfew : n < 2 ^ 64) :
    ∀ e ∈ s.entries, e.token < s.next := by
  intro e he
  rw [UInt64.lt_iff_toNat_lt, h.toNat_next hfew]
  exact h.token_lt (Nat.le_of_lt hfew) e he

/-! ### What a token finds -/

/-- If there is one entry with a token at most, binding concerns what there is. -/
theorem withToken_bind_self (hone : (s.withToken k).length ≤ 1) (uri : Uri) :
    (s.bind k uri).withToken k = (s.withToken k).map fun e => { e with uri := some uri } := by
  cases hs : s.withToken k with
  | nil =>
      rw [bind_of_forall_ne (withToken_eq_nil_iff.mp hs), hs]
      rfl
  | cons e rest =>
      obtain rfl : rest = [] := by
        rw [hs, List.length_cons] at hone
        exact List.eq_nil_of_length_eq_zero (by omega)
      obtain ⟨he, above, below, hs, habove, hbelow⟩ := exists_of_withToken_eq hs
      have hnone {es : List Entry} (hes : ∀ e' ∈ es, e'.token ≠ k) :
          es.filter (·.token = k) = [] := by
        simpa [List.filter_eq_nil_iff] using hes
      rw [bind_of_split hs he hbelow, withToken, List.filter_append,
        List.filter_cons_of_pos (by simpa using he), hnone habove, hnone hbelow]
      rfl

/-- What binding and discarding by the token of an entry do to a stack: the entry is there and it
alone is bound or removed, or it is gone and nothing happens. -/
inductive Addresses (s : Stack) (entry : Entry) : Prop where
  /-- The entry lies between those that were pushed after it and those that were pushed before. -/
  | here {newer older : List Entry} (hs : s.entries = newer ++ entry :: older)
      (hnewer : ∀ e ∈ newer, entry.token < e.token) (holder : ∀ e ∈ older, e.token < entry.token)
      (hbind : ∀ uri, s.bind entry.token uri =
        { s with entries := newer ++ { entry with uri := some uri } :: older })
      (hdiscard : s.discard entry.token = { s with entries := newer ++ older })
  /-- No entry has its token any more. -/
  | gone (hs : ∀ e ∈ s.entries, e.token ≠ entry.token) (hbind : ∀ uri, s.bind entry.token uri = s)
      (hdiscard : s.discard entry.token = s)

/-- Where tokens ascend, an entry is addressed by its token if there is nothing else that has it. -/
theorem addresses_of_sublist (hs : s.entries.Pairwise fun newer older => older.token < newer.token)
    (h : (s.withToken e.token).Sublist [e]) : s.Addresses e := by
  rcases List.sublist_singleton.mp h with hnil | hone
  · have hne := withToken_eq_nil_iff.mp hnil
    exact .gone hne (bind_of_forall_ne hne) (discard_of_forall_ne hne)
  · obtain ⟨-, newer, older, hsplit, hnewer, holder⟩ := exists_of_withToken_eq hone
    rw [hsplit, List.pairwise_append, List.pairwise_cons] at hs
    obtain ⟨-, ⟨hbefore, -⟩, hafter⟩ := hs
    exact .here hsplit (fun e' he' => hafter e' he' e List.mem_cons_self) hbefore
      (bind_of_split hsplit rfl holder) (discard_of_split hsplit rfl hnewer holder)

end

end Route.Stack

/-- Closing a scope adds no entries. -/
theorem Route.sublist_closed (b : Thread) :
    (Route.closed b).routes.entries.Sublist b.routes.entries := by
  rw [Route.routes_closed]
  split
  · exact List.nil_sublist _
  · exact .refl _

/-! ### Moves -/

namespace Thread

/-- The URI to which the entry with a token is bound. -/
def Move.bound? (k : UInt64) : Move → Option Uri
  | bind token uri => if token = k then some uri else none
  | _ => none

/-- The token that is given to a template pushed after these moves. -/
def issued (older : List Move) : UInt64 :=
  (moved older).routes.next

/-- The URI to which the entry with a token was bound last. -/
def boundTo (k : UInt64) (moves : List Move) : Option Uri :=
  moves.findSome? (Move.bound? k)

section

variable {b : Thread} {m : Move} {moves older newer : List Move} {k : UInt64} {template : String}

/-- The token given to a template is the number of those pushed before. -/
theorem toNat_issued (hfew : pushCount older < 2 ^ 64) : (issued older).toNat = pushCount older :=
  (reached_moved older).toNat_next hfew

/-- Tokens are issued one by one, so the numbers of those issued in two parts add up. -/
theorem pushCount_append (newer older : List Move) :
    pushCount (newer ++ older) = pushCount newer + pushCount older :=
  List.countP_append

/-- A push issues one token. -/
theorem pushCount_push (template : String) (older : List Move) :
    pushCount (.push template :: older) = pushCount older + 1 :=
  List.countP_cons_of_pos rfl

/-- A move takes back no token that was issued. -/
theorem pushCount_le_cons (m : Move) (moves : List Move) :
    pushCount moves ≤ pushCount (m :: moves) :=
  (List.sublist_cons_self m moves).countP_le

/-- What was pushed later has the greater token. -/
theorem issued_lt_issued (hfew : pushCount (newer ++ .push template :: older) < 2 ^ 64) :
    issued older < issued (newer ++ .push template :: older) := by
  have hpushed := pushCount_append newer (.push template :: older)
  rw [pushCount_push] at hpushed
  rw [UInt64.lt_iff_toNat_lt, toNat_issued hfew, toNat_issued (by omega)]
  omega

/-! ### What becomes of an entry -/

/-- A move that does not push or bind an entry with a token leaves those with it, or takes some of
them away. -/
theorem withToken_move_sublist (hpush : m.isPush = true → b.routes.next ≠ k)
    (hbound : m.bound? k = none) :
    ((b.move m).routes.withToken k).Sublist (b.routes.withToken k) := by
  cases m with
  | push template => rw [move, Route.Stack.withToken_push (hpush rfl)]
  | bind token uri =>
      have hne : token ≠ k := by simpa [Move.bound?] using hbound
      rw [move, Route.Stack.withToken_bind hne]
  | discard token => exact List.filter_sublist.filter _
  | claim uri => exact (b.routes.sublist_afterClaim uri).filter _
  | clear => exact List.nil_sublist _
  | openScope => exact .refl _
  | closeScope => exact (Route.sublist_closed b).filter _

/-- A move leaves the only entry with a token as it is, binds it, or takes it away. -/
theorem withToken_move (m : Move) (hpush : m.isPush = true → b.routes.next ≠ k)
    (hone : (b.routes.withToken k).length ≤ 1) :
    ((b.move m).routes.withToken k).Sublist
      ((b.routes.withToken k).map fun e => { e with uri := (m.bound? k).or e.uri }) := by
  cases hbound : m.bound? k with
  | none =>
      simp only [Option.none_or, List.map_id']
      exact withToken_move_sublist hpush hbound
  | some u =>
      cases m with
      | bind token uri =>
          obtain ⟨rfl, rfl⟩ : token = k ∧ uri = u := by simpa [Move.bound?] using hbound
          simp only [Option.some_or]
          rw [move, Route.Stack.withToken_bind_self hone]
      | _ => cases hbound

/-- A move that comes after a push leaves the entry with its token as it is, binds it, or takes it
away, for the token is not issued again. -/
theorem withToken_moved_cons (hmoves : moves = newer ++ .push template :: older)
    (hfew : pushCount moves < 2 ^ 64)
    (hone : ((moved moves).routes.withToken (issued older)).length ≤ 1) (m : Move) :
    ((moved (m :: moves)).routes.withToken (issued older)).Sublist
      (((moved moves).routes.withToken (issued older)).map fun e =>
        { e with uri := (m.bound? (issued older)).or e.uri }) := by
  subst hmoves
  exact withToken_move m (fun _ => (UInt64.ne_of_lt (issued_lt_issued hfew)).symm) hone

/-- What is left of an entry after some moves: it alone has its token, bound to the URI to which it
was bound last, or no entry has it. -/
theorem withToken_moved (hfew : pushCount (newer ++ .push template :: older) < 2 ^ 64) :
    ((moved (newer ++ .push template :: older)).routes.withToken (issued older)).Sublist
      [⟨issued older, template, boundTo (issued older) newer⟩] := by
  induction newer with
  | nil =>
      rw [List.nil_append, pushCount_push] at hfew
      have hnone := (reached_moved older).withToken_next (by omega)
      have hpush := Route.Stack.withToken_push_self (s := (moved older).routes) template
      rw [hnone] at hpush
      rw [List.nil_append, moved, move, issued, hpush]
      exact .refl _
  | cons m newer ih =>
      have hrest := Nat.lt_of_le_of_lt (pushCount_le_cons m _) hfew
      have hheld := ih hrest
      have hmove := withToken_moved_cons rfl hrest hheld.length_le m
      rw [List.cons_append, boundTo, List.findSome?_cons]
      refine (hmove.trans (hheld.map _)).trans ?_
      cases m.bound? (issued older) <;> exact .refl _

/-- When the entry that was pushed with a token is gone, no other one takes its place. -/
theorem withToken_moved_eq_nil {since : List Move}
    (hfew : pushCount (since ++ (newer ++ .push template :: older)) < 2 ^ 64)
    (hgone : (moved (newer ++ .push template :: older)).routes.withToken (issued older) = []) :
    (moved (since ++ (newer ++ .push template :: older))).routes.withToken (issued older) = [] := by
  induction since with
  | nil => exact hgone
  | cons m since ih =>
      have hrest := Nat.lt_of_le_of_lt (pushCount_le_cons m _) hfew
      have hnil := ih hrest
      have hmove := withToken_moved_cons (List.append_assoc ..).symm hrest (by simp [hnil]) m
      rw [hnil] at hmove
      exact List.sublist_nil.mp hmove

/-- An entry that is there after a move was there before, or it is pushed. -/
theorem mem_move {e : Route.Entry} (he : e ∈ (b.move m).routes.entries) :
    (∃ old ∈ b.routes.entries, old.token = e.token ∧ old.template = e.template) ∨
      m = .push e.template ∧ e.token = b.routes.next := by
  have hkept (hmem : e ∈ b.routes.entries) :
      ∃ old ∈ b.routes.entries, old.token = e.token ∧ old.template = e.template :=
    ⟨e, hmem, rfl, rfl⟩
  cases m with
  | push template =>
      rcases List.mem_cons.mp he with rfl | hmem
      · exact .inr ⟨rfl, rfl⟩
      · exact .inl (hkept hmem)
  | bind token uri =>
      rcases Route.Stack.mem_bindIn he with hmem | ⟨old, hold, -, rfl⟩
      · exact .inl (hkept hmem)
      · exact .inl ⟨old, hold, rfl, rfl⟩
  | discard token => exact .inl (hkept (List.mem_of_mem_filter he))
  | claim uri => exact .inl (hkept ((b.routes.sublist_afterClaim uri).subset he))
  | clear => cases he
  | openScope => exact .inl (hkept he)
  | closeScope => exact .inl (hkept ((Route.sublist_closed b).subset he))

/-- Every entry on the stack was pushed with its token. -/
theorem exists_push_of_mem {e : Route.Entry} (he : e ∈ (moved moves).routes.entries) :
    ∃ newer older, moves = newer ++ .push e.template :: older ∧ e.token = issued older := by
  induction moves generalizing e with
  | nil => cases he
  | cons m moves ih =>
      rcases mem_move he with ⟨old, hold, htoken, htemplate⟩ | ⟨rfl, htoken⟩
      · obtain ⟨newer, older, rfl, hissued⟩ := ih hold
        refine ⟨m :: newer, older, ?_, htoken ▸ hissued⟩
        rw [htemplate, List.cons_append]
      · exact ⟨[], moves, rfl, htoken⟩

/-! ### Tokens identify entries -/

/-- What is guaranteed about the tokens of a thread after some moves. -/
structure Identifying (moves : List Move) : Prop where
  /-- Tokens ascend from the oldest entry to the newest. -/
  ascending : (moved moves).routes.entries.Pairwise fun newer older => older.token < newer.token
  /-- The token that is issued next is greater than all of them. -/
  next : ∀ e ∈ (moved moves).routes.entries, e.token < (moved moves).routes.next
  /-- No token was issued twice: of two pushes the later one was given the greater token. -/
  once : ∀ newer template between template' older,
    moves = newer ++ .push template :: (between ++ .push template' :: older) →
      issued older < issued (between ++ .push template' :: older)
  /-- Every entry is what was pushed with its token, bound to the URI to which it was bound last. -/
  origin : ∀ e ∈ (moved moves).routes.entries, ∃ newer older,
    moves = newer ++ .push e.template :: older ∧ e.token = issued older ∧
      e.uri = boundTo e.token newer
  /-- Every token that was ever issued addresses the entry that was pushed with it. -/
  addresses : ∀ newer template older, moves = newer ++ .push template :: older →
    (moved moves).routes.Addresses ⟨issued older, template, boundTo (issued older) newer⟩
  /-- Once this entry is gone, its token is that of no later entry. -/
  gone : ∀ since newer template older, moves = since ++ (newer ++ .push template :: older) →
    (∀ e ∈ (moved (newer ++ .push template :: older)).routes.entries, e.token ≠ issued older) →
      ∀ e ∈ (moved moves).routes.entries, e.token ≠ issued older

/-- As long as tokens are not issued twice, the entry of a push is found by its token only, and it
is bound to the URI given last for the token. -/
theorem addresses_moved (hfew : pushCount (newer ++ .push template :: older) < 2 ^ 64) :
    (moved (newer ++ .push template :: older)).routes.Addresses
      ⟨issued older, template, boundTo (issued older) newer⟩ :=
  Route.Stack.addresses_of_sublist ((reached_moved _).ascending (Nat.le_of_lt hfew))
    (withToken_moved hfew)

/-- Tokens identify entries as long as they do not begin again from zero. -/
theorem identifying_of_pushCount_lt (hfew : pushCount moves < 2 ^ 64) : Identifying moves := by
  have hreached := reached_moved moves
  refine ⟨hreached.ascending (Nat.le_of_lt hfew), hreached.token_lt_next hfew, ?_, ?_, ?_, ?_⟩
  · rintro newer template between template' older rfl
    have hrest := pushCount_append newer (.push template :: (between ++ .push template' :: older))
    rw [pushCount_push] at hrest
    exact issued_lt_issued (by omega)
  · intro e he
    obtain ⟨newer, older, rfl, htoken⟩ := exists_push_of_mem he
    have hmem : e ∈ (moved (newer ++ .push e.template :: older)).routes.withToken (issued older) :=
      List.mem_filter.mpr ⟨he, decide_eq_true htoken⟩
    have heq := List.mem_singleton.mp ((withToken_moved hfew).subset hmem)
    refine ⟨newer, older, rfl, htoken, ?_⟩
    rw [htoken, heq]
  · rintro newer template older rfl
    exact addresses_moved hfew
  · rintro since newer template older rfl hgone
    rw [← Route.Stack.withToken_eq_nil_iff] at hgone ⊢
    exact withToken_moved_eq_nil hfew hgone

end

end Thread

/-- Whoever captures a template is given the token that is issued after the moves so far. -/
theorem Replays.token_eq_issued {t : ThreadId} {newer older : List Moment} {after b : Thread}
    {n : Nesting} {token : UInt64} {template : String}
    (h : Replays t (newer ++ ⟨t, .captured token template, after⟩ :: older) b n) :
    token = Thread.issued (Thread.movesOn t older) := by
  obtain ⟨b', _, _, hr, ht⟩ := h.exists_turn rfl
  rw [Thread.issued, ← hr.eq_moved]
  cases ht with
  | captured => rfl
  | other _ he => cases he

/-- Whatever was done on a thread, in any order and with any tokens: as long as fewer than `2 ^ 64`
templates were pushed, tokens ascend from the oldest entry of its route stack to the newest, and
each one that was ever issued addresses the entry that was pushed with it and no other one, then and
later. Every thread of a pool stands as such moves left it, and its tokens were issued by them. -/
theorem Thread.tokens_identify :
    (∀ moves : List Thread.Move, Thread.pushCount moves < 2 ^ 64 → Thread.Identifying moves) ∧
      ∀ {σ : Type} {kept : σ → Multiset Observation} {p q : Pool σ}, p.Fresh kept → p.Reaches q →
        ∀ t, q.world.thread t = Thread.moved (Thread.movesOn t q.world.journal) ∧
          Thread.pushCount (Thread.movesOn t q.world.journal) = pushes t q.world.journal ∧
          ∀ newer token template after older,
            q.world.journal = newer ++ ⟨t, .captured token template, after⟩ :: older →
              token = Thread.issued (Thread.movesOn t older) := by
  refine ⟨fun moves => Thread.identifying_of_pushCount_lt, fun {_ _ _ q} hp h t => ?_⟩
  obtain ⟨nestings, -, hreplays⟩ : q.Nests := h.invariant hp.nests fun _ _ _ hr hs => hr.step hs
  have hr := hreplays t
  refine ⟨hr.eq_moved, Thread.pushCount_movesOn t _, fun newer token template after older hj => ?_⟩
  rw [hj] at hr
  exact hr.token_eq_issued

/-- Push three templates and bind the second; the entry is claimed from between the others. Then
push a fourth template, and bind by the token of the second once more. -/
def Thread.lateBinding : List Thread.Move :=
  [.bind 1 Request.plain.uri, .push "/d", .claim Request.plain.uri, .bind 1 Request.plain.uri,
    .push "/c", .push "/b", .push "/a"]

/-- The late binding finds nothing; it does not touch the new entry, nor those around the claimed
one. Nor does anything else happen to the threads of exchanges than what their journal says. -/
theorem Thread.tokens_identify_lateBinding :
    Thread.pushCount Thread.lateBinding = 4 ∧
      (Thread.moved Thread.lateBinding).routes.entries =
        [⟨3, "/d", none⟩, ⟨2, "/c", none⟩, ⟨0, "/a", none⟩] ∧
      Thread.Identifying Thread.lateBinding ∧
      ∃ q : Pool Unit, Pool.Reaches ⟨{ shared := () }, [nestedExchanges]⟩ q ∧
        q.world.thread 0 = Thread.moved (Thread.movesOn 0 q.world.journal) ∧
        Thread.pushCount (Thread.movesOn 0 q.world.journal) = 1 ∧
        ∃ newer token after older,
          q.world.journal = newer ++ ⟨0, .captured token "/", after⟩ :: older ∧
            token = Thread.issued (Thread.movesOn 0 older) := by
  have hpushed : Thread.pushCount Thread.lateBinding = 4 := by decide
  have hfew : Thread.pushCount Thread.lateBinding < 2 ^ 64 := by
    rw [hpushed]
    decide
  have hfresh : Pool.Fresh (fun _ => 0) ⟨{ shared := () }, [nestedExchanges]⟩ :=
    ⟨rfl, rfl, rfl, rfl, fun m hm => List.mem_singleton.mp hm ▸ program_nestedExchanges⟩
  have hreaches := Pool.reaches_run (p := ⟨{ shared := () }, [nestedExchanges]⟩) (t := 0) rfl
  obtain ⟨hthread, hcount, htokens⟩ := Thread.tokens_identify.2 hfresh hreaches 0
  have hfirst : (nestedExchanges.run { thread := 0 } { shared := () }).2.journal =
      (nestedExchanges.run { thread := 0 } { shared := () }).2.journal.dropLast ++
        ⟨0, .captured 0 "/", Thread.moved [.push "/"]⟩ :: [] := rfl
  exact ⟨hpushed, by decide +kernel, Thread.tokens_identify.1 _ hfew, _, hreaches, hthread,
    hcount.trans (by decide +kernel), _, 0, _, [], hfirst, htokens _ _ _ _ _ hfirst⟩

end ExchangeMetrics
