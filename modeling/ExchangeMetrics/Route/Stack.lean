import ExchangeMetrics.Uri.Basic

/-!
# Route stacks

A route stack remembers which templates were expanded, until the exchanges that use the URIs
claim them. An entry is pushed before its template is expanded and bound to the URI once there
is one; in between it can be found only by the token that pushing it gave out.

Claiming looks for the newest entry bound to a URI equal to the requested one, and failing
that for the newest entry bound to a URI with the same target, and takes it off the stack,
wherever it lies. An entry that is not bound is never claimed.

Tokens are issued in order, and begin again from zero after `2 ^ 64` of them; clearing a stack
does not begin them again.

## Main results

* `Stack.claim_eq_none_iff`: when there is nothing to claim.
* `Stack.mem_claim`: what was claimed was on the stack and bound to a URI with the same target.
* `Stack.claim_eq_some`: what claiming leaves on the stack.
* `Stack.depth_push`, `Stack.depth_claim`: how the number of entries changes.
-/

namespace ExchangeMetrics.Route

/-- A captured template. -/
structure Entry where
  /-- The token of the entry. -/
  token : UInt64
  /-- The template as it was given. -/
  template : String
  /-- The URI to which the template was expanded, once it is known. -/
  uri : Option Uri := none
deriving DecidableEq

namespace Entry

/-- Whether an entry is bound to a URI equal to this one. -/
def isFor (e : Entry) (uri : Uri) : Bool :=
  e.uri.any (·.equal uri)

/-- Whether an entry is bound to a URI with the same target as this one. -/
def sharesTarget (e : Entry) (uri : Uri) : Bool :=
  e.uri.any (·.sameTarget uri)

/-- An entry for a URI shares its target. -/
theorem sharesTarget_of_isFor {e : Entry} {uri : Uri} (h : e.isFor uri = true) :
    e.sharesTarget uri = true := by
  unfold isFor at h
  unfold sharesTarget
  cases hu : e.uri with
  | none => simp [hu] at h
  | some u =>
      rw [hu] at h
      exact Uri.sameTarget_of_equal h

end Entry

/-- The captured templates of one thread. -/
structure Stack where
  /-- The entries, the newest first. -/
  entries : List Entry := []
  /-- The token of the entry that is pushed next. -/
  next : UInt64 := 0
deriving DecidableEq

namespace Stack

/-- The number of entries. -/
def depth (s : Stack) : Nat :=
  s.entries.length

/-- Push an entry for a template that is about to be expanded. -/
def push (s : Stack) (template : String) : Stack :=
  { entries := ⟨s.next, template, none⟩ :: s.entries, next := s.next + 1 }

/-- Bind the oldest of the entries with a token. -/
def bindIn (token : UInt64) (uri : Uri) : List Entry → List Entry
  | [] => []
  | e :: es =>
      if es.any (·.token = token) then e :: bindIn token uri es
      else if e.token = token then { e with uri := some uri } :: es
      else e :: es

/-- Bind the entry with a token to a URI. -/
def bind (s : Stack) (token : UInt64) (uri : Uri) : Stack :=
  { s with entries := bindIn token uri s.entries }

/-- Remove the entry with a token. -/
def discard (s : Stack) (token : UInt64) : Stack :=
  { s with entries := s.entries.filter (·.token ≠ token) }

/-- Remove all entries. -/
def clear (s : Stack) : Stack :=
  { s with entries := [] }

/-- Take off the newest entry that satisfies a condition. -/
def take (s : Stack) (p : Entry → Bool) : Option (Entry × Stack) :=
  (s.entries.find? p).map fun e => (e, { s with entries := s.entries.eraseP p })

/-- Take off the entry that belongs to a requested URI, if there is one. -/
def claim (s : Stack) (uri : Uri) : Option (Entry × Stack) :=
  s.take (·.isFor uri) <|> s.take (·.sharesTarget uri)

/-! ### What is claimed -/

/-- Nothing is taken exactly if nothing on the stack is asked for. -/
theorem take_eq_none_iff {s : Stack} {p : Entry → Bool} :
    s.take p = none ↔ ∀ e ∈ s.entries, p e = false := by
  simp [take]

/-- What is taken was on the stack, and was asked for. -/
theorem mem_take {s t : Stack} {p : Entry → Bool} {e : Entry} (h : s.take p = some (e, t)) :
    e ∈ s.entries ∧ p e = true := by
  simp only [take, Option.map_eq_some_iff, Prod.mk.injEq] at h
  obtain ⟨e', he', rfl, -⟩ := h
  exact ⟨List.mem_of_find?_eq_some he', List.find?_some he'⟩

/-- There is nothing to claim exactly if no entry is bound to a URI with the same target. -/
theorem claim_eq_none_iff {s : Stack} {uri : Uri} :
    s.claim uri = none ↔ ∀ e ∈ s.entries, e.sharesTarget uri = false := by
  rw [claim, Option.orElse_eq_orElse, Option.orElse_eq_or, Option.or_eq_none_iff,
    take_eq_none_iff, take_eq_none_iff]
  refine ⟨And.right, fun h => ⟨fun e he => ?_, h⟩⟩
  exact Bool.eq_false_iff.2 fun hf =>
    absurd (Entry.sharesTarget_of_isFor hf) (by simp [h e he])

/-- What was claimed was on the stack and bound to a URI with the same target. -/
theorem mem_claim {s t : Stack} {uri : Uri} {e : Entry} (h : s.claim uri = some (e, t)) :
    e ∈ s.entries ∧ e.sharesTarget uri = true := by
  rw [claim, Option.orElse_eq_orElse, Option.orElse_eq_or, Option.or_eq_some_iff] at h
  rcases h with h | ⟨-, h⟩
  · exact (mem_take h).imp_right Entry.sharesTarget_of_isFor
  · exact mem_take h

/-- The newest entry that satisfies a condition is taken, and the others stay in their order. -/
theorem take_eq_some_iff {s s' : Stack} {p : Entry → Bool} {e : Entry} :
    s.take p = some (e, s') ↔ ∃ newer older, s.entries = newer ++ e :: older ∧ p e = true ∧
      (∀ e' ∈ newer, p e' = false) ∧ s' = { s with entries := newer ++ older } := by
  constructor
  · intro h
    simp only [take, Option.map_eq_some_iff, Prod.mk.injEq] at h
    obtain ⟨e', hfind, rfl, rfl⟩ := h
    obtain ⟨hp, newer, older, hs, hnewer⟩ := List.find?_eq_some_iff_append.mp hfind
    have hnot : ∀ a ∈ newer, ¬ p a = true := by simpa using hnewer
    refine ⟨newer, older, hs, hp, fun a ha => Bool.eq_false_iff.mpr (hnot a ha), ?_⟩
    rw [hs, List.eraseP_append_right _ hnot, List.eraseP_cons_of_pos hp]
  · rintro ⟨newer, older, hs, hp, hnewer, rfl⟩
    have hnot : ∀ a ∈ newer, ¬ p a = true := fun a ha => by simp [hnewer a ha]
    have hfind : s.entries.find? p = some e :=
      List.find?_eq_some_iff_append.mpr ⟨hp, newer, older, hs, by simpa using hnewer⟩
    rw [take, hfind, Option.map_some, hs, List.eraseP_append_right _ hnot,
      List.eraseP_cons_of_pos hp]

/-- Claiming takes one entry off the stack and leaves the others in their order. -/
theorem claim_eq_some {s t : Stack} {uri : Uri} {e : Entry} (h : s.claim uri = some (e, t)) :
    ∃ newer older, s.entries = newer ++ e :: older ∧ t.entries = newer ++ older := by
  rw [claim, Option.orElse_eq_orElse, Option.orElse_eq_or, Option.or_eq_some_iff, take_eq_some_iff,
    take_eq_some_iff] at h
  rcases h with ⟨newer, older, hs, -, -, rfl⟩ | ⟨-, newer, older, hs, -, -, rfl⟩
  · exact ⟨newer, older, hs, rfl⟩
  · exact ⟨newer, older, hs, rfl⟩

/-! ### The number of entries -/

/-- A stack gets deeper by one when an entry is pushed. -/
@[simp]
theorem depth_push (s : Stack) (template : String) :
    (s.push template).depth = s.depth + 1 := rfl

/-- A stack that was cleared has no depth. -/
@[simp]
theorem depth_clear (s : Stack) : s.clear.depth = 0 := rfl

/-- A stack gets less deep by one when an entry is taken. -/
theorem depth_take {s t : Stack} {p : Entry → Bool} {e : Entry} (h : s.take p = some (e, t)) :
    t.depth + 1 = s.depth := by
  obtain ⟨hmem, hp⟩ := mem_take h
  simp only [take, Option.map_eq_some_iff, Prod.mk.injEq] at h
  obtain ⟨e', -, -, rfl⟩ := h
  simp only [depth]
  rw [List.length_eraseP_of_mem hmem hp]
  have := List.length_pos_of_mem hmem
  omega

/-- A stack gets less deep by one when an entry is claimed. -/
theorem depth_claim {s t : Stack} {uri : Uri} {e : Entry} (h : s.claim uri = some (e, t)) :
    t.depth + 1 = s.depth := by
  rw [claim, Option.orElse_eq_orElse, Option.orElse_eq_or, Option.or_eq_some_iff] at h
  rcases h with h | ⟨-, h⟩ <;> exact depth_take h

end Stack

end ExchangeMetrics.Route
