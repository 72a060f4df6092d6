import Mathlib.Data.List.Basic
import ExchangeMetrics.Route.Stack

/-!
# In which order entries are claimed

Every claim for a URI takes the entry that suits it best. So claims for one URI, made one after the
other, take the entries of the stack in an order that was fixed from the beginning: what is
taken does not change how the others are preferred. What nobody took stays where it was.

## Main results

* `Stack.claim_eq`: a claim takes the first entry in the order of preference.
* `Stack.order_afterClaim`: which leaves the order of the others as it was.
* `Stack.claim_afterClaims`, `Stack.afterClaims_eq`: any number of claims for one URI.
-/

namespace ExchangeMetrics.Route

section

variable {α : Type} [DecidableEq α] {p : α → Bool} {l : List α} {a : α}

/-- Taking out the first element that satisfies a condition is taking out the element that is
found first. -/
theorem eraseP_eq_erase (h : l.find? p = some a) : l.eraseP p = l.erase a := by
  obtain ⟨hp, newer, older, rfl, hnewer⟩ := List.find?_eq_some_iff_append.1 h
  have hnot : ∀ b ∈ newer, ¬ p b = true := by simpa using hnewer
  have ha : a ∉ newer := fun hmem => hnot a hmem hp
  rw [List.eraseP_append_right _ hnot, List.eraseP_cons_of_pos hp, List.erase_append_right _ ha,
    List.erase_cons_head]

end

namespace Stack

/-- The entries that claims for a URI can take, in the order in which they are preferred: those
that are bound to an equal URI, the newest first, and then the others that are bound to a URI with
the same target, the newest first. -/
def order (s : Stack) (uri : Uri) : List Entry :=
  s.entries.filter (·.isFor uri) ++
    s.entries.filter fun e => e.sharesTarget uri && !e.isFor uri

/-- The stack after a claim for a URI. -/
def afterClaim (s : Stack) (uri : Uri) : Stack :=
  ((s.claim uri).map (·.2)).getD s

/-- The stack after so many claims for a URI. -/
def afterClaims (s : Stack) (uri : Uri) : Nat → Stack
  | 0 => s
  | n + 1 => (s.afterClaim uri).afterClaims uri n

/-- The newest of the entries asked for is taken, and the others stay as they are. -/
theorem take_eq (s : Stack) (p : Entry → Bool) :
    s.take p = (s.entries.filter p).head?.map fun e =>
      (e, { s with entries := s.entries.erase e }) := by
  rw [take, List.head?_filter]
  cases hfind : s.entries.find? p with
  | none => rfl
  | some e => rw [Option.map_some, Option.map_some, eraseP_eq_erase hfind]

/-- If no entry is bound to an equal URI, all that share the target are left to choose from. -/
theorem filter_sharesTarget_of_nil {s : Stack} {uri : Uri}
    (h : s.entries.filter (·.isFor uri) = []) :
    (s.entries.filter fun e => e.sharesTarget uri && !e.isFor uri) =
      s.entries.filter (·.sharesTarget uri) := by
  refine List.filter_congr fun e he => ?_
  rw [Bool.eq_false_iff.2 (List.filter_eq_nil_iff.1 h e he), Bool.not_false, Bool.and_true]

/-- A claim takes the entry that is preferred to all others. -/
theorem claim_eq (s : Stack) (uri : Uri) :
    s.claim uri = (s.order uri).head?.map fun e =>
      (e, { s with entries := s.entries.erase e }) := by
  rw [claim, Option.orElse_eq_orElse, Option.orElse_eq_or, take_eq, take_eq, order,
    List.head?_append]
  cases hexact : s.entries.filter (·.isFor uri) with
  | cons e exact => rfl
  | nil =>
      rw [filter_sharesTarget_of_nil hexact, List.head?_nil, Option.map_none, Option.none_or,
        Option.none_or]

/-- Without an entry, the others are preferred as before. -/
theorem order_erase (s : Stack) (uri : Uri) (e : Entry) :
    order { s with entries := s.entries.erase e } uri =
      (s.entries.filter (·.isFor uri)).erase e ++
        (s.entries.filter fun e => e.sharesTarget uri && !e.isFor uri).erase e := by
  rw [order, List.erase_filter, List.erase_filter]

/-- Taking the entry that is preferred to all others leaves the order of the others. -/
theorem order_erase_head {s : Stack} {uri : Uri} {e : Entry} {rest : List Entry}
    (h : s.order uri = e :: rest) :
    order { s with entries := s.entries.erase e } uri = rest := by
  rw [order_erase]
  rw [order] at h
  cases hexact : s.entries.filter (·.isFor uri) with
  | cons e' exact =>
      rw [hexact, List.cons_append] at h
      obtain ⟨rfl, rfl⟩ := List.cons.inj h
      have hmem : e' ∈ s.entries.filter (·.isFor uri) := hexact ▸ List.mem_cons_self
      have hfor : e'.isFor uri = true := (List.mem_filter.1 hmem).2
      have hnot : e' ∉ s.entries.filter fun e => e.sharesTarget uri && !e.isFor uri := by
        simp [hfor]
      rw [List.erase_cons_head, List.erase_of_not_mem hnot]
  | nil =>
      rw [hexact, List.nil_append] at h
      rw [h, List.erase_nil, List.nil_append, List.erase_cons_head]

/-- A claim does not change how the entries that it leaves are preferred. -/
theorem order_afterClaim (s : Stack) (uri : Uri) :
    (s.afterClaim uri).order uri = (s.order uri).tail := by
  rw [afterClaim, claim_eq]
  cases horder : s.order uri with
  | nil => exact horder
  | cons e rest => exact order_erase_head horder

/-- The entry that is taken by a claim after so many others for the same URI. -/
theorem claim_afterClaims (s : Stack) (uri : Uri) (n : Nat) :
    ((s.afterClaims uri n).claim uri).map (·.1) = (s.order uri)[n]? := by
  induction n generalizing s with
  | zero =>
      rw [afterClaims, claim_eq, Option.map_map, List.head?_eq_getElem?]
      exact Option.map_id_apply
  | succ n ih => rw [afterClaims, ih, order_afterClaim, List.getElem?_tail]

/-- So many claims for a URI take the entries that are preferred, and leave the others in their
order. -/
theorem afterClaims_eq (s : Stack) (uri : Uri) (n : Nat) :
    s.afterClaims uri n = { s with entries := s.entries.diff ((s.order uri).take n) } := by
  induction n generalizing s with
  | zero => rfl
  | succ n ih =>
      rw [afterClaims, ih, order_afterClaim, afterClaim, claim_eq]
      cases s.order uri with
      | nil =>
          rw [List.tail_nil, List.take_nil, List.take_nil]
          rfl
      | cons e rest =>
          rw [List.tail_cons, List.take_succ_cons, List.diff_cons]
          rfl

end Stack

end ExchangeMetrics.Route
