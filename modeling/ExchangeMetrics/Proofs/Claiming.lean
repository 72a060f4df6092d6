import ExchangeMetrics.Proofs.Preference
import ExchangeMetrics.Route.Capture

/-!
# Which entry is claimed

A claim for a URI looks through the whole route stack twice: first for an entry that is bound to
an equal URI, then for one that is bound to a URI with the same target, each time from the newest
entry to the oldest. So an entry for the very URI is taken however deep it lies, also from below
newer entries that differ from it in the query only, and an entry without a URI is never taken.

`Claims` says this without saying how entries are looked for, and in terms of the parts of URIs.

## Main results

* `Stack.claim_eq_some_iff`: which of the two searches finds an entry.
* `Stack.claims_of_claim`, `Stack.Claims.eq`: a claim does what `Claims` says, and nothing else.
* `Route.claims_newest`: what a claim answers, and how it leaves the thread.
-/

namespace ExchangeMetrics.Route

/-! ### Entries that suit a URI -/

namespace Entry

variable {e : Entry} {uri : Uri}

/-- An entry is bound to a URI that has the scheme, the authority and the path of another one;
letter case counts in the path only. -/
def HasTarget (e : Entry) (uri : Uri) : Prop :=
  ∃ u, e.uri = some u ∧ Uri.samePart u.scheme uri.scheme = true ∧
    Uri.samePart u.authority uri.authority = true ∧ u.path = uri.path

/-- An entry is bound to a URI that has the query of another one as well. -/
def HasUri (e : Entry) (uri : Uri) : Prop :=
  ∃ u, e.uri = some u ∧ Uri.samePart u.scheme uri.scheme = true ∧
    Uri.samePart u.authority uri.authority = true ∧ u.path = uri.path ∧ u.query = uri.query

/-- Whether an entry shares a target is decided as it is stated. -/
theorem sharesTarget_eq_true_iff : e.sharesTarget uri = true ↔ e.HasTarget uri := by
  rw [sharesTarget, HasTarget]
  cases e.uri with
  | none => simp
  | some u => simp [Uri.sameTarget, and_assoc]

/-- Whether an entry is for a URI is decided as it is stated. -/
theorem isFor_eq_true_iff : e.isFor uri = true ↔ e.HasUri uri := by
  rw [isFor, HasUri]
  cases e.uri with
  | none => simp
  | some u => simp [Uri.equal, Uri.sameTarget, and_assoc]

end Entry

namespace Stack

/-- What a claim for a URI may answer on a stack, and which stack it then leaves. -/
inductive Claims (s : Stack) (uri : Uri) : Option Entry → Stack → Prop where
  /-- Nothing is taken if there is no entry with the target. -/
  | nothing (h : ∀ e ∈ s.entries, ¬ e.HasTarget uri) : Claims s uri none s
  /-- The newest entry for the URI is taken, whatever newer ones have its target. -/
  | exact {newer older : List Entry} {e : Entry} (hs : s.entries = newer ++ e :: older)
      (he : e.HasUri uri) (hnewer : ∀ e' ∈ newer, ¬ e'.HasUri uri) :
      Claims s uri (some e) { s with entries := newer ++ older }
  /-- If there is none for the URI, the newest entry with the target is taken. -/
  | similar {newer older : List Entry} {e : Entry} (hs : s.entries = newer ++ e :: older)
      (he : e.HasTarget uri) (hnewer : ∀ e' ∈ newer, ¬ e'.HasTarget uri)
      (hnone : ∀ e' ∈ s.entries, ¬ e'.HasUri uri) :
      Claims s uri (some e) { s with entries := newer ++ older }

section

variable {s s' : Stack} {uri : Uri} {e : Entry} {answer : Option Entry}

/-- A claim takes an entry for the URI, or if there is none, one with its target. -/
theorem claim_eq_some_iff :
    s.claim uri = some (e, s') ↔ s.take (·.isFor uri) = some (e, s') ∨
      (∀ e' ∈ s.entries, ¬ e'.HasUri uri) ∧ s.take (·.sharesTarget uri) = some (e, s') := by
  rw [claim, Option.orElse_eq_orElse, Option.orElse_eq_or, Option.or_eq_some_iff, take_eq_none_iff]
  simp only [Bool.eq_false_iff, ne_eq, Entry.isFor_eq_true_iff]

/-- Nothing is claimed exactly if no entry has the target. -/
theorem claim_eq_none_iff_hasTarget :
    s.claim uri = none ↔ ∀ e ∈ s.entries, ¬ e.HasTarget uri := by
  rw [claim_eq_none_iff]
  simp only [Bool.eq_false_iff, ne_eq, Entry.sharesTarget_eq_true_iff]

/-- A claim answers and leaves what `Claims` says. -/
theorem claims_of_claim : Claims s uri ((s.claim uri).map (·.1)) (s.afterClaim uri) := by
  rw [afterClaim]
  cases h : s.claim uri with
  | none => exact .nothing (claim_eq_none_iff_hasTarget.mp h)
  | some taken =>
      obtain ⟨e, s'⟩ := taken
      rcases claim_eq_some_iff.mp h with h | ⟨hnone, h⟩
      · obtain ⟨newer, older, hs, he, hnewer, rfl⟩ := take_eq_some_iff.mp h
        refine .exact hs (Entry.isFor_eq_true_iff.mp he) fun e' he' hfor => ?_
        rw [← Entry.isFor_eq_true_iff, hnewer e' he'] at hfor
        cases hfor
      · obtain ⟨newer, older, hs, he, hnewer, rfl⟩ := take_eq_some_iff.mp h
        refine .similar hs (Entry.sharesTarget_eq_true_iff.mp he) (fun e' he' hshares => ?_) hnone
        rw [← Entry.sharesTarget_eq_true_iff, hnewer e' he'] at hshares
        cases hshares

/-- And what `Claims` says is all that a claim can answer and leave. -/
theorem Claims.eq (h : Claims s uri answer s') :
    answer = (s.claim uri).map (·.1) ∧ s' = s.afterClaim uri := by
  rw [afterClaim]
  cases h with
  | nothing hnone =>
      rw [claim_eq_none_iff_hasTarget.mpr hnone]
      exact ⟨rfl, rfl⟩
  | @exact newer older e hs he hnewer =>
      have htake : s.take (·.isFor uri) = some (e, { s with entries := newer ++ older }) := by
        refine take_eq_some_iff.mpr ⟨newer, older, hs, Entry.isFor_eq_true_iff.mpr he, ?_, rfl⟩
        exact fun e' he' => Bool.eq_false_iff.mpr (mt Entry.isFor_eq_true_iff.mp (hnewer e' he'))
      rw [claim_eq_some_iff.mpr (.inl htake)]
      exact ⟨rfl, rfl⟩
  | @similar newer older e hs he hnewer hnone =>
      have htake : s.take (·.sharesTarget uri) =
          some (e, { s with entries := newer ++ older }) := by
        refine take_eq_some_iff.mpr
          ⟨newer, older, hs, Entry.sharesTarget_eq_true_iff.mpr he, fun e' he' => ?_, rfl⟩
        exact Bool.eq_false_iff.mpr (mt Entry.sharesTarget_eq_true_iff.mp (hnewer e' he'))
      rw [claim_eq_some_iff.mpr (.inr ⟨hnone, htake⟩)]
      exact ⟨rfl, rfl⟩

end

end Stack

/-! ### Claims of a thread -/

section

variable {σ : Type}

/-- The run of a claim: it answers with the template of what is taken off the stack. -/
theorem run_claim (uri : Uri) (c : Context) (w : World σ) :
    (claim uri : Exec σ (Option String)).run c w =
      (.returned (((w.thread c.thread).routes.claim uri).map (·.1.template)),
        (w.setThread c.thread
          { w.thread c.thread with routes := (w.thread c.thread).routes.afterClaim uri }).note
            c.thread (.claimed uri (((w.thread c.thread).routes.claim uri).map (·.1)))) := by
  rw [claim, Exec.onThread, Exec.run_atomically, Stack.afterClaim]
  cases (w.thread c.thread).routes.claim uri with
  | none => rfl
  | some taken => rfl

/-- A claim takes the newest entry for the URI off the stack of its thread, wherever it lies; if
there is none, the newest entry with the target; and if there is none of these either, it answers
with nothing and leaves the stack as it is. The answer is the template of what was taken. Nothing
else can come of a claim, and nothing else changes on the thread or on any other one. -/
theorem claims_newest (uri : Uri) (c : Context) (w : World σ) :
    ∃ taken routes, Stack.Claims (w.thread c.thread).routes uri taken routes ∧
      (∀ taken' routes', Stack.Claims (w.thread c.thread).routes uri taken' routes' →
        taken' = taken ∧ routes' = routes) ∧
      (taken = none ↔ ∀ e ∈ (w.thread c.thread).routes.entries, ¬ e.HasTarget uri) ∧
      (claim uri : Exec σ (Option String)).run c w =
        (.returned (taken.map Entry.template),
          (w.setThread c.thread { w.thread c.thread with routes := routes }).note c.thread
            (.claimed uri taken)) := by
  refine ⟨_, _, Stack.claims_of_claim, fun taken' routes' h => h.eq, ?_, ?_⟩
  · rw [Option.map_eq_none_iff, Stack.claim_eq_none_iff_hasTarget]
  · rw [run_claim, Option.map_map]
    rfl

end

/-- Of two entries for a path the one with the query that is asked for is taken, although it is the
older one; when it is gone, the other one is taken in its place. -/
example :
    let page (number : String) : Uri := ⟨some "http", some "example.com", "/rooms", some number⟩
    let s : Stack := { entries := [⟨1, "/rooms?new", some (page "2")⟩,
      ⟨0, "/rooms?old", some (page "1")⟩], next := 2 }
    ((s.claim (page "1")).map (·.1.template) = some "/rooms?old") ∧
      ((s.afterClaim (page "1")).claim (page "1")).map (·.1.template) = some "/rooms?new" := by
  decide +kernel

end ExchangeMetrics.Route
