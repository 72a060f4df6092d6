import ExchangeMetrics.Exchange.Instrumentation
import ExchangeMetrics.Proofs.History
import ExchangeMetrics.Proofs.Program

/-!
# What the standard tags tell apart

Two exchanges are recorded in one series if their tags are the same. Some tags stand for something
that is missing, and they are texts like all others, as are the numbers of the statuses and the
outcomes, which are derived from them. Still nothing is mixed up: texts that stand for a missing
status are not numbers, normalised routes begin with a slash, and an error has no kind that stands
for no error. So the standard tags of two exchanges are the same exactly if the exchanges do not
differ in what is tagged, and a series sums up exactly the exchanges that are alike.

## Main results

* `standardTags_entries`: the five tags of every exchange.
* `statusText_eq_iff`, `uriText_eq_iff`: when two statuses, or two routes, have the same text.
* `RoundTrip.tags_eq_iff_alike`: when two exchanges have the same tags.
* `RoundTrip.standard_separates`: the exchanges in one series are those that are alike.
-/

namespace ExchangeMetrics

/-! ### Single tags -/

/-- What is there can be told from what is not if nothing has the text for what is missing. -/
theorem elim_eq_elim_iff {α β : Type} {missing : β} {f : α → β} {o o' : Option α}
    (h : ∀ a ∈ o, f a ≠ missing) (h' : ∀ a ∈ o', f a ≠ missing) :
    o.elim missing f = o'.elim missing f ↔ o.map f = o'.map f := by
  cases o with
  | none =>
      cases o' with
      | none => exact iff_of_true rfl rfl
      | some a' => exact iff_of_false (h' a' rfl).symm (by simp)
  | some a =>
      cases o' with
      | none => exact iff_of_false (h a rfl) (by simp)
      | some a' => exact Option.some_inj.symm

/-- A number can be read back from its digits. -/
theorem digits_injective {m n : Nat} (h : Nat.toDigits 10 m = Nat.toDigits 10 n) : m = n := by
  have hread := congrArg (Nat.ofDigitChars 10 · 0) h
  simpa only [Nat.ofDigitChars_ten_toDigits] using hread

/-- The digits of a number are not what stands in place of a status. -/
theorem digits_ne_missingStatus (n : Nat) : String.ofList (Nat.toDigits 10 n) ≠ missingStatus := by
  intro h
  have hmem : 'C' ∈ Nat.toDigits 10 n := by
    rw [← @String.toList_ofList (Nat.toDigits 10 n), h]
    decide
  have hdigit : 'C'.isDigit = true := Nat.isDigit_of_mem_toDigits (by omega) (by omega) hmem
  exact absurd hdigit (by decide)

/-- Statuses with the same text are the same. -/
theorem statusText_eq_iff {m n : Nat} : statusText m = statusText n ↔ m = n := by
  refine ⟨fun h => ?_, congrArg statusText⟩
  rw [statusText, statusText] at h
  split at h
  · split at h
    · rename_i hm hn
      exact hm.trans hn.symm
    · exact absurd h.symm (digits_ne_missingStatus n)
  · split at h
    · exact absurd h (digits_ne_missingStatus m)
    · exact digits_injective (String.ofList_inj.mp h)

/-- A normal route begins with a slash. -/
theorem Route.head?_normal (route : String) : (normal route).toList.head? = some '/' := by
  rw [normal, String.toList_ofList, normalChars]
  split
  · assumption
  · rfl

/-- Routes can be told from a text for unknown routes that does not begin with a slash. -/
theorem uriText_eq_iff {unknown : String} (hunknown : unknown.toList.head? ≠ some '/')
    {view view' : RequestView} :
    uriText unknown view = uriText unknown view' ↔
      view.route.map Route.normal = view'.route.map Route.normal := by
  have hroute : ∀ route : String, Route.normal route ≠ unknown := by
    rintro route rfl
    exact hunknown (Route.head?_normal route)
  exact elim_eq_elim_iff (fun route _ => hroute route) fun route _ => hroute route

/-- There is a response exactly if there is a status. -/
theorem Reply.isPresent_iff {reply : Reply} : reply.isPresent = true ↔ reply.statusCode ≠ 0 := by
  cases reply with
  | received status headers =>
      have hrange := status.inRange
      refine iff_of_true rfl fun h => ?_
      rw [statusCode] at h
      omega
  | absent => exact iff_of_false Bool.false_ne_true fun h => h rfl
  | failed fault => exact iff_of_false Bool.false_ne_true fun h => h rfl

/-- Methods with the same text are equal. -/
theorem Method.ext {m m' : Method} (h : m.text = m'.text) : m = m' := by
  obtain ⟨text, htext⟩ := m
  obtain ⟨text', htext'⟩ := m'
  obtain rfl : text = text' := h
  rfl

/-! ### All tags -/

/-- The five tags of every exchange, in the order of their keys: what is found under each of the
five keys is the tag, and nothing is found under any other. -/
theorem standardTags_entries (unknown : String) (view : RequestView) (reply : Reply) :
    (standardTags unknown view reply).entries =
      [⟨"exception", reply.fault?.elim noException (·.kind)⟩, ⟨"method", view.method.text⟩,
        ⟨"outcome", (Outcome.ofStatus reply.statusCode).text⟩,
        ⟨"status", statusText reply.statusCode⟩, ⟨"uri", uriText unknown view⟩] := by
  refine (standardTags unknown view reply).ascending.ext ?_ fun t => ?_
  · have hkeys : ["exception", "method", "outcome", "status", "uri"].Pairwise Text.Before := by
      decide
    exact List.pairwise_map.mp hkeys
  · obtain ⟨k, v⟩ := t
    rw [← Tags.get?_eq_some_iff, standardTags_get?]
    repeat' split
    all_goals simp_all [eq_comm]

/-- The keys of the tags are the same for all exchanges. -/
theorem standardTags_keys (unknown : String) (view : RequestView) (reply : Reply) :
    (standardTags unknown view reply).entries.map (·.key) =
      ["exception", "method", "outcome", "status", "uri"] := by
  rw [standardTags_entries]
  rfl

/-- An exchange as it is recorded. -/
structure RoundTrip where
  /-- What was seen of the request. -/
  view : RequestView
  /-- What came of it. -/
  reply : Reply
  /-- How long it took. -/
  elapsed : Duration

namespace RoundTrip

/-- The tags of an exchange. -/
def tags (unknown : String) (r : RoundTrip) : Tags :=
  standardTags unknown r.view r.reply

/-- The observation of an exchange as a registry is given it. -/
def intake (unknown : String) (timer : TimerId) (r : RoundTrip) : Intake :=
  ⟨timer, r.tags unknown, r.elapsed⟩

/-- The error of an exchange, if there is one, is not of the kind that stands for no error. -/
def IsNamed (r : RoundTrip) : Prop :=
  ∀ fault ∈ r.reply.fault?, fault.kind ≠ noException

instance (r : RoundTrip) : Decidable r.IsNamed :=
  inferInstanceAs (Decidable (∀ fault ∈ r.reply.fault?, fault.kind ≠ noException))

/-- Two exchanges do not differ in anything that is tagged. -/
structure Alike (r r' : RoundTrip) : Prop where
  /-- The methods are the same. -/
  method : r.view.method = r'.view.method
  /-- Both have no route, or routes that are the same once they are normalised. -/
  route : r.view.route.map Route.normal = r'.view.route.map Route.normal
  /-- Both have a response, or none. -/
  response : r.reply.isPresent = r'.reply.isPresent
  /-- The responses, if there are any, have the same status. -/
  status : r.reply.statusCode = r'.reply.statusCode
  /-- Both have no error, or errors of the same kind. -/
  kind : r.reply.fault?.map (·.kind) = r'.reply.fault?.map (·.kind)

instance (r r' : RoundTrip) : Decidable (r.Alike r') :=
  decidable_of_iff
    (r.view.method = r'.view.method ∧
      r.view.route.map Route.normal = r'.view.route.map Route.normal ∧
      r.reply.isPresent = r'.reply.isPresent ∧ r.reply.statusCode = r'.reply.statusCode ∧
      r.reply.fault?.map (·.kind) = r'.reply.fault?.map (·.kind))
    ⟨fun ⟨hmethod, hroute, hresponse, hstatus, hkind⟩ =>
        ⟨hmethod, hroute, hresponse, hstatus, hkind⟩,
      fun h => ⟨h.method, h.route, h.response, h.status, h.kind⟩⟩

variable {unknown : String} {timer : TimerId} {r r' : RoundTrip} {rs : List RoundTrip}

/-- The outcome tells nothing that the status does not tell. -/
theorem tags_eq_iff :
    r.tags unknown = r'.tags unknown ↔
      r.view.method.text = r'.view.method.text ∧ uriText unknown r.view = uriText unknown r'.view ∧
        statusText r.reply.statusCode = statusText r'.reply.statusCode ∧
        r.reply.fault?.elim noException (·.kind) = r'.reply.fault?.elim noException (·.kind) := by
  constructor
  · intro h
    have hentries := congrArg Tags.entries h
    rw [tags, tags, standardTags_entries, standardTags_entries] at hentries
    simp only [List.cons.injEq, Tag.mk.injEq, true_and, and_true] at hentries
    obtain ⟨hkind, hmethod, -, hstatus, huri⟩ := hentries
    exact ⟨hmethod, huri, hstatus, hkind⟩
  · rintro ⟨hmethod, huri, hstatus, hkind⟩
    rw [tags, tags, standardTags, standardTags, hmethod, huri, hkind, statusText_eq_iff.mp hstatus]

/-- Exchanges have the same tags exactly if they do not differ in anything that is tagged. -/
theorem tags_eq_iff_alike (hunknown : unknown.toList.head? ≠ some '/') (h : r.IsNamed)
    (h' : r'.IsNamed) : r.tags unknown = r'.tags unknown ↔ r.Alike r' := by
  rw [tags_eq_iff, uriText_eq_iff hunknown, statusText_eq_iff, elim_eq_elim_iff h h']
  constructor
  · rintro ⟨hmethod, hroute, hstatus, hkind⟩
    have hresponse : r.reply.isPresent = r'.reply.isPresent := by
      rw [Bool.eq_iff_iff, Reply.isPresent_iff, Reply.isPresent_iff, hstatus]
    exact ⟨Method.ext hmethod, hroute, hresponse, hstatus, hkind⟩
  · intro h
    exact ⟨congrArg Method.text h.method, h.route, h.status, h.kind⟩

/-! ### Series -/

/-- The series in which an exchange is recorded, among others that were recorded with the same
timer, the newest of them first. -/
def series? (unknown : String) (timer : TimerId) (rs : List RoundTrip) (r : RoundTrip) :
    Option Series :=
  (TimerStore.empty.taking (rs.map (·.intake unknown timer))).series? timer.name (r.tags unknown)

/-- The observations in the series of an exchange are those of the exchanges that are like it. -/
theorem filter_isOf_intake (hunknown : unknown.toList.head? ≠ some '/')
    (hnamed : ∀ r ∈ rs, r.IsNamed) (hr : r.IsNamed) :
    (rs.map (·.intake unknown timer)).filter (·.isOf timer.name (r.tags unknown)) =
      (rs.filter (r.Alike ·)).map (·.intake unknown timer) := by
  rw [List.filter_map]
  refine congrArg _ (List.filter_congr fun r' hr' => ?_)
  rw [Function.comp_apply, Bool.eq_iff_iff, Intake.isOf_iff, decide_eq_true_eq,
    ← tags_eq_iff_alike hunknown hr (hnamed r' hr')]
  exact ⟨fun h => h.2.symm, fun h => ⟨rfl, h.symm⟩⟩

/-- The series of an exchange sums up the exchanges that are like it. -/
theorem exists_series? (timer : TimerId) (hunknown : unknown.toList.head? ≠ some '/')
    (hnamed : ∀ r ∈ rs, r.IsNamed) (hr : r ∈ rs) :
    ∃ s, series? unknown timer rs r = some s ∧
      s.Summarises ((rs.filter (r.Alike ·)).map (·.intake unknown timer)) := by
  have hself : r.Alike r := ⟨rfl, rfl, rfl, rfl, rfl⟩
  rw [series?, TimerStore.series?_taking_empty, filter_isOf_intake hunknown hnamed (hnamed r hr)]
  refine Series.summarises_summary fun hnil => ?_
  have hmem : r ∈ rs.filter (r.Alike ·) := List.mem_filter.mpr ⟨hr, decide_eq_true hself⟩
  rw [List.map_eq_nil_iff.mp hnil] at hmem
  exact List.not_mem_nil hmem

/-- Recorded exchanges are in one series exactly if they are alike. -/
theorem series?_eq_iff_alike (hunknown : unknown.toList.head? ≠ some '/')
    (hnamed : ∀ r ∈ rs, r.IsNamed) (hr : r ∈ rs) (hr' : r' ∈ rs) :
    series? unknown timer rs r = series? unknown timer rs r' ↔ r.Alike r' := by
  rw [← tags_eq_iff_alike hunknown (hnamed r hr) (hnamed r' hr')]
  refine ⟨fun h => ?_, fun h => by rw [series?, series?, h]⟩
  obtain ⟨s, hs, -⟩ := exists_series? timer hunknown hnamed hr
  obtain ⟨-, -, htags⟩ := TimerStore.mem_series_of_series? hs
  obtain ⟨-, -, htags'⟩ := TimerStore.mem_series_of_series? (h.symm.trans hs)
  exact htags.symm.trans htags'

/-- A provider of the standard tags derives five tags from every view and every reply. If its text
for unknown routes does not begin with a slash, and no error is of the kind that stands for none,
then exchanges have the same tags exactly if they are alike, and of all exchanges that are recorded,
those that are alike make up one series. -/
theorem standard_separates {σ : Type} (unknown : String) :
    (∀ view reply, (TagsProvider.standard unknown view reply : Exec σ (Except MetricsError Tags)) =
        pure (.ok (standardTags unknown view reply)) ∧
      (standardTags unknown view reply).entries.map (·.key) =
        ["exception", "method", "outcome", "status", "uri"]) ∧
    (unknown.toList.head? ≠ some '/' →
      (∀ r r' : RoundTrip, r.IsNamed → r'.IsNamed →
        (standardTags unknown r.view r.reply = standardTags unknown r'.view r'.reply ↔
          r.Alike r')) ∧
      ∀ timer rs, (∀ r ∈ rs, r.IsNamed) → ∀ r ∈ rs,
        (∀ r' ∈ rs, series? unknown timer rs r = series? unknown timer rs r' ↔ r.Alike r') ∧
        ∃ s, series? unknown timer rs r = some s ∧
          s.Summarises ((rs.filter (r.Alike ·)).map (·.intake unknown timer))) := by
  refine ⟨fun view reply => ⟨rfl, standardTags_keys unknown view reply⟩, fun hunknown => ⟨?_, ?_⟩⟩
  · intro r r' h h'
    exact tags_eq_iff_alike hunknown h h'
  · intro timer rs hnamed r hr
    exact ⟨fun r' hr' => series?_eq_iff_alike hunknown hnamed hr hr',
      exists_series? timer hunknown hnamed hr⟩

/-- A plain request with the route of a hotel, and what came of it. -/
def stay (route : String) (reply : Reply) : RoundTrip where
  view := (RequestView.ofRequest Request.plain).withRoute (some route)
  reply := reply
  elapsed := .zero

/-- Two spellings of a route are recorded in one series, and a time-out in another one. -/
theorem standard_separates_stays :
    let origin := stay "https://example.com/hotels/\x7bhotel\x7d" (.received ⟨200, by decide⟩ {})
    let bare := stay "hotels/\x7bhotel\x7d" (.received ⟨200, by decide⟩ {})
    let late := stay "hotels/\x7bhotel\x7d" (.failed ⟨"Timeout", "too late"⟩)
    let timer : TimerId := { name := "http.client.requests" }
    unknownUri.toList.head? ≠ some '/' ∧ (∀ r ∈ [late, bare, origin], r.IsNamed) ∧
      origin.tags unknownUri = bare.tags unknownUri ∧
      bare.tags unknownUri ≠ late.tags unknownUri ∧
      ∃ s, series? unknownUri timer [late, bare, origin] bare = some s ∧ s.count = 2 := by
  intro origin bare late timer
  have hunknown : unknownUri.toList.head? ≠ some '/' := by decide
  have hnamed : ∀ r ∈ [late, bare, origin], r.IsNamed := by decide +kernel
  have hbare : bare ∈ [late, bare, origin] := by simp
  obtain ⟨-, hseparates⟩ := standard_separates (σ := Unit) unknownUri
  obtain ⟨htags, hseries⟩ := hseparates hunknown
  obtain ⟨s, hs, hsum⟩ := (hseries timer _ hnamed bare hbare).2
  refine ⟨hunknown, hnamed, ?_, ?_, s, hs, ?_⟩
  · exact (htags origin bare (hnamed _ (by simp)) (hnamed _ hbare)).mpr (by decide +kernel)
  · exact mt (htags bare late (hnamed _ hbare) (hnamed _ (by simp))).mp (by decide +kernel)
  · rw [hsum.count]
    decide +kernel

end RoundTrip

end ExchangeMetrics
