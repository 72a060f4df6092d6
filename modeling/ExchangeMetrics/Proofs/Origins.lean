import ExchangeMetrics.Exchange.Instrumentation
import ExchangeMetrics.Proofs.Program
import ExchangeMetrics.Proofs.Reading
import ExchangeMetrics.Proofs.Shape

/-!
# Routes with an origin

A route may be written with the origin to which its requests are sent: a scheme and an authority,
in front of the path and the query. The tag of such a route is to be what is left behind the origin.
Where an origin ends is looked for in two ways. A URI is read with the scheme in any letter case,
and its authority ends at a slash, at a question mark, or at the end of the text. A route is
recognised by a scheme in lower case, and its origin goes on to the next slash, wherever that is. So
the tag is the path with the query of the URI as long as the scheme is in lower case and the query,
if there is one, has a path in front of it; a scheme in upper case stays in the tag with all that
follows, and a query right behind the authority is lost up to its first slash.

## Main results

* `AbsoluteText.splitScheme_text`, `AbsoluteText.withoutOrigin_of_isLower`: where the origin ends,
  for either.
* `AbsoluteText.parts_of_parse`: an absolute text is read part by part.
* `AbsoluteText.uri_tag`: when the tag of an absolute route is the path with the query.
* `AbsoluteText.query_behind_authority`: a route that loses its query.
-/

namespace ExchangeMetrics

/-- The path of a URI with the query behind it. -/
def Uri.pathWithQuery (u : Uri) : String :=
  u.path ++ u.query.elim "" ("?" ++ ·)

/-- Characters with a slash in front, which is added if they do not begin with one. -/
def Route.slashed (cs : List Char) : List Char :=
  if cs.head? = some '/' then cs else '/' :: cs

/-- A slash in front makes a route longer by one at most. -/
theorem Route.length_slashed_le (cs : List Char) : (slashed cs).length ≤ cs.length + 1 := by
  rw [slashed]
  split
  · exact Nat.le_succ _
  · exact Nat.le_refl _

/-- A text with an origin: the scheme `http` or `https` in any letter case, `://` and an authority.
A path and a query may follow. -/
structure AbsoluteText where
  /-- The scheme as it is written. -/
  scheme : List Char
  /-- The authority. -/
  authority : List Char
  /-- The path, which may be missing. -/
  path : List Char
  /-- What stands behind the question mark, if there is one. -/
  query : Option (List Char)
  /-- The scheme is one of the two. -/
  isHttp : scheme.map Char.toLower = "http".toList ∨ scheme.map Char.toLower = "https".toList
  /-- Nothing in the authority ends it. -/
  authority_plain : ∀ c ∈ authority, Authority.isEnd c = false
  /-- A path begins with a slash. -/
  path_slash : ∀ c ∈ path.head?, c = '/'
  /-- Nothing in the path begins a query. -/
  path_plain : '?' ∉ path
  /-- No fragment begins in the path. -/
  path_whole : '#' ∉ path
  /-- Nor does one in the query. -/
  query_whole : ∀ cs ∈ query, '#' ∉ cs

namespace AbsoluteText

/-- What follows the authority. -/
def tail (t : AbsoluteText) : List Char :=
  t.path ++ t.query.elim [] ('?' :: ·)

/-- The text in one. -/
def chars (t : AbsoluteText) : List Char :=
  t.scheme ++ ':' :: '/' :: '/' :: (t.authority ++ t.tail)

/-- The text in one. -/
def text (t : AbsoluteText) : String :=
  String.ofList t.chars

/-- The scheme is written in lower case. -/
def IsLower (t : AbsoluteText) : Prop :=
  t.scheme = "http".toList ∨ t.scheme = "https".toList

/-- There is a path wherever there is a query. -/
def HasPath (t : AbsoluteText) : Prop :=
  t.path = [] → t.query = none

end AbsoluteText

/-! ### Schemes -/

section

variable {ps cs rest name scheme : List Char}

/-- A text begins with a name in any letter case exactly if what is in front of the rest is the name
in lower case. -/
theorem Uri.stripIgnoringCase_eq_some_iff :
    stripIgnoringCase ps cs = some rest ↔
      ∃ front, cs = front ++ rest ∧ front.map Char.toLower = ps := by
  induction ps generalizing cs with
  | nil => simp [stripIgnoringCase, eq_comm]
  | cons p ps ih =>
      cases cs with
      | nil => simp [stripIgnoringCase]
      | cons c cs =>
          rw [stripIgnoringCase]
          constructor
          · intro h
            split at h
            · obtain ⟨front, rfl, rfl⟩ := ih.mp h
              exact ⟨c :: front, rfl, by rw [List.map_cons, ‹c.toLower = p›]⟩
            · cases h
          · rintro ⟨front, heq, hfront⟩
            cases front with
            | nil => simp at hfront
            | cons d front =>
                obtain ⟨rfl, rfl⟩ := List.cons.inj heq
                obtain ⟨hd, hfront⟩ := List.cons.inj hfront
                rw [if_pos hd]
                exact ih.mpr ⟨front, rfl, hfront⟩

/-- A colon is a colon in any letter case. -/
theorem not_mem_of_map_toLower (h : ':' ∉ scheme.map Char.toLower) : ':' ∉ scheme :=
  fun hmem => h (List.mem_map_of_mem (f := Char.toLower) hmem)

/-- There is no colon in the first scheme. -/
theorem colon_not_mem_http : ':' ∉ "http".toList := by decide

/-- There is none in the second one. -/
theorem colon_not_mem_https : ':' ∉ "https".toList := by decide

/-- A scheme is recognised by the reader of URIs if it is the same up to letter case. -/
theorem Uri.stripIgnoringCase_scheme (hname : ':' ∉ name)
    (hscheme : ':' ∉ scheme.map Char.toLower) :
    stripIgnoringCase (name ++ "://".toList) (scheme ++ ':' :: '/' :: '/' :: rest) =
      if scheme.map Char.toLower = name then some rest else none := by
  split
  · rename_i heq
    refine stripIgnoringCase_eq_some_iff.mpr ⟨scheme ++ "://".toList, by simp, ?_⟩
    rw [List.map_append, heq]
    rfl
  · rename_i hne
    refine Option.eq_none_iff_forall_ne_some.mpr fun rest' h => hne ?_
    obtain ⟨front, heq, hfront⟩ := stripIgnoringCase_eq_some_iff.mp h
    have hlower := congrArg (List.map Char.toLower) heq
    rw [List.map_append, List.map_append, hfront, List.append_assoc] at hlower
    exact ((Template.Skeleton.append_cons_inj hscheme hname).mp hlower).1

/-- A scheme is recognised in a route if it is exactly the same. -/
theorem Route.isPrefixOf?_scheme (hname : ':' ∉ name) (hscheme : ':' ∉ scheme) :
    (name ++ "://".toList).isPrefixOf? (scheme ++ ':' :: '/' :: '/' :: rest) =
      if scheme = name then some rest else none := by
  split
  · rename_i heq
    exact List.isPrefixOf?_eq_some_iff_append_eq.mpr (by simp [heq])
  · rename_i hne
    refine Option.eq_none_iff_forall_ne_some.mpr fun rest' h => hne ?_
    have heq := List.isPrefixOf?_eq_some_iff_append_eq.mp h
    rw [List.append_assoc] at heq
    exact ((Template.Skeleton.append_cons_inj hscheme hname).mp heq.symm).1

end

namespace AbsoluteText

variable {t : AbsoluteText} {uri : Uri}

/-- The text of an absolute route is made of its characters. -/
theorem toList_text (t : AbsoluteText) : t.text.toList = t.chars :=
  String.toList_ofList

/-- There is no colon in the scheme, in any letter case. -/
theorem not_mem_lower_scheme (t : AbsoluteText) : ':' ∉ t.scheme.map Char.toLower := by
  rcases t.isHttp with h | h
  · exact h ▸ colon_not_mem_http
  · exact h ▸ colon_not_mem_https

/-- The reader of URIs finds the end of the scheme in any letter case. -/
theorem splitScheme_text (t : AbsoluteText) :
    Uri.splitScheme t.text =
      .ok (some (String.ofList (t.scheme.map Char.toLower)), t.authority ++ t.tail) := by
  have hscheme := t.not_mem_lower_scheme
  have hhttp : Uri.stripIgnoringCase "http://".toList t.chars =
      if t.scheme.map Char.toLower = "http".toList then some (t.authority ++ t.tail) else none :=
    Uri.stripIgnoringCase_scheme colon_not_mem_http hscheme
  have hhttps : Uri.stripIgnoringCase "https://".toList t.chars =
      if t.scheme.map Char.toLower = "https".toList then some (t.authority ++ t.tail) else none :=
    Uri.stripIgnoringCase_scheme colon_not_mem_https hscheme
  rw [Uri.splitScheme, toList_text]
  rcases t.isHttp with h | h
  · rw [hhttp, if_pos h, h]
    rfl
  · rw [hhttp, if_neg (by rw [h]; decide), hhttps, if_pos h, h]
    rfl

/-- An absolute route is seen to begin with the first scheme exactly if it has that scheme in lower
case. -/
theorem isPrefixOf?_http (t : AbsoluteText) : "http://".toList.isPrefixOf? t.chars =
    if t.scheme = "http".toList then some (t.authority ++ t.tail) else none :=
  Route.isPrefixOf?_scheme colon_not_mem_http (not_mem_of_map_toLower t.not_mem_lower_scheme)

/-- It is seen to begin with the second one exactly if it has that one in lower case. -/
theorem isPrefixOf?_https (t : AbsoluteText) : "https://".toList.isPrefixOf? t.chars =
    if t.scheme = "https".toList then some (t.authority ++ t.tail) else none :=
  Route.isPrefixOf?_scheme colon_not_mem_https (not_mem_of_map_toLower t.not_mem_lower_scheme)

/-- The next slash is in what follows the authority. -/
theorem dropWhile_authority (t : AbsoluteText) :
    (t.authority ++ t.tail).dropWhile (· ≠ '/') = t.tail.dropWhile (· ≠ '/') := by
  refine List.dropWhile_append_of_pos fun c hc => ?_
  have hend := t.authority_plain c hc
  simp only [Authority.isEnd, Bool.or_eq_false_iff, decide_eq_false_iff_not] at hend
  exact decide_eq_true hend.1.1

/-- A route with a scheme in lower case has its origin taken off, up to the next slash. -/
theorem withoutOrigin_of_isLower (h : t.IsLower) :
    Route.withoutOrigin t.chars = t.tail.dropWhile (· ≠ '/') := by
  rw [Route.withoutOrigin, isPrefixOf?_https, isPrefixOf?_http, ← dropWhile_authority]
  rcases h with h | h
  · rw [if_neg (by rw [h]; decide), if_pos h]
    rfl
  · rw [if_pos h]
    rfl

/-- In any other letter case the scheme is not recognised. -/
theorem withoutOrigin_of_not_isLower (h : ¬ t.IsLower) : Route.withoutOrigin t.chars = t.chars := by
  rw [Route.withoutOrigin, isPrefixOf?_https, isPrefixOf?_http,
    if_neg fun hs => h (.inr hs), if_neg fun hs => h (.inl hs)]
  rfl

/-- Both schemes begin with the same letter, in either letter case. -/
theorem exists_scheme_eq (t : AbsoluteText) :
    ∃ c cs, t.scheme = c :: cs ∧ c.toLower = 'h' := by
  have hhead : (t.scheme.map Char.toLower).head? = some 'h' := by
    rcases t.isHttp with h | h
    · rw [h]
      rfl
    · rw [h]
      rfl
  cases hscheme : t.scheme with
  | nil => simp [hscheme] at hhead
  | cons c cs => exact ⟨c, cs, rfl, by simpa [hscheme] using hhead⟩

/-- A path that is not empty begins with a slash. -/
theorem path_eq_nil_or_cons (t : AbsoluteText) : t.path = [] ∨ ∃ path, t.path = '/' :: path := by
  cases hpath : t.path with
  | nil => exact .inl rfl
  | cons c path =>
      obtain rfl : c = '/' := t.path_slash c (by rw [hpath]; rfl)
      exact .inr ⟨path, rfl⟩

/-- What follows the authority begins with a character that ends an authority. -/
theorem head?_tail (t : AbsoluteText) : ∀ c ∈ t.tail.head?, Authority.isEnd c = true := by
  intro c hc
  rcases t.path_eq_nil_or_cons with hpath | ⟨path, hpath⟩
  · cases hquery : t.query with
    | none => simp [tail, hpath, hquery] at hc
    | some query =>
        obtain rfl : '?' = c := by simpa [tail, hpath, hquery] using hc
        rfl
  · obtain rfl : '/' = c := by simpa [tail, hpath] using hc
    rfl

/-- The authority is what is read as one. -/
theorem split_authority {authority tail : List Char}
    (h : Authority.split (t.authority ++ t.tail) = .ok (authority, tail)) :
    authority = t.authority ∧ tail = t.tail := by
  obtain ⟨rfl, rfl⟩ := Authority.split_eq_ok h
  have hplain : ∀ c ∈ t.authority, (!Authority.isEnd c) = true := by
    intro c hc
    rw [t.authority_plain c hc]
    rfl
  rw [List.takeWhile_append_of_pos hplain, List.dropWhile_append_of_pos hplain]
  cases htail : t.tail with
  | nil => simp
  | cons c tail =>
      have hend : Authority.isEnd c = true := t.head?_tail c (by rw [htail]; rfl)
      simp [hend]

/-- The path and the query are what is read as them, with a slash for a path that is missing. -/
theorem pathAndQuery_tail {path : String} {query : Option String}
    (h : Uri.pathAndQuery t.tail = .ok (path, query)) :
    path = (if t.path = [] then "/" else String.ofList t.path) ∧
      query = t.query.map String.ofList := by
  have hpass := Uri.forall_not_isPathEnd t.path_plain t.path_whole
  rw [Uri.pathAndQuery, tail, List.takeWhile_append_of_pos hpass,
    List.dropWhile_append_of_pos hpass] at h
  cases hquery : t.query with
  | none =>
      simp only [hquery, Option.elim_none, List.takeWhile_nil, List.dropWhile_nil, List.append_nil,
        List.isEmpty_iff] at h
      split at h
      · cases h
      · cases h
        exact ⟨rfl, rfl⟩
  | some cs =>
      have hwhole := Template.takeWhile_of_not_mem (t.query_whole cs hquery)
      simp only [hquery, Option.elim_some] at h
      rw [List.takeWhile_cons_of_neg (by simp), List.dropWhile_cons_of_neg (by simp),
        List.append_nil] at h
      simp only [hwhole, List.isEmpty_iff] at h
      split at h
      · cases h
      · split at h
        · cases h
          exact ⟨rfl, rfl⟩
        · cases h

/-- An absolute text that is read as a URI is read part by part. -/
theorem parts_of_parse (h : Uri.parse t.text = .ok uri) :
    uri = ⟨some (String.ofList (t.scheme.map Char.toLower)), some (String.ofList t.authority),
      if t.path = [] then "/" else String.ofList t.path, t.query.map String.ofList⟩ := by
  obtain ⟨c, cs, hscheme, hc⟩ := t.exists_scheme_eq
  have hchars : t.chars = c :: (cs ++ ':' :: '/' :: '/' :: (t.authority ++ t.tail)) := by
    rw [chars, hscheme, List.cons_append]
  rcases Uri.parse_eq_ok h with ⟨hs, -⟩ | ⟨hhead, -⟩ | ⟨hone, -⟩ | hform
  · have hlength := congrArg (·.toList.length) hs
    simp [toList_text, hchars] at hlength
  · rw [toList_text, hchars] at hhead
    obtain rfl : c = '/' := by simpa using hhead
    exact absurd hc (by decide)
  · have hlength := Text.length_le_byteLength t.chars
    rw [← text, hone, hchars] at hlength
    simp at hlength
  · obtain ⟨scheme, rest, authority, tail, hsplit, hauthority, hparts⟩ :=
      Uri.parseAuthorityForm_eq_ok hform
    rw [t.splitScheme_text] at hsplit
    cases hsplit
    obtain ⟨rfl, rfl⟩ := split_authority hauthority
    rcases hparts with ⟨hnone, -⟩ | ⟨name, path, query, hname, hread, rfl⟩
    · cases hnone
    · obtain ⟨rfl, rfl⟩ := pathAndQuery_tail hread
      cases hname
      rfl

/-! ### Tags -/

/-- An absolute route is made normal by leaving out its origin and putting a slash in front. -/
theorem normal_text (t : AbsoluteText) :
    Route.normal t.text = String.ofList (Route.slashed (Route.withoutOrigin t.chars)) := by
  rw [Route.normal, toList_text]
  rfl

/-- The path of the URI with its query is what follows the authority, with a slash in front. -/
theorem pathWithQuery_of_parse (h : Uri.parse t.text = .ok uri) :
    uri.pathWithQuery = String.ofList (Route.slashed t.tail) := by
  rw [parts_of_parse h, Uri.pathWithQuery, ← String.toList_inj, String.toList_ofList, Route.slashed]
  rcases t.path_eq_nil_or_cons with hpath | ⟨path, hpath⟩
  · cases hquery : t.query <;> simp [tail, hpath, hquery]
  · cases hquery : t.query <;> simp [tail, hpath, hquery]

/-- Without a path, the query follows the authority. -/
theorem tail_of_path_nil {query : List Char} (hpath : t.path = []) (hquery : t.query = some query) :
    t.tail = '?' :: query := by
  rw [tail, hpath, hquery]
  rfl

/-- A path in front of the query begins with the next slash behind the origin. -/
theorem dropWhile_tail_of_hasPath (h : t.HasPath) : t.tail.dropWhile (· ≠ '/') = t.tail := by
  rcases t.path_eq_nil_or_cons with hpath | ⟨path, hpath⟩
  · rw [tail, hpath, h hpath]
    rfl
  · rw [tail, hpath, List.cons_append, List.dropWhile_cons_of_neg (by simp)]

/-- An absolute route does not begin with a slash, so one is put in front. -/
theorem slashed_chars (t : AbsoluteText) : Route.slashed t.chars = '/' :: t.chars := by
  obtain ⟨c, cs, hscheme, hc⟩ := t.exists_scheme_eq
  have hne : c ≠ '/' := by
    rintro rfl
    exact absurd hc (by decide)
  rw [Route.slashed, if_neg]
  rw [chars, hscheme]
  simpa using hne

/-- What follows the authority is shorter than the route. -/
theorem length_tail_lt (t : AbsoluteText) : t.tail.length < t.chars.length := by
  rw [chars]
  simp only [List.length_append, List.length_cons]
  omega

/-- If an origin is taken off with the query, or not at all, the length of what is left shows it. -/
theorem isLower_and_hasPath_of_eq
    (h : Route.slashed (Route.withoutOrigin t.chars) = Route.slashed t.tail) :
    t.IsLower ∧ t.HasPath := by
  have htail := Route.length_slashed_le t.tail
  by_cases hlower : t.IsLower
  · refine ⟨hlower, fun hpath => ?_⟩
    cases hquery : t.query with
    | none => rfl
    | some query =>
        have hslashed : Route.slashed ('?' :: query) = '/' :: '?' :: query := if_neg (by simp)
        have hrest := Route.length_slashed_le (query.dropWhile (· ≠ '/'))
        have hdrop := (List.dropWhile_sublist (· ≠ '/') (l := query)).length_le
        rw [withoutOrigin_of_isLower hlower, tail_of_path_nil hpath hquery,
          List.dropWhile_cons_of_pos (by simp), hslashed] at h
        have hlength := congrArg List.length h
        simp only [List.length_cons] at hlength
        omega
  · rw [withoutOrigin_of_not_isLower hlower, slashed_chars] at h
    have hlength := congrArg List.length h
    have hchars := t.length_tail_lt
    rw [List.length_cons] at hlength
    omega

/-- The tag of an absolute route, by a provider of the standard tags, is the path with the query of
the URI as which the route is read, if its scheme is in lower case and a path stands in front of the
query, and otherwise it is another text: all of the route with a slash in front, or what follows the
first slash in the query. -/
theorem uri_tag {σ : Type} (t : AbsoluteText) (h : Uri.parse t.text = .ok uri) (unknown : String)
    {view : RequestView} (hroute : view.route = some t.text) (reply : Reply) :
    ∃ tags, (TagsProvider.standard unknown view reply : Exec σ (Except MetricsError Tags)) =
        pure (.ok tags) ∧
      (tags.get? "uri" = some uri.pathWithQuery ↔ t.IsLower ∧ t.HasPath) ∧
      (t.IsLower → t.path = [] → ∀ query ∈ t.query,
        tags.get? "uri" = some (String.ofList (Route.slashed (query.dropWhile (· ≠ '/'))))) ∧
      (¬ t.IsLower → tags.get? "uri" = some ("/" ++ t.text)) := by
  have htag : (standardTags unknown view reply).get? "uri" =
      some (String.ofList (Route.slashed (Route.withoutOrigin t.chars))) := by
    rw [standardTags_get?, uriText, hroute, ← normal_text]
    rfl
  refine ⟨standardTags unknown view reply, rfl, ?_, fun hlower hpath query hquery => ?_,
    fun hupper => ?_⟩
  · rw [htag, pathWithQuery_of_parse h, Option.some_inj, String.ofList_inj]
    refine ⟨isLower_and_hasPath_of_eq, fun ⟨hlower, hpath⟩ => ?_⟩
    rw [withoutOrigin_of_isLower hlower, dropWhile_tail_of_hasPath hpath]
  · rw [htag, withoutOrigin_of_isLower hlower, tail_of_path_nil hpath hquery,
      List.dropWhile_cons_of_pos (by simp)]
  · rw [htag, withoutOrigin_of_not_isLower hupper, slashed_chars, String.ofList_cons]
    rfl

/-- The route of a room, with a query that has a slash in it. -/
def room : AbsoluteText where
  scheme := "https".toList
  authority := "example.com:8080".toList
  path := "/hotels/42".toList
  query := some "back=/home".toList
  isHttp := by decide
  authority_plain c hc := by
    have hnone : "example.com:8080".toList.any Authority.isEnd = false := by decide
    exact Bool.eq_false_iff.mpr (List.any_eq_false.mp hnone c hc)
  path_slash c hc := by
    have hhead : "/hotels/42".toList.head? = some '/' := by decide
    exact (Option.some.inj (hhead.symm.trans hc)).symm
  path_plain := by decide
  path_whole := by decide
  query_whole := by decide

/-- What is seen of a plain request with this route. -/
def viewWithRoute (route : String) : RequestView :=
  (RequestView.ofRequest Request.plain).withRoute (some route)

/-- The path of the room and its query stay, and the host with the port goes. -/
theorem uri_tag_room :
    Uri.parse room.text =
        .ok ⟨some "https", some "example.com:8080", "/hotels/42", some "back=/home"⟩ ∧
      (viewWithRoute room.text).route = some room.text ∧ room.IsLower ∧ room.HasPath ∧
      ∃ tags, (TagsProvider.standard "UNKNOWN" (viewWithRoute room.text) .absent :
          Exec Unit (Except MetricsError Tags)) = pure (.ok tags) ∧
        tags.get? "uri" = some "/hotels/42?back=/home" := by
  have hparse : Uri.parse room.text =
      .ok ⟨some "https", some "example.com:8080", "/hotels/42", some "back=/home"⟩ := by
    decide +kernel
  have hroute : (viewWithRoute room.text).route = some room.text := rfl
  have hlower : room.IsLower := .inr rfl
  have hpath : room.HasPath := fun h => absurd h (by decide)
  obtain ⟨tags, htags, huri, -, -⟩ := uri_tag room hparse "UNKNOWN" hroute .absent
  exact ⟨hparse, hroute, hlower, hpath, tags, htags, huri.mpr ⟨hlower, hpath⟩⟩

/-- Behind an authority without a path the query is lost up to its first slash. With a scheme in
upper case nothing is taken off the route. -/
theorem query_behind_authority :
    Uri.parse "https://example.com?next=/home" =
        .ok ⟨some "https", some "example.com", "/", some "next=/home"⟩ ∧
      Uri.pathWithQuery ⟨some "https", some "example.com", "/", some "next=/home"⟩ =
        "/?next=/home" ∧
      (standardTags "UNKNOWN" (viewWithRoute "https://example.com?next=/home") .absent).get? "uri" =
        some "/home" ∧
      Uri.parse "HTTP://example.com/a" = .ok ⟨some "http", some "example.com", "/a", none⟩ ∧
      (standardTags "UNKNOWN" (viewWithRoute "HTTP://example.com/a") .absent).get? "uri" =
        some "/HTTP://example.com/a" := by
  refine ⟨by decide +kernel, by decide +kernel, ?_, by decide +kernel, ?_⟩
  · rw [standardTags_get?]
    decide +kernel
  · rw [standardTags_get?]
    decide +kernel

end AbsoluteText

end ExchangeMetrics
