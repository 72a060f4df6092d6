import ExchangeMetrics.Proofs.Origins
import ExchangeMetrics.Proofs.Separation
import Mathlib.Data.List.TakeWhile

/-!
# Spellings of a route

A route may be written as a path, as a path behind an origin, as an origin with nothing behind it,
and as a path without its slash. `Spells` lists these spellings and says of which path each one is,
without saying how that is found out. Normalising a route gives the path that it is a spelling of,
and nothing else: every route is a spelling of exactly one path, and a path is a spelling of itself,
whatever it contains, be it braces, further slashes or something that looks like an origin.

So routes are recorded under one text exactly if they are spellings of one path.

## Main results

* `Route.withoutOrigin_append`, `Route.withoutOrigin_of_not_hasScheme`: what is taken off a route.
* `Route.normal_eq_iff_spells`: normalising gives the path that is spelled.
* `Route.normal_respects_spelling`: normalised routes, and the tags of exchanges with such routes.
-/

namespace ExchangeMetrics.Route

/-- The schemes by which an origin is recognised. -/
def schemes : List String := ["https://", "http://"]

/-- An origin: one of the schemes and an authority, which has no slash in it. -/
structure Origin where
  /-- The scheme. -/
  scheme : String
  /-- The authority, which may be empty. -/
  authority : String
  /-- The scheme is one of the two. -/
  isKnown : scheme ∈ schemes
  /-- The first slash behind the scheme ends the authority. -/
  authority_plain : '/' ∉ authority.toList

/-- The origin as it is written. -/
def Origin.text (o : Origin) : String :=
  o.scheme ++ o.authority

/-- A text begins with a slash. -/
def IsPath (path : String) : Prop :=
  path.toList.head? = some '/'

/-- A route begins with one of the schemes. -/
def HasScheme (route : String) : Prop :=
  ∃ scheme ∈ schemes, scheme.toList <+: route.toList

/-- A route is a spelling of a path. -/
inductive Spells : String → String → Prop where
  /-- A path is a spelling of itself. -/
  | path {path : String} (h : IsPath path) : Spells path path
  /-- An origin may be written in front of it. -/
  | absolute (o : Origin) {path : String} (h : IsPath path) : Spells (o.text ++ path) path
  /-- With nothing behind it an origin stands for its root. -/
  | root (o : Origin) : Spells o.text "/"
  /-- What is neither a path nor has an origin lacks its slash. -/
  | relative {route : String} (hpath : ¬ IsPath route) (hscheme : ¬ HasScheme route) :
      Spells route ("/" ++ route)

/-! ### Taking off the origin -/

section

variable {scheme route path : String} {rest : List Char}

/-- There are two schemes. -/
theorem schemes_cases (h : scheme ∈ schemes) : scheme = "https://" ∨ scheme = "http://" := by
  simpa [schemes] using h

/-- Behind a scheme, a route goes on at the next slash. -/
theorem withoutOrigin_append (h : scheme ∈ schemes) (rest : List Char) :
    withoutOrigin (scheme.toList ++ rest) = rest.dropWhile (· ≠ '/') := by
  have hself : scheme.toList.isPrefixOf? (scheme.toList ++ rest) = some rest :=
    List.isPrefixOf?_eq_some_iff_append_eq.mpr rfl
  rcases schemes_cases h with rfl | rfl
  · rw [withoutOrigin, hself]
    rfl
  · have hother : "https://".toList.isPrefixOf? ("http://".toList ++ rest) = none := rfl
    rw [withoutOrigin, hother, hself]
    rfl

/-- Without a scheme there is nothing to take off. -/
theorem withoutOrigin_of_not_hasScheme (h : ¬ HasScheme route) :
    withoutOrigin route.toList = route.toList := by
  have hnone : ∀ scheme ∈ schemes, scheme.toList.isPrefixOf? route.toList = none := by
    intro scheme hscheme
    refine Option.eq_none_iff_forall_ne_some.mpr fun rest hrest => ?_
    exact h ⟨scheme, hscheme, rest, List.isPrefixOf?_eq_some_iff_append_eq.mp hrest⟩
  rw [withoutOrigin, hnone "https://" (by simp [schemes]), hnone "http://" (by simp [schemes])]
  rfl

/-- A route is made normal in two steps: the origin is taken off, and a slash put in front. -/
theorem normal_eq_slashed (route : String) :
    normal route = String.ofList (slashed (withoutOrigin route.toList)) := rfl

/-- A path has no scheme. -/
theorem IsPath.not_hasScheme (h : IsPath path) : ¬ HasScheme path := by
  rintro ⟨scheme, hscheme, rest, hrest⟩
  rw [IsPath, ← hrest] at h
  rcases schemes_cases hscheme with rfl | rfl
  · simp at h
  · simp at h

end

/-! ### What normalising gives -/

section

variable {route path : String}

/-- No slash is added to a path. -/
theorem ofList_slashed (h : IsPath path) : String.ofList (slashed path.toList) = path := by
  rw [IsPath] at h
  rw [slashed, if_pos h, String.ofList_toList]

/-- A path is normalised. -/
theorem normal_of_isPath (h : IsPath path) : normal path = path := by
  rw [normal_eq_slashed, withoutOrigin_of_not_hasScheme h.not_hasScheme, ofList_slashed h]

/-- A route without a slash or a scheme in front gets a slash. -/
theorem normal_of_relative (hpath : ¬ IsPath route) (hscheme : ¬ HasScheme route) :
    normal route = "/" ++ route := by
  rw [IsPath] at hpath
  rw [normal_eq_slashed, withoutOrigin_of_not_hasScheme hscheme, slashed, if_neg hpath,
    String.ofList_cons, String.ofList_toList]
  rfl

/-- The next slash behind a scheme is behind the authority. -/
theorem Origin.withoutOrigin_text_append (o : Origin) (path : String) :
    withoutOrigin (o.text ++ path).toList = path.toList.dropWhile (· ≠ '/') := by
  have hplain : ∀ c ∈ o.authority.toList, decide (c ≠ '/') = true := by
    intro c hc
    refine decide_eq_true ?_
    rintro rfl
    exact o.authority_plain hc
  rw [Origin.text, String.toList_append, String.toList_append, List.append_assoc,
    withoutOrigin_append o.isKnown, List.dropWhile_append_of_pos hplain]

/-- Of an origin with a path the path is left. -/
theorem normal_of_absolute (o : Origin) (h : IsPath path) : normal (o.text ++ path) = path := by
  have hdrop : path.toList.dropWhile (· ≠ '/') = path.toList := by
    obtain ⟨cs, hcs⟩ := List.head?_eq_some_iff.mp h
    rw [hcs, List.dropWhile_cons_of_neg (by simp)]
  rw [normal_eq_slashed, o.withoutOrigin_text_append, hdrop, ofList_slashed h]

/-- Of an origin alone the root is left. -/
theorem normal_of_root (o : Origin) : normal o.text = "/" := by
  have htext := o.withoutOrigin_text_append ""
  rw [String.append_empty] at htext
  rw [normal_eq_slashed, htext]
  rfl

/-- Characters can be cut at the first slash. -/
theorem exists_cut (cs : List Char) :
    ∃ authority path, cs = authority ++ path ∧ '/' ∉ authority ∧
      (path = [] ∨ path.head? = some '/') := by
  refine ⟨cs.takeWhile (· ≠ '/'), cs.dropWhile (· ≠ '/'), ?_, fun hmem => ?_, ?_⟩
  · exact List.takeWhile_append_dropWhile.symm
  · simpa using List.mem_takeWhile_imp hmem
  · have hhead := List.head?_dropWhile_not (· ≠ '/') cs
    cases hdrop : cs.dropWhile (· ≠ '/') with
    | nil => exact .inl rfl
    | cons c rest =>
        rw [hdrop] at hhead
        exact .inr (by simpa using hhead)

/-- A route with a scheme has an origin, and behind it a path or nothing. -/
theorem HasScheme.exists_origin (h : HasScheme route) :
    ∃ o : Origin, route = o.text ∨ ∃ path, IsPath path ∧ route = o.text ++ path := by
  obtain ⟨scheme, hscheme, rest, hrest⟩ := h
  obtain ⟨authority, path, rfl, hplain, hpath⟩ := exists_cut rest
  let o : Origin := ⟨scheme, String.ofList authority, hscheme, by rwa [String.toList_ofList]⟩
  have hroute : route = o.text ++ String.ofList path := by
    rw [← String.toList_inj, ← hrest]
    simp [o, Origin.text]
  refine ⟨o, ?_⟩
  rcases hpath with rfl | hhead
  · exact .inl (hroute.trans String.append_empty)
  · exact .inr ⟨String.ofList path, by rwa [IsPath, String.toList_ofList], hroute⟩

/-- Every route is a spelling of what it is normalised to. -/
theorem spells_normal (route : String) : Spells route (normal route) := by
  by_cases hscheme : HasScheme route
  · obtain ⟨o, rfl | ⟨path, hpath, rfl⟩⟩ := hscheme.exists_origin
    · rw [normal_of_root]
      exact .root o
    · rw [normal_of_absolute o hpath]
      exact .absolute o hpath
  · by_cases hpath : IsPath route
    · rw [normal_of_isPath hpath]
      exact .path hpath
    · rw [normal_of_relative hpath hscheme]
      exact .relative hpath hscheme

/-- Normalising a route gives the path that it is a spelling of. -/
theorem normal_eq_iff_spells : normal route = path ↔ Spells route path := by
  constructor
  · rintro rfl
    exact spells_normal route
  · intro h
    cases h with
    | path h => exact normal_of_isPath h
    | absolute o h => exact normal_of_absolute o h
    | root o => exact normal_of_root o
    | relative hpath hscheme => exact normal_of_relative hpath hscheme

/-- What is spelled is a path. -/
theorem Spells.isPath (h : Spells route path) : IsPath path := by
  rw [← normal_eq_iff_spells.mpr h]
  exact head?_normal route

/-- Normalising what is normalised changes nothing. -/
theorem normal_normal (route : String) : normal (normal route) = normal route :=
  normal_of_isPath (spells_normal route).isPath

/-! ### Tags -/

/-- Exchanges that differ in the route only have the same tags if it is the same when normalised. -/
theorem standardTags_withRoute_eq_iff {route' unknown : String} {view : RequestView}
    {reply : Reply} :
    standardTags unknown (view.withRoute (some route)) reply =
        standardTags unknown (view.withRoute (some route')) reply ↔
      normal route = normal route' := by
  have huri (r : String) : (standardTags unknown (view.withRoute (some r)) reply).get? "uri" =
      some (normal r) := by
    rw [standardTags_get?]
    rfl
  constructor
  · intro h
    have htags := congrArg (·.get? "uri") h
    simpa only [huri, Option.some_inj] using htags
  · intro h
    have htext : uriText unknown (view.withRoute (some route)) =
        uriText unknown (view.withRoute (some route')) := h
    rw [standardTags, htext]
    rfl

end

/-- A normalised route is a path, and normalising it again changes nothing. An origin in front of a
path and a slash that is missing make no difference, and altogether a route is normalised to the one
path that it is a spelling of. So two exchanges that differ in the route only have the same standard
tags exactly if their routes are spellings of one path. -/
theorem normal_respects_spelling :
    (∀ route, IsPath (normal route) ∧ normal (normal route) = normal route) ∧
      (∀ (o : Origin) (path : String), IsPath path →
        normal (o.text ++ path) = path ∧ normal path = path) ∧
      (∀ route, ¬ IsPath route → ¬ HasScheme route → normal route = normal ("/" ++ route)) ∧
      (∀ route path, normal route = path ↔ Spells route path) ∧
      ∀ (unknown : String) (view : RequestView) (reply : Reply) (route route' : String),
        standardTags unknown (view.withRoute (some route)) reply =
            standardTags unknown (view.withRoute (some route')) reply ↔
          ∃ path, Spells route path ∧ Spells route' path := by
  refine ⟨fun route => ⟨(spells_normal route).isPath, normal_normal route⟩,
    fun o path hpath => ⟨normal_of_absolute o hpath, normal_of_isPath hpath⟩,
    fun route hpath hscheme => ?_, fun route path => normal_eq_iff_spells, ?_⟩
  · have hspells : Spells route ("/" ++ route) := .relative hpath hscheme
    rw [normal_of_relative hpath hscheme, normal_of_isPath hspells.isPath]
  · intro unknown view reply route route'
    rw [standardTags_withRoute_eq_iff]
    constructor
    · intro h
      exact ⟨normal route', normal_eq_iff_spells.mp h, spells_normal route'⟩
    · rintro ⟨path, hroute, hroute'⟩
      rw [normal_eq_iff_spells.mpr hroute, normal_eq_iff_spells.mpr hroute']

/-- An origin with a port. -/
def portOrigin : Origin where
  scheme := "http://"
  authority := "localhost:8080"
  isKnown := by simp [schemes]
  authority_plain := by decide

/-- A path may look like an origin further on, and doubled slashes stay. A route without its slash
is recorded under the same text as the path. -/
theorem normal_respects_spelling_doubled :
    portOrigin.text ++ "//https://a/\x7bid:[/]\x7d" =
        "http://localhost:8080//https://a/\x7bid:[/]\x7d" ∧
      IsPath "//https://a/\x7bid:[/]\x7d" ∧
      normal "http://localhost:8080//https://a/\x7bid:[/]\x7d" = "//https://a/\x7bid:[/]\x7d" ∧
      ¬ IsPath "hotels/\x7bhotel\x7d" ∧ ¬ HasScheme "hotels/\x7bhotel\x7d" ∧
      normal "hotels/\x7bhotel\x7d" = normal "/hotels/\x7bhotel\x7d" := by
  obtain ⟨-, habsolute, hrelative, -⟩ := normal_respects_spelling
  have htext : portOrigin.text ++ "//https://a/\x7bid:[/]\x7d" =
      "http://localhost:8080//https://a/\x7bid:[/]\x7d" := by decide
  have hpath : IsPath "//https://a/\x7bid:[/]\x7d" := rfl
  have hno : ¬ IsPath "hotels/\x7bhotel\x7d" := by
    intro h
    cases h
  have hscheme : ¬ HasScheme "hotels/\x7bhotel\x7d" := by
    rintro ⟨scheme, hknown, hprefix⟩
    rcases schemes_cases hknown with rfl | rfl
    · revert hprefix
      decide
    · revert hprefix
      decide
  refine ⟨htext, hpath, ?_, hno, hscheme, hrelative _ hno hscheme⟩
  rw [← htext]
  exact (habsolute portOrigin _ hpath).1

end ExchangeMetrics.Route
