import ExchangeMetrics.Text.Case

/-!
# URIs

A `Uri` is kept in its four visible parts. Scheme and authority are absent from a relative
URI, the scheme alone from a bare authority, and a query may be absent or empty, which are two
different things.

Two URIs are equal when their schemes and authorities agree up to letter case and their paths
and queries agree exactly; they have the same target when the same holds of everything but the
query.

## Main results

* `Uri.sameTarget_of_equal`: equal URIs have the same target.
* `Uri.equal_refl`, `Uri.sameTarget_refl`, `Uri.sameTarget_symm`, `Uri.sameTarget_trans`: both
  comparisons are reflexive, and having the same target is an equivalence.
-/

namespace ExchangeMetrics

/-- A URI in its parts. -/
structure Uri where
  /-- The scheme, `http` and `https` in lower case and any other as it was written. -/
  scheme : Option String
  /-- The authority as it was written: user information, host, and the number behind it. -/
  authority : Option String
  /-- The path, which is empty only for a bare authority. -/
  path : String
  /-- The text after the question mark, if there is one. -/
  query : Option String
deriving DecidableEq

/-- Why a text is not a URI. -/
inductive UriError where
  /-- The text has more bytes than a URI may have. -/
  | tooLong
  /-- The text, or the part of it where the authority is expected, is empty. -/
  | empty
  /-- A character stands where it is not allowed. -/
  | invalidCharacter
  /-- The parts do not fit together: an authority is missing, or a path follows none. -/
  | invalidFormat
  /-- The scheme has more bytes than a scheme may have. -/
  | schemeTooLong
  /-- The authority is made of allowed characters, but not well formed. -/
  | invalidAuthority
deriving DecidableEq

/-- The wording of a URI error. -/
def UriError.message : UriError → String
  | tooLong => "uri too long"
  | empty => "empty string"
  | invalidCharacter => "invalid uri character"
  | invalidFormat => "invalid format"
  | schemeTooLong => "scheme too long"
  | invalidAuthority => "invalid authority"

namespace Uri

/-- The URI as a text: the scheme with `://`, the authority, the path, and the query behind a
question mark, each only if it is there. -/
def text (u : Uri) : String :=
  u.scheme.elim "" (· ++ "://") ++ u.authority.elim "" id ++ u.path ++ u.query.elim "" ("?" ++ ·)

/-- The host within an authority: what follows the last `@`, up to and including the closing
bracket if it begins with a bracket, and up to the first colon otherwise. -/
def hostOf (authority : String) : String :=
  let cs := (authority.toList.reverse.takeWhile (· ≠ '@')).reverse
  if cs.head? = some '[' then
    String.ofList (cs.takeWhile (· ≠ ']') ++ [']'])
  else
    String.ofList (cs.takeWhile (· ≠ ':'))

/-- The host of a URI, if it has an authority. -/
def host (u : Uri) : Option String :=
  u.authority.map hostOf

/-- Whether a URI is absolute: it has a scheme and an authority. -/
def isAbsolute (u : Uri) : Bool :=
  u.scheme.isSome && u.authority.isSome

/-! ### Comparing URIs -/

/-- Whether two optional parts are both absent, or both present and the same up to letter
case. -/
def samePart : Option String → Option String → Bool
  | none, none => true
  | some a, some b => Text.sameIgnoringCase a b
  | _, _ => false

/-- Whether two URIs have the same scheme, authority and path. -/
def sameTarget (u v : Uri) : Bool :=
  samePart u.scheme v.scheme && samePart u.authority v.authority && u.path = v.path

/-- Whether two URIs are equal: the same target and the same query. -/
def equal (u v : Uri) : Bool :=
  u.sameTarget v && u.query = v.query

/-- A part of a URI is the same as itself. -/
theorem samePart_refl (a : Option String) : samePart a a = true := by
  cases a with
  | none => rfl
  | some a => exact Text.sameIgnoringCase_refl a

/-- Two parts are the same whichever is named first. -/
theorem samePart_symm {a b : Option String} (h : samePart a b = true) : samePart b a = true := by
  cases a <;> cases b <;> simp_all [samePart, Text.sameIgnoringCase_symm]

/-- Parts that are the same as a third one are the same. -/
theorem samePart_trans {a b c : Option String} (h : samePart a b = true)
    (h' : samePart b c = true) : samePart a c = true := by
  cases a <;> cases b <;> cases c <;> simp_all [samePart]
  exact Text.sameIgnoringCase_trans h h'

/-- A URI has the same target as itself. -/
theorem sameTarget_refl (u : Uri) : u.sameTarget u = true := by
  simp [sameTarget, samePart_refl]

/-- Two URIs have the same target whichever is named first. -/
theorem sameTarget_symm {u v : Uri} (h : u.sameTarget v = true) : v.sameTarget u = true := by
  simp only [sameTarget, Bool.and_eq_true, decide_eq_true_eq] at h ⊢
  exact ⟨⟨samePart_symm h.1.1, samePart_symm h.1.2⟩, h.2.symm⟩

/-- URIs that have the same target as a third one have the same target. -/
theorem sameTarget_trans {u v w : Uri} (h : u.sameTarget v = true) (h' : v.sameTarget w = true) :
    u.sameTarget w = true := by
  simp only [sameTarget, Bool.and_eq_true, decide_eq_true_eq] at h h' ⊢
  exact ⟨⟨samePart_trans h.1.1 h'.1.1, samePart_trans h.1.2 h'.1.2⟩, h.2.trans h'.2⟩

/-- Equal URIs have the same target. -/
theorem sameTarget_of_equal {u v : Uri} (h : u.equal v = true) : u.sameTarget v = true := by
  simp only [equal, Bool.and_eq_true] at h
  exact h.1

/-- A URI is equal to itself. -/
theorem equal_refl (u : Uri) : u.equal u = true := by
  simp [equal, sameTarget_refl]

end Uri

end ExchangeMetrics
