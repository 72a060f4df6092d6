import ExchangeMetrics.Uri.Parser

/-!
# What a URI was read from

A text is read as a URI in one of four ways, and each of them shows in the URI: an asterisk, a path
with a query, an authority alone, or a scheme and an authority with a path and a query behind them.

## Main results

* `Uri.parse_eq_ok`: the ways in which a text is read.
* `Uri.parseAuthorityForm_eq_ok`: the two of them that begin with an authority.
* `Uri.eq_asterisk_of_parse`: what a URI without an authority is read from.
-/

namespace ExchangeMetrics

/-- A text has at least as many bytes as characters. -/
theorem Text.length_le_byteLength (cs : List Char) : cs.length ≤ byteLength (String.ofList cs) := by
  induction cs with
  | nil => exact Nat.zero_le _
  | cons c cs ih =>
      rw [byteLength] at ih ⊢
      rw [String.ofList_cons, String.utf8ByteSize_append, String.utf8ByteSize_singleton]
      have hc := c.utf8Size_pos
      rw [List.length_cons]
      omega

/-- The authority that characters begin with goes on up to the first character that ends it. -/
theorem Authority.split_eq_ok {cs authority tail : List Char}
    (h : Authority.split cs = .ok (authority, tail)) :
    authority = cs.takeWhile (!isEnd ·) ∧ tail = cs.dropWhile (!isEnd ·) := by
  rw [Authority.split] at h
  split at h
  · cases h
  · cases hcheck : check (cs.takeWhile (!isEnd ·)) with
    | error reason => simp [hcheck, bind, Except.bind] at h
    | ok =>
        simp only [hcheck, bind, Except.bind, Except.ok.injEq, Prod.mk.injEq] at h
        exact ⟨h.1.symm, h.2.symm⟩

namespace Uri

variable {s : String} {uri : Uri}

/-- A single character is read as a path or as an authority, which is the host. -/
theorem parseSingle_eq_ok (h : parseSingle s = .ok uri) : uri = ⟨none, some s, "", none⟩ := by
  rw [parseSingle] at h
  cases hsplit : Authority.split s.toList with
  | error reason => simp [hsplit, bind, Except.bind] at h
  | ok parts =>
      simp only [hsplit, bind, Except.bind] at h
      split at h
      · exact (Except.ok.inj h).symm
      · cases h

/-- Behind the scheme, if there is one, an authority is cut off. Without a scheme nothing is left,
and otherwise a path and a query are. -/
theorem parseAuthorityForm_eq_ok (h : parseAuthorityForm s = .ok uri) :
    ∃ scheme rest authority tail, splitScheme s = .ok (scheme, rest) ∧
      Authority.split rest = .ok (authority, tail) ∧
        ((scheme = none ∧ tail = [] ∧ uri = ⟨none, some (String.ofList authority), "", none⟩) ∨
          ∃ name path query, scheme = some name ∧ pathAndQuery tail = .ok (path, query) ∧
            uri = ⟨some name, some (String.ofList authority), path, query⟩) := by
  rw [parseAuthorityForm] at h
  cases hscheme : splitScheme s with
  | error reason => simp [hscheme, bind, Except.bind] at h
  | ok parts =>
      obtain ⟨scheme, rest⟩ := parts
      cases hsplit : Authority.split rest with
      | error reason => simp [hscheme, hsplit, bind, Except.bind] at h
      | ok parts =>
          obtain ⟨authority, tail⟩ := parts
          refine ⟨scheme, rest, authority, tail, rfl, hsplit, ?_⟩
          simp only [hscheme, hsplit, bind, Except.bind] at h
          cases scheme with
          | none =>
              dsimp only at h
              split at h
              · exact .inl ⟨rfl, List.isEmpty_iff.mp ‹_›, (Except.ok.inj h).symm⟩
              · cases h
          | some name =>
              dsimp only at h
              split at h
              · cases h
              · cases hread : pathAndQuery tail with
                | error reason => simp [hread] at h
                | ok parts =>
                    obtain ⟨path, query⟩ := parts
                    simp only [hread, Except.ok.injEq] at h
                    exact .inr ⟨name, path, query, rfl, rfl, h.symm⟩

/-- The ways in which a text is read as a URI. -/
theorem parse_eq_ok (h : parse s = .ok uri) :
    (s = "*" ∧ uri = ⟨none, none, "*", none⟩) ∨
      (s.toList.head? = some '/' ∧ ∃ path query, pathAndQuery s.toList = .ok (path, query) ∧
        uri = ⟨none, none, path, query⟩) ∨
      (Text.byteLength s = 1 ∧ uri = ⟨none, some s, "", none⟩) ∨
      parseAuthorityForm s = .ok uri := by
  rw [parse] at h
  split at h
  · cases h
  split at h
  · cases h
  split at h
  · exact .inl ⟨‹_›, (Except.ok.inj h).symm⟩
  split at h
  · cases hread : pathAndQuery s.toList with
    | error reason => simp [hread, bind, Except.bind] at h
    | ok parts =>
        obtain ⟨path, query⟩ := parts
        simp only [hread, bind, Except.bind, Except.ok.injEq] at h
        exact .inr (.inl ⟨‹_›, path, query, rfl, h.symm⟩)
  split at h
  · exact .inr (.inr (.inl ⟨‹_›, parseSingle_eq_ok h⟩))
  · exact .inr (.inr (.inr h))

/-- A URI without an authority is an asterisk, or is read from a text that begins with a slash. -/
theorem eq_asterisk_of_parse (h : parse s = .ok uri) (hauthority : uri.authority = none)
    (hslash : s.toList.head? ≠ some '/') : s = "*" := by
  rcases parse_eq_ok h with ⟨hs, -⟩ | ⟨hhead, -⟩ | ⟨-, rfl⟩ | hform
  · exact hs
  · exact absurd hhead hslash
  · cases hauthority
  · obtain ⟨_, _, _, _, -, -, ⟨-, -, rfl⟩ | ⟨_, _, _, -, -, rfl⟩⟩ := parseAuthorityForm_eq_ok hform
    · cases hauthority
    · cases hauthority

end Uri

end ExchangeMetrics
