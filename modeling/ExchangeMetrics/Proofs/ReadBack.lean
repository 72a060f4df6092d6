import ExchangeMetrics.Proofs.Program

/-!
# Reading back headers

A header may be set to any text without control characters, under a name in any letter case, but
not every such text can be read: values are read as text only if they have no characters outside of
ASCII. So a value that was set is read back, or is there and is not seen. Which of the two depends
on the value alone, and no other header is read in another way than before.

## Main results

* `HeaderName.ofText?_eq_iff`: names that differ in letter case only are one name.
* `HeaderValue.text?_eq_some_iff`: the values that can be read, and what is read then.
* `RequestView.reads_back`: what is read after a header was set.
* `RequestView.header_vanishes`: a header that was set and is not seen.
-/

namespace ExchangeMetrics

/-! ### Letter case -/

namespace Text

/-- What holds of all characters of ASCII and does not change with the letter case of others holds
of all characters. -/
theorem forall_toLower {p : Char → Prop} (hascii : ∀ n < 128, p (Char.ofNat n))
    (hother : ∀ c : Char, c.toLower = c → p c) (c : Char) : p c := by
  by_cases hc : c.toNat < 128
  · have hp := hascii c.toNat hc
    rwa [Char.ofNat_toNat] at hp
  · refine hother c (dif_neg fun hupper => hc ?_)
    have hle : c.toNat ≤ 'Z'.toNat := UInt32.le_iff_toNat_le.mp hupper.2
    exact Nat.lt_of_le_of_lt hle (by decide)

/-- The letter case of a character does not matter to tokens. -/
theorem isTokenChar_toLower : ∀ c : Char, isTokenChar c.toLower = isTokenChar c :=
  forall_toLower (by decide +kernel) fun c hc => by rw [hc]

/-- It does not matter to the number of bytes. -/
theorem utf8Size_toLower : ∀ c : Char, c.toLower.utf8Size = c.utf8Size :=
  forall_toLower (by decide +kernel) fun c hc => by rw [hc]

/-- A text has as many bytes in lower case. -/
theorem byteLength_lower (s : String) : byteLength (lower s) = byteLength s := by
  suffices h : ∀ cs : List Char,
      byteLength (String.ofList (cs.map Char.toLower)) = byteLength (String.ofList cs) by
    have hs := h s.toList
    rwa [String.ofList_toList] at hs
  intro cs
  induction cs with
  | nil => rfl
  | cons c cs ih =>
      rw [byteLength, byteLength] at ih ⊢
      rw [List.map_cons, String.ofList_cons, String.ofList_cons, String.utf8ByteSize_append,
        String.utf8ByteSize_append, String.utf8ByteSize_singleton, String.utf8ByteSize_singleton,
        utf8Size_toLower, ih]

/-- A text is a token in lower case exactly if it is one. -/
theorem isToken_lower (s : String) : isToken (lower s) = isToken s := by
  have hall : (lower s).toList.all isTokenChar = s.toList.all isTokenChar := by
    rw [lower, String.toList_ofList, List.all_map]
    exact congrArg s.toList.all (funext isTokenChar_toLower)
  have hempty : (lower s).isEmpty = s.isEmpty := by
    rw [String.isEmpty, String.isEmpty]
    exact congrArg (· == 0) (byteLength_lower s)
  rw [isToken, isToken, hall, hempty]

end Text

/-- A text names a header in lower case exactly if it does. -/
theorem isHeaderName_lower (s : String) : isHeaderName (Text.lower s) = isHeaderName s := by
  rw [isHeaderName, isHeaderName, Text.isToken_lower, Text.byteLength_lower]

/-- Names that differ in letter case only are one name, or none. -/
theorem HeaderName.ofText?_congr {a b : String} (h : Text.sameIgnoringCase a b = true) :
    ofText? a = ofText? b := by
  rw [Text.sameIgnoringCase, decide_eq_true_eq] at h
  rw [ofText?, ofText?, ← isHeaderName_lower a, ← isHeaderName_lower b, h]

/-- Two texts are names of one header exactly if they differ in letter case only. -/
theorem HeaderName.ofText?_eq_iff {a b : String} {n : HeaderName} (ha : ofText? a = some n) :
    ofText? b = some n ↔ Text.sameIgnoringCase b a = true := by
  constructor
  · intro hb
    rw [ofText?, Option.ite_none_right_eq_some] at ha hb
    exact decide_eq_true (congrArg HeaderName.text (Option.some.inj (hb.2.trans ha.2.symm)))
  · exact fun h => (ofText?_congr h).trans ha

/-! ### Values as text -/

namespace Text

/-- The characters that can be read in a header value: the printable ones of ASCII, and the
tabulator. -/
def isReadableChar (c : Char) : Bool :=
  (' ' ≤ c && c ≤ '~') || c = '\t'

/-- Whether a text can be read in a header value. -/
def isReadable (s : String) : Bool :=
  s.toList.all isReadableChar

/-- The bytes of a text are those of its characters. -/
theorem bytes_eq_flatMap (s : String) : bytes s = s.toList.flatMap String.utf8EncodeChar := by
  rw [bytes, ← String.utf8Encode_toList, List.utf8Encode, List.toList_data_toByteArray]

end Text

/-- A byte beyond ASCII is not one of a text that can be read. -/
theorem isTextByte_of_le : ∀ n < 256, 128 ≤ n → isTextByte (UInt8.ofNat n) = false := by
  decide +kernel

/-- The bytes of a character can be read exactly if the character can: the first byte of several
is not one of ASCII. -/
theorem all_isTextByte_utf8EncodeChar (c : Char) :
    (String.utf8EncodeChar c).all isTextByte = Text.isReadableChar c := by
  by_cases hc : c.toNat < 128
  · have hascii : ∀ n < 128, (String.utf8EncodeChar (Char.ofNat n)).all isTextByte =
        Text.isReadableChar (Char.ofNat n) := by
      decide +kernel
    have h := hascii c.toNat hc
    rwa [Char.ofNat_toNat] at h
  · have hle : ¬ c ≤ '~' := fun h =>
      hc (Nat.lt_of_le_of_lt (UInt32.le_iff_toNat_le.mp h) (by decide))
    have htab : c ≠ '\t' := by
      rintro rfl
      exact hc (by decide)
    have hreadable : Text.isReadableChar c = false := by
      rw [Text.isReadableChar, decide_eq_false hle, decide_eq_false htab, Bool.and_false]
      rfl
    rw [hreadable, String.utf8EncodeChar]
    split
    · exact absurd (Nat.lt_succ_of_le ‹_›) hc
    · split
      · rw [List.all_cons, isTextByte_of_le _ (by omega) (by omega), Bool.false_and]
      · split <;> rw [List.all_cons, isTextByte_of_le _ (by omega) (by omega), Bool.false_and]

/-- The bytes of a text can be read exactly if the text can. -/
theorem all_isTextByte_bytes (s : String) : (Text.bytes s).all isTextByte = Text.isReadable s := by
  rw [Text.bytes_eq_flatMap, List.all_flatMap, Text.isReadable]
  exact congrArg s.toList.all (funext all_isTextByte_utf8EncodeChar)

/-- The bytes that can be read are those of the text that they are read as. -/
theorem bytes_of_all_isTextByte {bs : List UInt8} (h : bs.all isTextByte = true) :
    Text.bytes (String.ofList (bs.map fun b => Char.ofNat b.toNat)) = bs := by
  have hall : ∀ n < 256, isTextByte (UInt8.ofNat n) = true →
      String.utf8EncodeChar (Char.ofNat n) = [UInt8.ofNat n] := by
    decide +kernel
  rw [Text.bytes_eq_flatMap, String.toList_ofList, List.flatMap_map]
  induction bs with
  | nil => rfl
  | cons b bs ih =>
      rw [List.all_cons, Bool.and_eq_true] at h
      have hb := hall b.toNat b.toNat_lt
      rw [UInt8.ofNat_toNat] at hb
      rw [List.flatMap_cons, hb h.1, ih h.2, List.singleton_append]

/-- A value is read as the text whose bytes it has, if that text can be read at all. -/
theorem HeaderValue.text?_eq_some_iff {v : HeaderValue} {s : String} :
    v.text? = some s ↔ Text.isReadable s = true ∧ v.bytes = Text.bytes s := by
  rw [text?, Option.ite_none_right_eq_some, Option.some.injEq]
  constructor
  · rintro ⟨hall, rfl⟩
    rw [← all_isTextByte_bytes, bytes_of_all_isTextByte hall]
    exact ⟨hall, rfl⟩
  · rintro ⟨hreadable, hbytes⟩
    have hall : v.bytes.all isTextByte = true := by rw [hbytes, all_isTextByte_bytes, hreadable]
    exact ⟨hall, Text.bytes_inj.mp ((bytes_of_all_isTextByte hall).trans hbytes)⟩

/-- The bytes of a header value are those of the text that it was made of. -/
theorem HeaderValue.bytes_of_ofText? {s : String} {v : HeaderValue} (h : ofText? s = some v) :
    v.bytes = Text.bytes s := by
  rw [ofText?, ofBytes?] at h
  split at h <;> cases h
  rfl

/-- A value that was given as a text is read as that text, or not at all. -/
theorem HeaderValue.text?_of_ofText? {s : String} {v : HeaderValue} (h : ofText? s = some v) :
    v.text? = if Text.isReadable s then some s else none := by
  have hbytes := bytes_of_ofText? h
  split
  · exact text?_eq_some_iff.mpr ⟨‹_›, hbytes⟩
  · rw [Option.eq_none_iff_forall_ne_some]
    intro t ht
    obtain ⟨hreadable, ht⟩ := text?_eq_some_iff.mp ht
    obtain rfl := Text.bytes_inj.mp (ht.symm.trans hbytes)
    contradiction

/-! ### Reading headers -/

namespace Headers

variable {h : Headers} {name s : String}

/-- A header is read as the text whose bytes its first value has, if that text can be read. -/
theorem text?_eq_some_iff : h.text? name = some s ↔
    Text.isReadable s = true ∧ ∃ n x xs, HeaderName.ofText? name = some n ∧
      h.values n = x :: xs ∧ x.bytes = Text.bytes s := by
  rw [text?, Option.bind_eq_bind, Option.bind_eq_some_iff]
  constructor
  · rintro ⟨n, hn, hx⟩
    obtain ⟨x, hx, hs⟩ := Option.bind_eq_some_iff.mp hx
    obtain ⟨xs, hxs⟩ := List.head?_eq_some_iff.mp hx
    obtain ⟨hreadable, hbytes⟩ := HeaderValue.text?_eq_some_iff.mp hs
    exact ⟨hreadable, n, x, xs, hn, hxs, hbytes⟩
  · rintro ⟨hreadable, n, x, xs, hn, hxs, hbytes⟩
    refine ⟨n, hn, Option.bind_eq_some_iff.mpr ⟨x, ?_, ?_⟩⟩
    · rw [hxs, List.head?_cons]
    · exact HeaderValue.text?_eq_some_iff.mpr ⟨hreadable, hbytes⟩

/-- A header is not read if its name has no value, or if the first value is no text or one that
cannot be read. -/
theorem text?_eq_none_iff : h.text? name = none ↔
    ∀ n x xs, HeaderName.ofText? name = some n → h.values n = x :: xs →
      ∀ s, x.bytes = Text.bytes s → Text.isReadable s = false := by
  rw [Option.eq_none_iff_forall_ne_some]
  constructor
  · intro hnone n x xs hn hxs s hbytes
    by_contra hreadable
    exact hnone s (text?_eq_some_iff.mpr
      ⟨Bool.of_not_eq_false hreadable, n, x, xs, hn, hxs, hbytes⟩)
  · intro hall s hs
    obtain ⟨hreadable, n, x, xs, hn, hxs, hbytes⟩ := text?_eq_some_iff.mp hs
    exact absurd hreadable (Bool.eq_false_iff.mp (hall n x xs hn hxs s hbytes))

/-- Setting a header changes what is read under its name, and under no other. -/
theorem text?_set {n : HeaderName} {x : HeaderValue} (hname : HeaderName.ofText? name = some n)
    (h : Headers) (m : String) :
    (h.set n x).text? m = if Text.sameIgnoringCase m name then x.text? else h.text? m := by
  by_cases hm : HeaderName.ofText? m = some n
  · rw [if_pos ((HeaderName.ofText?_eq_iff hname).mp hm), text?, hm, Option.bind_eq_bind,
      Option.bind_some, values_set, if_pos rfl]
    rfl
  · rw [if_neg fun hsame => hm ((HeaderName.ofText?_eq_iff hname).mpr hsame), text?, text?]
    cases hother : HeaderName.ofText? m with
    | none => rfl
    | some k =>
        have hne : n ≠ k := by
          rintro rfl
          exact hm hother
        rw [Option.bind_eq_bind, Option.bind_eq_bind, Option.bind_some, Option.bind_some,
          values_set, if_neg hne]

end Headers

namespace RequestView

/-- A header can be set exactly if its name and its value are well formed. -/
theorem setHeader_eq_ok_iff {v v' : RequestView} {name value : String} :
    v.setHeader name value = .ok v' ↔
      ∃ n x, HeaderName.ofText? name = some n ∧ HeaderValue.ofText? value = some x ∧
        v' = { v with headers := v.headers.set n x, injected := v.injected.set n x } := by
  rw [setHeader]
  cases HeaderName.ofText? name with
  | none => simp
  | some n => cases HeaderValue.ofText? value <;> simp [eq_comm]

/-- What is guaranteed about reading the headers of a view. -/
structure ReadsBack (v : RequestView) : Prop where
  /-- A header that was set is read under its name in any letter case, whatever it was before, if
  its value has no characters outside of ASCII, and is not read otherwise. All other headers are
  read as before. -/
  set : ∀ name value v', v.setHeader name value = .ok v' → ∀ n,
    v'.header? n =
      if Text.sameIgnoringCase n name then (if Text.isReadable value then some value else none)
      else v.header? n
  /-- A header is refused for its name first, and for its value if there is nothing wrong with the
  name. -/
  refused : ∀ name value e, v.setHeader name value = .error e ↔
    (HeaderName.ofText? name = none ∧ e = .invalidHeaderName) ∨
      ((HeaderName.ofText? name).isSome ∧ HeaderValue.ofText? value = none ∧
        e = .invalidHeaderValue)
  /-- A header that is refused changes neither the headers nor those that were set: others are
  offered to the same view. -/
  kept : ∀ name value e, v.setHeader name value = .error e → ∀ offers,
    v.offer ((name, value) :: offers) =
      ((v.offer offers).1, (name, e) :: (v.offer offers).2)
  /-- What is read is the text whose bytes the first value has. -/
  read : ∀ name s, v.header? name = some s ↔
    Text.isReadable s = true ∧ ∃ n x xs, HeaderName.ofText? name = some n ∧
      v.headers.values n = x :: xs ∧ x.bytes = Text.bytes s
  /-- Nothing is read if there is no value, or if the first one is not UTF-8, or if it is but has
  characters outside of ASCII. -/
  unread : ∀ name, v.header? name = none ↔
    ∀ n x xs, HeaderName.ofText? name = some n → v.headers.values n = x :: xs →
      ∀ s, x.bytes = Text.bytes s → Text.isReadable s = false

/-- Whatever a view shows and whatever was set in it before, its headers are read so. -/
theorem reads_back (v : RequestView) : ReadsBack v where
  set name value v' hset n := by
    obtain ⟨k, x, hname, hvalue, rfl⟩ := setHeader_eq_ok_iff.mp hset
    rw [← HeaderValue.text?_of_ofText? hvalue]
    exact Headers.text?_set hname v.headers n
  refused _ _ _ := setHeader_error
  kept name value e hset offers := by
    rw [offer, hset]
  read _ _ := Headers.text?_eq_some_iff
  unread _ := Headers.text?_eq_none_iff

/-- A value that is valid UTF-8 and was accepted is not read back, and nothing is read in its
place. -/
theorem header_vanishes : ∃ v x,
    (ofRequest .plain).setHeader "x-place" "café" = .ok v ∧
      v.headers.values ⟨"x-place"⟩ = [x] ∧ x.bytes = Text.bytes "café" ∧
      v.header? "x-place" = none := by
  obtain ⟨x, hx⟩ : ∃ x, HeaderValue.ofText? "café" = some x := ⟨_, rfl⟩
  have hname : HeaderName.ofText? "x-place" = some ⟨"x-place"⟩ := by decide +kernel
  have hunreadable : Text.isReadable "café" = false := by decide +kernel
  refine ⟨_, x, setHeader_ok hname hx, ?_, HeaderValue.bytes_of_ofText? hx, ?_⟩
  · rw [Headers.values_set, if_pos rfl]
  · rw [header?, Headers.text?_set hname, if_pos (Text.sameIgnoringCase_refl _),
      HeaderValue.text?_of_ofText? hx, hunreadable]
    rfl

end RequestView

end ExchangeMetrics
