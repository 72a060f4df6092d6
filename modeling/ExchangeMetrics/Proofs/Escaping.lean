import ExchangeMetrics.Text.Percent

/-!
# Reading percent-encoded texts

A percent-encoded text is read from left to right: a percent sign and the two hexadecimal digits
behind it stand for a byte, any other character for its own bytes, and the bytes are read as UTF-8.
Reading gives back what was encoded, whatever characters it has. An encoded text is made of
unreserved characters and of percent signs with two digits behind each, so that none of the
characters that separate the parts of a URI is among its characters.

## Main results

* `Escaped.isCodeChar`: the characters of encoded texts.
* `escaped_percentEncode`: encoding gives such a text.
* `percentDecode_percentEncode`: reading an encoded text gives back what was encoded.
* `percentEncode_inj`: texts with the same encoding are the same.
-/

namespace ExchangeMetrics.Text

/-! ### Encoded texts -/

/-- The unreserved characters, which stand for themselves. -/
def isPlain (c : Char) : Bool :=
  c.isAlphanum || c = '-' || c = '_' || c = '.' || c = '~'

/-- The characters of an encoded text. -/
def isCodeChar (c : Char) : Bool :=
  isPlain c || c = '%'

/-- The hexadecimal digits in upper case. -/
def isUpperHexDigit (c : Char) : Bool :=
  c.isDigit || ('A' ≤ c && c ≤ 'F')

/-- A text of unreserved characters and of percent signs with two hexadecimal digits behind each. -/
inductive Escaped : List Char → Prop where
  | nil : Escaped []
  | plain {c : Char} {cs : List Char} (hc : isPlain c = true) (hcs : Escaped cs) :
      Escaped (c :: cs)
  | escape {high low : Char} {cs : List Char} (hhigh : isUpperHexDigit high = true)
      (hlow : isUpperHexDigit low = true) (hcs : Escaped cs) : Escaped ('%' :: high :: low :: cs)

/-- The digits of escapes are characters of codes. -/
theorem isCodeChar_of_isUpperHexDigit {c : Char} (h : isUpperHexDigit c = true) :
    isCodeChar c = true := by
  simp only [isUpperHexDigit, Bool.or_eq_true, Bool.and_eq_true, decide_eq_true_eq] at h
  have halpha : c.isAlphanum = true := by
    rcases h with h | ⟨hA, hF⟩
    · rw [Char.isAlphanum, h, Bool.or_true]
    · have hupper : c.isUpper = true := decide_eq_true ⟨hA, UInt32.le_trans hF (by decide)⟩
      show (c.isUpper || c.isLower || c.isDigit) = true
      rw [hupper, Bool.true_or, Bool.true_or]
  simp [isCodeChar, isPlain, halpha]

/-- The characters of which encoded texts are made. -/
theorem Escaped.isCodeChar {cs : List Char} (h : Escaped cs) : ∀ c ∈ cs, isCodeChar c = true := by
  induction h with
  | nil => simp
  | plain hc _ ih =>
      rw [List.forall_mem_cons]
      exact ⟨by simp [Text.isCodeChar, hc], ih⟩
  | escape hhigh hlow _ ih =>
      simp only [List.forall_mem_cons]
      exact ⟨by decide, isCodeChar_of_isUpperHexDigit hhigh, isCodeChar_of_isUpperHexDigit hlow, ih⟩

/-- The digits that are written are digits of escapes. -/
theorem isUpperHexDigit_upperHexDigit : ∀ n < 16, isUpperHexDigit (upperHexDigit n) = true := by
  decide

/-- Whatever is encoded, the result is an encoded text. -/
theorem escaped_flatMap_encodeByte (bs : List UInt8) : Escaped (bs.flatMap encodeByte) := by
  induction bs with
  | nil => exact .nil
  | cons b bs ih =>
      rw [List.flatMap_cons]
      have hb := b.toNat_lt
      cases hplain : isUnreserved b with
      | true =>
          rw [encodeByte_unreserved hplain]
          exact .plain hplain ih
      | false =>
          rw [encodeByte_reserved hplain]
          exact .escape (isUpperHexDigit_upperHexDigit _ (by omega))
            (isUpperHexDigit_upperHexDigit _ (by omega)) ih

/-- A text that was percent-encoded has nothing in it but plain characters and escapes. -/
theorem escaped_percentEncode (s : String) : Escaped (percentEncode s) :=
  escaped_flatMap_encodeByte (bytes s)

/-! ### Reading -/

/-- The number for which a hexadecimal digit stands, in either letter case. -/
def hexValue? (c : Char) : Option Nat :=
  if c.isDigit then some (c.toNat - '0'.toNat)
  else if 'A' ≤ c ∧ c ≤ 'F' then some (c.toNat - 'A'.toNat + 10)
  else if 'a' ≤ c ∧ c ≤ 'f' then some (c.toNat - 'a'.toNat + 10)
  else none

/-- The bytes for which characters stand, if two hexadecimal digits follow each percent sign. -/
def decodeBytes : List Char → Option (List UInt8)
  | [] => some []
  | '%' :: high :: low :: rest => do
      let byte := UInt8.ofNat (16 * (← hexValue? high) + (← hexValue? low))
      (byte :: ·) <$> decodeBytes rest
  | c :: rest => if c = '%' then none else (String.utf8EncodeChar c ++ ·) <$> decodeBytes rest

/-- The text for which characters stand, if their bytes are those of a text. -/
def percentDecode (cs : List Char) : Option String := do
  String.fromUTF8? ⟨(← decodeBytes cs).toArray⟩

/-- A character that is not a percent sign is decoded as its own bytes. -/
theorem decodeBytes_plain {c : Char} {rest : List Char} (h : c ≠ '%') :
    decodeBytes (c :: rest) = (String.utf8EncodeChar c ++ ·) <$> decodeBytes rest := by
  rw [decodeBytes]
  · rw [if_neg h]
  · rintro high low rest' rfl
    exact absurd rfl h

/-- An escape is decoded as the byte of its two digits. -/
theorem decodeBytes_escape {high low : Char} {rest : List Char} {m n : Nat}
    (hhigh : hexValue? high = some m) (hlow : hexValue? low = some n) :
    decodeBytes ('%' :: high :: low :: rest) =
      (UInt8.ofNat (16 * m + n) :: ·) <$> decodeBytes rest := by
  rw [decodeBytes, hhigh, hlow]
  rfl

/-- A digit that was written is read as its value. -/
theorem hexValue?_upperHexDigit : ∀ n < 16, hexValue? (upperHexDigit n) = some n := by
  decide

/-- A byte that is not reserved is the whole of its character. -/
theorem utf8EncodeChar_of_isUnreserved {b : UInt8} (h : isUnreserved b = true) :
    String.utf8EncodeChar (Char.ofNat b.toNat) = [b] := by
  have hall : ∀ n < 256, isUnreserved (UInt8.ofNat n) = true →
      String.utf8EncodeChar (Char.ofNat n) = [UInt8.ofNat n] := by
    decide +kernel
  have hb := hall b.toNat b.toNat_lt
  rw [UInt8.ofNat_toNat] at hb
  exact hb h

/-- Plain characters are not percent signs. -/
theorem ne_percent_of_isPlain {c : Char} (h : isPlain c = true) : c ≠ '%' := by
  rintro rfl
  exact absurd h (by decide)

/-- A byte is read back, and reading goes on behind it. -/
theorem decodeBytes_encodeByte (b : UInt8) (rest : List Char) :
    decodeBytes (encodeByte b ++ rest) = (b :: ·) <$> decodeBytes rest := by
  cases hplain : isUnreserved b with
  | true =>
      rw [encodeByte_unreserved hplain, List.singleton_append,
        decodeBytes_plain (ne_percent_of_isPlain hplain), utf8EncodeChar_of_isUnreserved hplain]
      rfl
  | false =>
      have hb := b.toNat_lt
      have hdigits : 16 * (b.toNat / 16) + b.toNat % 16 = b.toNat := by omega
      rw [encodeByte_reserved hplain, List.cons_append, List.cons_append, List.singleton_append,
        decodeBytes_escape (hexValue?_upperHexDigit _ (by omega))
          (hexValue?_upperHexDigit _ (by omega)), hdigits, UInt8.ofNat_toNat]

/-- Bytes that were encoded are decoded again. -/
theorem decodeBytes_flatMap_encodeByte (bs : List UInt8) :
    decodeBytes (bs.flatMap encodeByte) = some bs := by
  induction bs with
  | nil => rfl
  | cons b bs ih => rw [List.flatMap_cons, decodeBytes_encodeByte, ih]; rfl

/-- Reading an encoded text gives back what was encoded. -/
theorem percentDecode_percentEncode (s : String) : percentDecode (percentEncode s) = some s := by
  rw [percentDecode, percentEncode, decodeBytes_flatMap_encodeByte]
  exact dif_pos s.isValidUTF8

/-- Texts with the same encoding are the same. -/
theorem percentEncode_inj {s t : String} : percentEncode s = percentEncode t ↔ s = t := by
  constructor
  · intro h
    have hs := percentDecode_percentEncode s
    rw [h, percentDecode_percentEncode] at hs
    exact (Option.some.inj hs).symm
  · rintro rfl
    rfl

/-- Characters of more than one byte are written byte by byte. -/
example : percentEncode "a/é" = "a%2F%C3%A9".toList ∧
    percentDecode "a%2F%C3%A9".toList = some "a/é" := by
  decide +kernel

end ExchangeMetrics.Text
