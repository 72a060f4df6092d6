import ExchangeMetrics.Json.Literal

/-!
# The string literals of JSON

A grammar is given by relations between the characters in front of a piece of text and those behind
it. Here it is given for white space and for string literals, of which there are two things to be
said: whether what stands between the quotes is well formed, and which characters it spells. Escapes
of 16-bit units may be well formed without forming characters; such a literal spells nothing.

## Main results

* `Ws.skipSpace_eq_cons`: white space is skipped.
* `stringBody_eq_some_iff`: a string literal is read if it spells something, and is read as that.
-/

namespace ExchangeMetrics.Json

/-! ### White space -/

/-- White space, which may be empty, and what is behind it. -/
inductive Ws : List Char → List Char → Prop where
  | none {r : List Char} : Ws r r
  | space {c : Char} {t r : List Char} (hc : c = ' ' ∨ c = '\t' ∨ c = '\n' ∨ c = '\r')
      (h : Ws t r) : Ws (c :: t) r

section

variable {t r : List Char}

/-- Skipping white space goes on behind it. -/
theorem Ws.skipSpace_eq (h : Ws t r) : skipSpace t = skipSpace r := by
  induction h with
  | none => rfl
  | space hc _ ih =>
      refine (List.dropWhile_cons_of_pos ?_).trans ih
      rcases hc with rfl | rfl | rfl | rfl <;> rfl

/-- White space is skipped up to the first other character. -/
theorem Ws.skipSpace_eq_cons {c : Char} (h : Ws t (c :: r)) (hc : isSpace c = false) :
    skipSpace t = c :: r :=
  h.skipSpace_eq.trans (List.dropWhile_cons_of_neg (Bool.not_eq_true _ ▸ hc))

end

/-! ### Escapes -/

/-- What a backslash and a character stand for. -/
inductive Escapes : Char → Char → Prop where
  | quote : Escapes '"' '"'
  | backslash : Escapes '\\' '\\'
  | slash : Escapes '/' '/'
  | backspace : Escapes 'b' '\x08'
  | formFeed : Escapes 'f' '\x0c'
  | lineFeed : Escapes 'n' '\n'
  | carriageReturn : Escapes 'r' '\r'
  | tab : Escapes 't' '\t'

/-- The escapes that are read are those of the grammar. -/
theorem escaped?_eq_some_iff {c x : Char} : escaped? c = some x ↔ Escapes c x := by
  constructor
  · intro h
    unfold escaped? at h
    split at h <;> cases h <;> constructor
  · rintro ⟨⟩ <;> rfl

/-- A hexadecimal digit, in either letter case, and its value. -/
def IsHexDigit (c : Char) (n : Nat) : Prop :=
  "0123456789abcdef".toList[n]? = some c ∨ "0123456789ABCDEF".toList[n]? = some c

/-- Four hexadecimal digits, and the number that they stand for. -/
def IsHexWord (a b c d : Char) (n : Nat) : Prop :=
  ∃ i j k l, IsHexDigit a i ∧ IsHexDigit b j ∧ IsHexDigit c k ∧ IsHexDigit d l ∧
    n = ((i * 16 + j) * 16 + k) * 16 + l

/-- The value of a digit is below sixteen. -/
theorem IsHexDigit.lt {c : Char} {n : Nat} (h : IsHexDigit c n) : n < 16 := by
  rcases h with h | h <;> exact (List.getElem?_eq_some_iff.mp h).1

instance (c : Char) (n : Nat) : Decidable (IsHexDigit c n) :=
  inferInstanceAs (Decidable (_ ∨ _))

/-- A character with a smaller number does not come after one with a greater number. -/
theorem not_le_of_toNat_lt {c x : Char} (h : x.toNat < c.toNat) : ¬ c ≤ x :=
  fun hle => Nat.not_le_of_lt h (UInt32.le_iff_toNat_le.mp hle)

/-- There are no hexadecimal digits outside of ASCII. -/
theorem hexValue?_of_le {c : Char} (h : 128 ≤ c.toNat) : hexValue? c = none := by
  have hdigit : ¬ c.isDigit = true := fun hc =>
    not_le_of_toNat_lt (x := '9') (Nat.lt_of_lt_of_le (by decide) h)
      (of_decide_eq_true (Bool.and_eq_true_iff.mp hc).2)
  have hlower : ¬ c ≤ 'f' := not_le_of_toNat_lt (Nat.lt_of_lt_of_le (by decide) h)
  have hupper : ¬ c ≤ 'F' := not_le_of_toNat_lt (Nat.lt_of_lt_of_le (by decide) h)
  simp [hexValue?, hdigit, hlower, hupper]

/-- The digits that are read are those of the grammar. -/
theorem hexValue?_eq_some_iff {c : Char} {n : Nat} : hexValue? c = some n ↔ IsHexDigit c n := by
  constructor
  · intro h
    have hascii : ∀ k < 128, ∀ n ∈ hexValue? (Char.ofNat k), IsHexDigit (Char.ofNat k) n := by
      decide +kernel
    by_cases hc : c.toNat < 128
    · have hdigit := hascii c.toNat hc
      rw [Char.ofNat_toNat] at hdigit
      exact hdigit n h
    · rw [hexValue?_of_le (Nat.le_of_not_lt hc)] at h
      cases h
  · intro h
    have hvalue : ∀ i : Fin 16, hexValue? "0123456789abcdef".toList[i] = some i.1 ∧
        hexValue? "0123456789ABCDEF".toList[i] = some i.1 := by decide
    rcases h with h | h
    · obtain ⟨hn, rfl⟩ := List.getElem?_eq_some_iff.mp h
      exact (hvalue ⟨n, hn⟩).1
    · obtain ⟨hn, rfl⟩ := List.getElem?_eq_some_iff.mp h
      exact (hvalue ⟨n, hn⟩).2

/-- The groups of four digits that are read are those of the grammar. -/
theorem hexWord?_eq_some_iff {a b c d : Char} {n : Nat} :
    hexWord? a b c d = some n ↔ IsHexWord a b c d n := by
  simp only [hexWord?, Option.bind_eq_bind, Option.pure_def, Option.bind_eq_some_iff,
    Option.some.injEq, hexValue?_eq_some_iff, IsHexWord]
  constructor
  · rintro ⟨i, hi, j, hj, k, hk, l, hl, rfl⟩
    exact ⟨i, j, k, l, hi, hj, hk, hl, rfl⟩
  · rintro ⟨i, j, k, l, hi, hj, hk, hl, rfl⟩
    exact ⟨i, hi, j, hj, k, hk, l, hl, rfl⟩

/-- The number of four digits has sixteen bits. -/
theorem IsHexWord.lt {a b c d : Char} {n : Nat} (h : IsHexWord a b c d n) : n < 0x10000 := by
  obtain ⟨i, j, k, l, hi, hj, hk, hl, rfl⟩ := h
  have := hi.lt
  have := hj.lt
  have := hk.lt
  have := hl.lt
  omega

/-! ### Characters and 16-bit units -/

/-- A number that is one of a character is the number of its character. -/
theorem toNat_ofNat {n : Nat} (h : n.isValidChar) : (Char.ofNat n).toNat = n := by
  rw [Char.ofNat, dif_pos h]
  rfl

/-- No character is the first or the second unit of a pair. -/
theorem unit_toNat (x : Char) : isLeading x.toNat = false ∧ isTrailing x.toNat = false := by
  have hvalid : x.toNat.isValidChar := x.valid
  rw [Nat.isValidChar] at hvalid
  simp only [isLeading, isTrailing, Bool.and_eq_false_iff, decide_eq_false_iff_not]
  omega

/-- Every other unit is a character by itself. -/
theorem isValidChar_of_unit {n : Nat} (hn : n < 0x10000) (hleading : ¬ isLeading n = true)
    (htrailing : ¬ isTrailing n = true) : n.isValidChar := by
  simp only [isLeading, isTrailing, Bool.and_eq_true, decide_eq_true_eq] at hleading htrailing
  rw [Nat.isValidChar]
  omega

/-- The number of the character that a pair stands for. -/
def pairNumber (n m : Nat) : Nat :=
  0x10000 + (n - 0xD800) * 0x400 + (m - 0xDC00)

/-- The first halves of a pair are the numbers from `0xD800` to `0xDBFF`. -/
theorem isLeading_iff {n : Nat} : isLeading n = true ↔ 0xD800 ≤ n ∧ n ≤ 0xDBFF := by
  simp [isLeading]

/-- The second halves are those from `0xDC00` to `0xDFFF`. -/
theorem isTrailing_iff {n : Nat} : isTrailing n = true ↔ 0xDC00 ≤ n ∧ n ≤ 0xDFFF := by
  simp [isTrailing]

/-- A pair stands for a number behind all halves, and there is a character of it. -/
theorem pairNumber_bounds {n m : Nat} (hn : 0xD800 ≤ n ∧ n ≤ 0xDBFF)
    (hm : 0xDC00 ≤ m ∧ m ≤ 0xDFFF) : 0xDFFF < pairNumber n m ∧ pairNumber n m < 0x110000 := by
  unfold pairNumber
  omega

/-- The character of a pair has the number that the pair stands for. -/
theorem toNat_pairChar {n m : Nat} (hn : 0xD800 ≤ n ∧ n ≤ 0xDBFF)
    (hm : 0xDC00 ≤ m ∧ m ≤ 0xDFFF) : (pairChar n m).toNat = pairNumber n m :=
  toNat_ofNat (.inr (pairNumber_bounds hn hm))

/-! ### String literals -/

/-- Whether a character may stand for itself in a string literal. -/
def isPlain (c : Char) : Bool :=
  0x20 ≤ c.toNat && c ≠ '"' && c ≠ '\\'

/-- A character stands for itself if it is no control character, no quotation mark and no backslash.
-/
theorem isPlain_iff {c : Char} : isPlain c = true ↔ 0x20 ≤ c.toNat ∧ c ≠ '"' ∧ c ≠ '\\' := by
  simp [isPlain, and_assoc]

/-- The rest of a well-formed string literal behind its opening quote, and what is behind the
closing one. -/
inductive Literal : List Char → List Char → Prop where
  | close {r : List Char} : Literal ('"' :: r) r
  | plain {c : Char} {t r : List Char} (hc : isPlain c = true) (h : Literal t r) :
      Literal (c :: t) r
  | escaped {c x : Char} {t r : List Char} (hx : Escapes c x) (h : Literal t r) :
      Literal ('\\' :: c :: t) r
  /-- The escape of a 16-bit unit. -/
  | unit {a b c d : Char} {n : Nat} {t r : List Char} (hn : IsHexWord a b c d n)
      (h : Literal t r) : Literal ('\\' :: 'u' :: a :: b :: c :: d :: t) r

/-- What the rest of a string literal spells, between its characters and what is behind the closing
quote. -/
inductive Spells : List Char → List Char → List Char → Prop where
  | close {r : List Char} : Spells ('"' :: r) [] r
  | plain {c : Char} {t s r : List Char} (hc : isPlain c = true) (h : Spells t s r) :
      Spells (c :: t) (c :: s) r
  | escaped {c x : Char} {t s r : List Char} (hx : Escapes c x) (h : Spells t s r) :
      Spells ('\\' :: c :: t) (x :: s) r
  /-- A 16-bit unit that is a character by itself. -/
  | unit {a b c d x : Char} {t s r : List Char} (hx : IsHexWord a b c d x.toNat)
      (h : Spells t s r) : Spells ('\\' :: 'u' :: a :: b :: c :: d :: t) (x :: s) r
  /-- Two 16-bit units that are a character together. -/
  | pair {a b c d e f g h x : Char} {n m : Nat} {t s r : List Char}
      (hn : IsHexWord a b c d n) (hleading : 0xD800 ≤ n ∧ n ≤ 0xDBFF)
      (hm : IsHexWord e f g h m) (htrailing : 0xDC00 ≤ m ∧ m ≤ 0xDFFF)
      (hx : x.toNat = pairNumber n m) (hs : Spells t s r) :
      Spells ('\\' :: 'u' :: a :: b :: c :: d :: '\\' :: 'u' :: e :: f :: g :: h :: t)
        (x :: s) r

/-- A text without characters that must be escaped spells itself. -/
theorem spells_of_plain {s : List Char} (r : List Char) (h : s.all isPlain = true) :
    Spells (s ++ '"' :: r) s r := by
  induction s with
  | nil => exact .close
  | cons c s ih =>
      obtain ⟨hc, hs⟩ := Bool.and_eq_true_iff.mp (List.all_cons.symm.trans h)
      exact .plain hc (ih hs)

section

variable {t s r : List Char}

/-- What a string literal spells is read. -/
theorem Spells.stringBody_eq (h : Spells t s r) : stringBody t = some (s, r) := by
  induction h with
  | close => rfl
  | plain hc _ ih =>
      obtain ⟨hcontrol, hquote, hslash⟩ := isPlain_iff.mp hc
      have hescape {p : Prop} : _ = '\\' → p := fun h => absurd h hslash
      rw [stringBody.eq_5 _ _ hquote (fun _ _ _ _ _ => hescape) fun _ _ => hescape, ih,
        if_neg (by simp [hslash, hcontrol])]
      rfl
  | @escaped c x t s r hx _ ih =>
      have hc : c ≠ 'u' := by
        rintro rfl
        cases hx
      rw [stringBody.eq_4 _ _ fun _ _ _ _ _ h => absurd h hc, escaped?_eq_some_iff.mpr hx, ih]
      rfl
  | @unit a b c d x t s r hx _ ih =>
      obtain ⟨hleading, htrailing⟩ := unit_toNat x
      rw [stringBody, hexWord?_eq_some_iff.mpr hx]
      simp [hleading, htrailing, ih]
  | @pair a b c d e f g h x n m t s r hn hleading hm htrailing hx _ ih =>
      have hchar : pairChar n m = x := by
        rw [← Char.toNat_inj, toNat_pairChar hleading htrailing, hx]
      have hnot : isTrailing n = false := by
        rw [isTrailing, Bool.and_eq_false_iff, decide_eq_false_iff_not]
        exact .inl (by omega)
      rw [stringBody, hexWord?_eq_some_iff.mpr hn]
      simp [isLeading_iff.mpr hleading, hnot, hexWord?_eq_some_iff.mpr hm,
        isTrailing_iff.mpr htrailing, ih, hchar]

/-- What is read is what a string literal spells. -/
theorem spells_of_stringBody (h : stringBody t = some (s, r)) : Spells t s r := by
  induction t using stringBody.induct generalizing s with
  | case1 => cases h
  | case2 rest =>
      cases h
      exact .close
  | case3 a b c d rest hn =>
      simp [stringBody, hn] at h
  | case4 a b c d rest n hn htrailing =>
      simp [stringBody, hn, htrailing] at h
  | case5 a b c d n hn htrailing hleading e f g h' rest hm =>
      simp [stringBody, hn, htrailing, hleading, hm] at h
  | case6 a b c d n hn htrailing hleading e f g h' rest m hm hm' ih =>
      simp only [stringBody, hn, htrailing, hleading, hm, hm'] at h
      obtain ⟨⟨s', r'⟩, hrest, heq⟩ := Option.map_eq_some_iff.mp h
      cases heq
      exact .pair (hexWord?_eq_some_iff.mp hn) (isLeading_iff.mp hleading)
        (hexWord?_eq_some_iff.mp hm) (isTrailing_iff.mp hm')
        (toNat_pairChar (isLeading_iff.mp hleading) (isTrailing_iff.mp hm')) (ih hrest)
  | case7 a b c d n hn htrailing hleading e f g h' rest m hm hm' =>
      simp [stringBody, hn, htrailing, hleading, hm, hm'] at h
  | case8 a b c d rest n hn htrailing hleading hrest =>
      simp [stringBody, hn, htrailing, hleading] at h
  | case9 a b c d rest n hn htrailing hleading ih =>
      simp only [stringBody, hn, htrailing, hleading] at h
      obtain ⟨⟨s', r'⟩, hrest, heq⟩ := Option.map_eq_some_iff.mp h
      cases heq
      have hword := hexWord?_eq_some_iff.mp hn
      refine .unit ?_ (ih hrest)
      rwa [toNat_ofNat (isValidChar_of_unit hword.lt hleading htrailing)]
  | case10 c rest hc hx =>
      rw [stringBody.eq_4 _ _ hc, hx] at h
      cases h
  | case11 c rest hc x hx ih =>
      rw [stringBody.eq_4 _ _ hc, hx] at h
      obtain ⟨⟨s', r'⟩, hrest, heq⟩ := Option.map_eq_some_iff.mp h
      cases heq
      exact .escaped (escaped?_eq_some_iff.mp hx) (ih hrest)
  | case12 c rest hquote hunit hslash hcontrol =>
      rw [stringBody.eq_5 _ _ hquote hunit hslash, if_pos hcontrol] at h
      cases h
  | case13 c rest hquote hunit hslash hcontrol ih =>
      rw [stringBody.eq_5 _ _ hquote hunit hslash, if_neg hcontrol] at h
      obtain ⟨⟨s', r'⟩, hrest, heq⟩ := Option.map_eq_some_iff.mp h
      cases heq
      rw [Bool.or_eq_true, not_or, decide_eq_true_eq, decide_eq_true_eq] at hcontrol
      exact .plain (isPlain_iff.mpr ⟨Nat.le_of_not_lt hcontrol.1, hquote, hcontrol.2⟩) (ih hrest)

/-- What is read of a string is what the grammar says that it spells. -/
theorem stringBody_eq_some_iff : stringBody t = some (s, r) ↔ Spells t s r :=
  ⟨spells_of_stringBody, Spells.stringBody_eq⟩

end

/-- A string literal, with the text that it spells if it spells any, and what is behind it. -/
inductive Quoted : List Char → Option String → List Char → Prop where
  | spelled {t s r : List Char} (h : Spells t s r) : Quoted ('"' :: t) (some (String.ofList s)) r
  /-- Its escapes form no characters. -/
  | unspelled {t r : List Char} (h : Literal t r) (hs : ∀ s r', ¬ Spells t s r') :
      Quoted ('"' :: t) none r

/-- A string literal is read if it spells a text. -/
theorem Quoted.exists_body {t r : List Char} {s : Option String} (h : Quoted t s r) :
    ∃ body, t = '"' :: body ∧
      (stringBody body).map (fun read => (String.ofList read.1, read.2)) = s.map (·, r) := by
  cases h with
  | @spelled body s _ h => exact ⟨body, rfl, by rw [stringBody_eq_some_iff.mpr h]; rfl⟩
  | @unspelled body _ _ hs =>
      refine ⟨body, rfl, ?_⟩
      cases hbody : stringBody body with
      | none => rfl
      | some read => exact absurd (stringBody_eq_some_iff.mp hbody) (hs _ _)

end ExchangeMetrics.Json
