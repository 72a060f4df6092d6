import ExchangeMetrics.Config.Reader
import ExchangeMetrics.Proofs.Literals

/-!
# Reading configurations from objects

The texts of JSON objects are given by a grammar. The reader goes through such a text member by
member, and looks only at what it needs: a value of another kind than its field has ends the reading
whatever it is. So what is read depends on the members of the object alone, and not on white space
or on how keys and strings are escaped.

## Main results

* `Config.readMembers_toOption`: the reader goes through an object member by member.
* `Config.read_toOption`: what is read depends on the members alone.
-/

namespace ExchangeMetrics

namespace Json

/-! ### Numbers -/

/-- Digits, one at least. -/
inductive Digits : List Char → List Char → Prop where
  | last {c : Char} {r : List Char} (hc : c.isDigit = true) : Digits (c :: r) r
  | digit {c : Char} {t r : List Char} (hc : c.isDigit = true) (h : Digits t r) :
      Digits (c :: t) r

/-- The digits in front of the point. There is no zero in front of another digit. -/
inductive Whole : List Char → List Char → Prop where
  | zero {r : List Char} : Whole ('0' :: r) r
  | digits {t r : List Char} (ht : t.head? ≠ some '0') (h : Digits t r) : Whole t r

/-- The point and the digits behind it, if there are any. -/
inductive Fraction : List Char → List Char → Prop where
  | none {r : List Char} : Fraction r r
  | point {t r : List Char} (h : Digits t r) : Fraction ('.' :: t) r

/-- The exponent, if there is one. -/
inductive Exponent : List Char → List Char → Prop where
  | none {r : List Char} : Exponent r r
  | plain {e : Char} {t r : List Char} (he : e = 'e' ∨ e = 'E') (h : Digits t r) :
      Exponent (e :: t) r
  | signed {e sign : Char} {t r : List Char} (he : e = 'e' ∨ e = 'E')
      (hsign : sign = '+' ∨ sign = '-') (h : Digits t r) : Exponent (e :: sign :: t) r

/-- A number. -/
inductive Numeral : List Char → List Char → Prop where
  | positive {t t₁ t₂ r : List Char} (hw : Whole t t₁) (hf : Fraction t₁ t₂)
      (he : Exponent t₂ r) : Numeral t r
  | negative {t t₁ t₂ r : List Char} (hw : Whole t t₁) (hf : Fraction t₁ t₂)
      (he : Exponent t₂ r) : Numeral ('-' :: t) r

/-! ### Values -/

/-- A value, as far as it matters to configurations. -/
inductive Value where
  | null
  | boolean (b : Bool)
  | number
  /-- A string, with its text if its escapes form characters. -/
  | string (s : Option String)
  | array
  | object

/-- A member of an object. -/
structure Member where
  /-- The text of the key, if its escapes form characters. -/
  key : Option String
  /-- The value. -/
  value : Value

/-- What stands in front of an item: white space, and a comma unless it is the first one. -/
inductive Lead : Bool → List Char → List Char → Prop where
  | first {t r : List Char} (h : Ws t r) : Lead true t r
  | later {t t₁ r : List Char} (h : Ws t (',' :: t₁)) (h₁ : Ws t₁ r) : Lead false t r

section

variable (W : List Char → Value → List Char → Prop)

/-- The rest of an array up to its end, given how values are written. -/
inductive Elements : Bool → List Char → List Char → Prop where
  | close {first : Bool} {t r : List Char} (h : Ws t (']' :: r)) : Elements first t r
  | element {first : Bool} {t t₁ t₂ r : List Char} {v : Value} (hl : Lead first t t₁)
      (hv : W t₁ v t₂) (h : Elements false t₂ r) : Elements first t r

/-- The rest of an object up to its end, with its members, given how values are written. -/
inductive Members : Bool → List Char → List Member → List Char → Prop where
  | close {first : Bool} {t r : List Char} (h : Ws t ('\x7d' :: r)) : Members first t [] r
  | member {first : Bool} {t t₁ t₂ t₃ t₄ t₅ r : List Char} {k : Option String} {v : Value}
      {ms : List Member} (hl : Lead first t t₁) (hk : Quoted t₁ k t₂)
      (hcolon : Ws t₂ (':' :: t₃)) (hspace : Ws t₃ t₄) (hv : W t₄ v t₅)
      (h : Members false t₅ ms r) : Members first t (⟨k, v⟩ :: ms) r

end

/-- How values are written. -/
inductive Written : List Char → Value → List Char → Prop where
  | null {r : List Char} : Written ('n' :: 'u' :: 'l' :: 'l' :: r) .null r
  | yes {r : List Char} : Written ('t' :: 'r' :: 'u' :: 'e' :: r) (.boolean true) r
  | no {r : List Char} : Written ('f' :: 'a' :: 'l' :: 's' :: 'e' :: r) (.boolean false) r
  | number {t r : List Char} (h : Numeral t r) : Written t .number r
  | string {t r : List Char} {s : Option String} (h : Quoted t s r) : Written t (.string s) r
  | array {t r : List Char} (h : Elements Written true t r) : Written ('[' :: t) .array r
  | object {t r : List Char} {ms : List Member} (h : Members Written true t ms r) :
      Written ('\x7b' :: t) .object r

/-- The text of an object with these members. -/
def ObjectText (cs : List Char) (ms : List Member) : Prop :=
  ∃ t r, Ws cs ('\x7b' :: t) ∧ Members Written true t ms r ∧ Ws r []

/-! ### What a value begins with -/

/-- The text that a value is, if it is one. -/
def Value.text? : Value → Option String
  | string s => s
  | _ => none

/-- The truth value that a value is, if it is one. -/
def Value.truth? : Value → Option Bool
  | boolean b => some b
  | _ => none

section

variable {t r : List Char}

/-- A digit is no other kind of character. -/
theorem ne_of_isDigit {c x : Char} (hc : c.isDigit = true) (hx : x.isDigit = false) : c ≠ x := by
  rintro rfl
  rw [hx] at hc
  cases hc

/-- Digits begin with a digit. -/
theorem Digits.exists_head (h : Digits t r) : ∃ c rest, t = c :: rest ∧ c.isDigit = true := by
  cases h with
  | last hc => exact ⟨_, _, rfl, hc⟩
  | digit hc _ => exact ⟨_, _, rfl, hc⟩

/-- A whole number begins with a digit. -/
theorem Whole.exists_head (h : Whole t r) : ∃ c rest, t = c :: rest ∧ c.isDigit = true := by
  cases h with
  | zero => exact ⟨'0', _, rfl, rfl⟩
  | digits _ h => exact h.exists_head

/-- Nothing else begins like a number. -/
theorem Numeral.exists_head (h : Numeral t r) : ∃ c rest, t = c :: rest ∧ isSpace c = false ∧
    c ≠ '"' ∧ c ≠ 't' ∧ c ≠ 'f' := by
  cases h with
  | positive hw _ _ =>
      obtain ⟨c, rest, ht, hc⟩ := hw.exists_head
      have hspace : isSpace c = false := by simp [isSpace, ne_of_isDigit hc]
      exact ⟨c, rest, ht, hspace, ne_of_isDigit hc rfl, ne_of_isDigit hc rfl,
        ne_of_isDigit hc rfl⟩
  | negative _ _ _ => exact ⟨'-', _, rfl, rfl, by decide, by decide, by decide⟩

/-- What is written is a string, or begins with another character than strings do. -/
theorem Written.quoted_or {v : Value} (h : Written t v r) : Quoted t v.text? r ∨
    v.text? = none ∧ ∃ c rest, t = c :: rest ∧ isSpace c = false ∧ c ≠ '"' := by
  cases h with
  | string h => exact .inl h
  | number h =>
      obtain ⟨c, rest, ht, hspace, hc, -⟩ := h.exists_head
      exact .inr ⟨rfl, c, rest, ht, hspace, hc⟩
  | _ => exact .inr ⟨rfl, _, _, rfl, rfl, by decide⟩

/-- What is written is a truth value, or begins with another character than truth values do. -/
theorem Written.boolean_or {v : Value} (h : Written t v r) : (∃ b, v = .boolean b) ∨
    v.truth? = none ∧ ∃ c rest, t = c :: rest ∧ isSpace c = false ∧ c ≠ 't' ∧ c ≠ 'f' := by
  cases h with
  | yes => exact .inl ⟨true, rfl⟩
  | no => exact .inl ⟨false, rfl⟩
  | string h =>
      obtain ⟨body, rfl, -⟩ := h.exists_body
      exact .inr ⟨rfl, '"', body, rfl, rfl, by decide, by decide⟩
  | number h =>
      obtain ⟨c, rest, ht, hspace, -, hc⟩ := h.exists_head
      exact .inr ⟨rfl, c, rest, ht, hspace, hc⟩
  | _ => exact .inr ⟨rfl, _, _, rfl, rfl, by decide, by decide⟩

end

end Json

namespace Config

/-! ### Reading values -/

section

variable {ε α β : Type}

/-- What goes on from a value comes to something exactly if both parts do. -/
theorem toOption_bind (x : Except ε α) (f : α → Except ε β) :
    (x >>= f).toOption = x.toOption.bind fun a => (f a).toOption := by
  cases x <;> rfl

/-- What does not fit comes to nothing. -/
theorem misfit_toOption (expected : Expected) (cs : List Char) :
    (misfit expected cs : Except ConfigTextError α).toOption = none := by
  rw [misfit]
  cases found cs <;> rfl

/-- What has to be well formed comes to what it is, if it is. -/
theorem wellFormed_toOption (o : Option α) : (wellFormed o).toOption = o := by
  cases o <;> rfl

end

section

variable {t₀ t r : List Char} {v : Json.Value}

/-- A string is read where one stands, and nothing else is read as one. -/
theorem readString_toOption (hspace : Json.Ws t₀ t) (h : Json.Written t v r) :
    (readString t₀).toOption = v.text?.map (·, r) := by
  rcases h.quoted_or with hquoted | ⟨hnone, c, rest, rfl, hc, hquote⟩
  · obtain ⟨body, rfl, hbody⟩ := hquoted.exists_body
    rw [readString, hspace.skipSpace_eq_cons rfl, ← hbody]
    simp only [toOption_bind, wellFormed_toOption]
    cases Json.stringBody body <;> rfl
  · rw [readString, hspace.skipSpace_eq_cons hc, hnone]
    split
    · next heq => exact absurd (List.cons.inj heq).1 hquote
    · exact misfit_toOption _ _

/-- So is a truth value. -/
theorem readBool_toOption (hspace : Json.Ws t₀ t) (h : Json.Written t v r) :
    (readBool t₀).toOption = v.truth?.map (·, r) := by
  rcases h.boolean_or with ⟨b, rfl⟩ | ⟨hnone, c, rest, rfl, hc, ht, hf⟩
  · cases h with
    | yes =>
        rw [readBool, hspace.skipSpace_eq_cons rfl]
        rfl
    | no =>
        rw [readBool, hspace.skipSpace_eq_cons rfl]
        rfl
  · rw [readBool, hspace.skipSpace_eq_cons hc, hnone]
    split
    · next heq => exact absurd (List.cons.inj heq).1 ht
    · next heq => exact absurd (List.cons.inj heq).1 hf
    · exact misfit_toOption _ _

/-- A configuration with the value of a field replaced, if the value is of the kind of the field. -/
def put? (c : Config) (f : Field) (v : Json.Value) : Option Config :=
  match f with
  | .metricName => v.text?.map fun s => { c with metricName := s }
  | .description => v.text?.map fun s => { c with description := s }
  | .unknownUri => v.text?.map fun s => { c with unknownUri := s }
  | .propagates => v.truth?.map fun b => { c with propagates := b }

/-- A field is read as the value that is written, if it is of the kind that the field needs. -/
theorem readField_toOption (c : Config) (f : Field) (hspace : Json.Ws t₀ t)
    (h : Json.Written t v r) : (readField c f t₀).toOption = (c.put? f v).map (·, r) := by
  have hstring := readString_toOption hspace h
  have hbool := readBool_toOption hspace h
  cases f with
  | propagates =>
      rw [readField, toOption_bind, hbool, put?]
      cases v.truth? <;> rfl
  | _ =>
      rw [readField, toOption_bind, hstring, put?]
      cases v.text? <;> rfl

end

/-! ### Reading members -/

/-- The field of a key among those that were not given yet. -/
def fieldOf? (remaining : List Field) (k : Option String) : Option { f : Field // f ∈ remaining } :=
  (k.bind Field.ofKey?).bind fun f => if h : f ∈ remaining then some ⟨f, h⟩ else none

/-- What the members of an object make of a configuration, as long as all of them fit. -/
def settle? (remaining : List Field) (c : Config) : List Json.Member → Option Config
  | [] => some c
  | m :: ms => do
      let f ← fieldOf? remaining m.key
      let c ← c.put? f m.value
      settle? (remaining.erase f) c ms

section

variable {remaining : List Field} {c : Config} {first : Bool} {t t₁ t₂ r : List Char}
  {k : Option String} {ms : List Json.Member}

/-- A key is read if it is that of a field that was not given yet. -/
theorem readKey_toOption (hk : Json.Quoted t k t₁) (hcolon : Json.Ws t₁ (':' :: t₂)) :
    (readKey remaining t).toOption = (fieldOf? remaining k).map (·, t₂) := by
  obtain ⟨body, rfl, hbody⟩ := hk.exists_body
  rw [readKey]
  dsimp only
  rw [toOption_bind, wellFormed_toOption]
  cases k with
  | none =>
      have hnone := Option.map_eq_none_iff.mp hbody
      rw [hnone]
      rfl
  | some key =>
      obtain ⟨⟨s, rest⟩, hread, heq⟩ := Option.map_eq_some_iff.mp hbody
      cases heq
      rw [hread, Option.bind_some, fieldOf?, Option.bind_some]
      dsimp only
      cases Field.ofKey? (String.ofList s) with
      | none => rfl
      | some f =>
          rw [Option.bind_some]
          dsimp only
          by_cases hf : f ∈ remaining
          · rw [dif_pos hf, dif_pos hf, hcolon.skipSpace_eq_cons rfl]
            rfl
          · rw [dif_neg hf, dif_neg hf]
            rfl

/-- The members of an object are read one by one. -/
theorem readMembers_toOption (h : Json.Members Json.Written first t ms r) :
    (readMembers remaining c first t).toOption = (settle? remaining c ms).map (·, r) := by
  induction h generalizing remaining c with
  | close h =>
      rw [readMembers, h.skipSpace_eq_cons rfl]
      rfl
  | @member first t t₁ t₂ t₃ t₄ t₅ r k v ms hl hk hcolon hspace hv _ ih =>
      have hmember : (readKey remaining t₁ >>= fun key => readField c key.1 key.2 >>= fun field =>
          readMembers (remaining.erase key.1) field.1 false field.2).toOption =
            (settle? remaining c (⟨k, v⟩ :: ms)).map (·, r) := by
        rw [toOption_bind, readKey_toOption hk hcolon, settle?]
        cases fieldOf? remaining k with
        | none => rfl
        | some f =>
            simp only [Option.map_some, Option.bind_some, toOption_bind,
              readField_toOption c f hspace hv, Option.bind_eq_bind]
            cases c.put? f v with
            | none => rfl
            | some c => exact ih
      obtain ⟨body, rfl, -⟩ := hk.exists_body
      rw [readMembers]
      cases hl with
      | first h =>
          rw [h.skipSpace_eq_cons rfl]
          exact hmember
      | later h h' =>
          rw [← h'.skipSpace_eq_cons rfl] at hmember
          rw [h.skipSpace_eq_cons rfl]
          exact hmember

end

/-- What is read from the text of an object depends on its members alone. -/
theorem read_toOption {text : String} {ms : List Json.Member} (h : Json.ObjectText text.toList ms) :
    (read text).toOption = settle? Field.all {} ms := by
  obtain ⟨t, r, hopen, hmembers, hclose⟩ := h
  rw [read, hopen.skipSpace_eq_cons rfl]
  simp only [toOption_bind, readMembers_toOption hmembers]
  cases settle? Field.all {} ms with
  | none => rfl
  | some c =>
      simp only [Option.map_some, Option.bind_some, hclose.skipSpace_eq]
      rfl

end Config

end ExchangeMetrics
