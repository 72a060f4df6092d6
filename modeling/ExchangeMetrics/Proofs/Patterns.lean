import ExchangeMetrics.Proofs.Filling
import ExchangeMetrics.Proofs.Reading

/-!
# Patterns in placeholders

A placeholder may have a pattern behind its name, after a colon. The pattern is not used: a template
is expanded as if the name stood in the placeholder alone. But a placeholder ends at the first
closing brace behind it, whichever brace that is. A pattern with braces of its own, such as the
number of digits in `\d{4}`, is cut there, and what is left of it, with the brace that should
have ended the placeholder, becomes part of the template.

## Main results

* `Template.fill_patterned`: what a template with a pattern is filled like.
* `Template.expand_patterned`: the patterns that make no difference are those without a closing
  brace.
* `Template.expand_quantifier`: a number of digits ends up in the URI as a closing brace.
-/

namespace ExchangeMetrics

/-- The same error about another template. -/
def MetricsError.about (template : String) : MetricsError → MetricsError
  | uriTemplate _ fault => uriTemplate template fault
  | error => error

namespace Template

/-! ### Placeholders with and without a pattern -/

/-- A placeholder with a name in it. -/
def bare (name : List Char) : List Char :=
  '\x7b' :: (name ++ ['\x7d'])

/-- A placeholder with a name in it, and a pattern behind the name. -/
def patterned (name pattern : List Char) : List Char :=
  '\x7b' :: (name ++ ':' :: (pattern ++ ['\x7d']))

/-- What is left of a pattern when the placeholder ends at the first closing brace: the rest of the
pattern, and the brace behind it. -/
def overhang (pattern : List Char) : List Char :=
  match after? '\x7d' pattern with
  | none => []
  | some rest => rest ++ ['\x7d']

/-- The braces of a text belong together in pairs. -/
inductive Balanced : List Char → Prop where
  | nil : Balanced []
  | plain {c : Char} {cs : List Char} (hopen : c ≠ '\x7b') (hclose : c ≠ '\x7d')
      (hcs : Balanced cs) : Balanced (c :: cs)
  | nested {inner cs : List Char} (hinner : Balanced inner) (hcs : Balanced cs) :
      Balanced ('\x7b' :: (inner ++ '\x7d' :: cs))

/-- Two templates are expanded to the same URIs, and fail with the same errors, in which each is
named as the template that cannot be expanded. -/
def ExpandAlike (cs cs' : List Char) : Prop :=
  ∀ vars, expand (String.ofList cs') vars =
    (expand (String.ofList cs) vars).mapError (·.about (String.ofList cs'))

section

variable {name pattern inside inside' literal cs cs' filled : List Char} {before : Skeleton}
  {vars : Variables} {uri : Uri}

/-- Where there is a closing brace there is an opening one. -/
theorem Balanced.close_mem_iff (h : Balanced cs) : '\x7d' ∈ cs ↔ '\x7b' ∈ cs := by
  induction h with
  | nil => simp
  | plain hopen hclose _ ih => simp [hopen.symm, hclose.symm, ih]
  | nested _ _ _ _ => simp

/-- Nothing is left over of a pattern without a closing brace. -/
theorem overhang_of_not_mem (h : '\x7d' ∉ pattern) : overhang pattern = [] := by
  rw [overhang, after?_of_not_mem h]

/-- Of a pattern with a closing brace, what is behind the first one is left over, with the brace of
the placeholder. -/
theorem overhang_append_cons {pre post : List Char} (h : '\x7d' ∉ pre) :
    overhang (pre ++ '\x7d' :: post) = post ++ ['\x7d'] := by
  rw [overhang, after?_append_cons h]

/-- Nothing is left over of a pattern exactly if it has no closing brace. -/
theorem overhang_eq_nil_iff : overhang pattern = [] ↔ '\x7d' ∉ pattern := by
  refine ⟨fun h hmem => ?_, overhang_of_not_mem⟩
  obtain ⟨pre, post, rfl, hpre⟩ := List.eq_append_cons_of_mem hmem
  simp [overhang_append_cons hpre] at h

/-- Without a pattern, the name is all that stands in the placeholder. -/
theorem placeholderName_of_not_mem (h : ':' ∉ name) :
    placeholderName name = String.ofList (Text.trimChars name) := by
  rw [placeholderName, takeWhile_of_not_mem h]

/-- The name in a placeholder ends at the colon. -/
theorem placeholderName_append_cons (h : ':' ∉ name) (pattern : List Char) :
    placeholderName (name ++ ':' :: pattern) = placeholderName name := by
  rw [placeholderName_of_not_mem h, placeholderName, takeWhile_append_cons h]

/-! ### Filling -/

/-- What is filled alike behind every literal is filled alike behind any beginning of a template in
which all placeholders are closed. -/
theorem Skeleton.fill_append_congr (hbefore : .unclosed ∉ before.placeholders)
    (h : ∀ literal vars, '\x7b' ∉ literal → fill vars (literal ++ cs) = fill vars (literal ++ cs'))
    (vars : Variables) : fill vars (before.text ++ cs) = fill vars (before.text ++ cs') := by
  induction before generalizing vars with
  | literal l hl => exact h l vars hl
  | unclosed => simp [placeholders] at hbefore
  | placeholder l inside hl hinside rest ih =>
      simp only [placeholders, List.mem_cons, not_or] at hbefore
      simp only [text, List.append_assoc, List.cons_append]
      rw [fill_placeholder hl hinside, fill_placeholder hl hinside]
      cases vars.next? (placeholderName inside) with
      | none => rfl
      | some next =>
          obtain ⟨value, vars'⟩ := next
          dsimp only
          rw [ih hbefore.2 vars']

/-- Of a placeholder, only the name counts. -/
theorem fill_congr_of_name (hbefore : .unclosed ∉ before.placeholders) (hinside : '\x7d' ∉ inside)
    (hinside' : '\x7d' ∉ inside') (hname : placeholderName inside = placeholderName inside')
    (rest : List Char) (vars : Variables) :
    fill vars (before.text ++ '\x7b' :: (inside ++ '\x7d' :: rest)) =
      fill vars (before.text ++ '\x7b' :: (inside' ++ '\x7d' :: rest)) := by
  refine Skeleton.fill_append_congr hbefore (fun literal vars hliteral => ?_) vars
  rw [fill_placeholder hliteral hinside, fill_placeholder hliteral hinside', hname]

/-- A template with a pattern is filled like the one without it, with what is left of the pattern
behind the placeholder: this goes up to the first closing brace, with or without all of the
pattern. -/
theorem fill_patterned (hbefore : .unclosed ∉ before.placeholders) (hcolon : ':' ∉ name)
    (hclose : '\x7d' ∉ name) (pattern rest : List Char) (vars : Variables) :
    fill vars (before.text ++ patterned name pattern ++ rest) =
      fill vars (before.text ++ bare name ++ overhang pattern ++ rest) := by
  by_cases hmem : '\x7d' ∈ pattern
  · obtain ⟨pre, post, rfl, hpre⟩ := List.eq_append_cons_of_mem hmem
    have hinside : '\x7d' ∉ name ++ ':' :: pre := by simp [hclose, hpre]
    have hfill := fill_congr_of_name hbefore hinside hclose
      (placeholderName_append_cons hcolon pre) (post ++ '\x7d' :: rest) vars
    simpa [patterned, bare, overhang_append_cons hpre] using hfill
  · have hinside : '\x7d' ∉ name ++ ':' :: pattern := by simp [hclose, hmem]
    have hfill := fill_congr_of_name hbefore hinside hclose
      (placeholderName_append_cons hcolon pattern) rest vars
    simpa [patterned, bare, overhang_of_not_mem hmem] using hfill

/-- Without values, a template that is filled is a literal. -/
theorem eq_of_fill_nil (h : fill (.positional []) cs = .ok filled) : filled = cs := by
  obtain ⟨sk, rfl⟩ := Skeleton.exists_text_eq cs
  cases sk with
  | literal l hl =>
      rw [Skeleton.text, fill_literal hl] at h
      cases h
      rfl
  | unclosed l inside hl hinside =>
      rw [Skeleton.text, fill_unclosed hl hinside] at h
      cases h
  | placeholder l inside hl hinside rest =>
      rw [Skeleton.text, fill_placeholder hl hinside] at h
      cases h

/-- An empty value leaves nothing in the place of a placeholder. -/
theorem fill_bare_empty (hliteral : '\x7b' ∉ literal) (hclose : '\x7d' ∉ name) (rest : List Char) :
    fill (.positional [""]) (literal ++ bare name ++ rest) =
      (fill (.positional []) rest).map (literal ++ ·) := by
  have hempty : Text.percentEncode "" = [] := rfl
  have hfill : fill (.positional [""]) (literal ++ '\x7b' :: (name ++ '\x7d' :: rest)) = _ :=
    fill_placeholder hliteral hclose
  simpa [bare, Variables.next?, hempty] using hfill

/-! ### Expanding -/

/-- An expansion gives a URI exactly if the template is filled with a text that is one. -/
theorem expand_eq_ok_iff :
    expand (String.ofList cs) vars = .ok uri ↔
      ∃ filled, fill vars cs = .ok filled ∧ Uri.parse (String.ofList filled) = .ok uri := by
  rw [expand, String.toList_ofList]
  cases hfill : fill vars cs with
  | error fault => simp
  | ok filled => cases hparse : Uri.parse (String.ofList filled) <;> simp [hparse]

/-- Templates that are filled alike are expanded alike. -/
theorem ExpandAlike.of_fill (h : ∀ vars, fill vars cs = fill vars cs') : ExpandAlike cs cs' := by
  intro vars
  rw [expand, expand, String.toList_ofList, String.toList_ofList, h vars]
  cases fill vars cs' with
  | error fault => rfl
  | ok filled =>
      dsimp only
      cases Uri.parse (String.ofList filled) <;> rfl

/-- Of two templates that expand alike, one expands to what the other does. -/
theorem ExpandAlike.eq_ok (h : ExpandAlike cs cs')
    (hok : expand (String.ofList cs') vars = .ok uri) :
    expand (String.ofList cs) vars = .ok uri := by
  have hvars := h vars
  rw [hok] at hvars
  cases hexpand : expand (String.ofList cs) vars with
  | error e => rw [hexpand] at hvars; cases hvars
  | ok uri' => rw [hexpand] at hvars; exact congrArg Except.ok (Except.ok.inj hvars).symm

/-- What is left of a pattern with a closing brace shows at least behind an asterisk, which is a URI
only if nothing follows it. -/
theorem not_expandAlike_of_mem (hcolon : ':' ∉ name) (hclose : '\x7d' ∉ name)
    (h : '\x7d' ∈ pattern) :
    ¬ ExpandAlike (['*'] ++ patterned name pattern ++ []) (['*'] ++ bare name ++ []) := by
  intro halike
  have hstar : '\x7b' ∉ ['*'] := by decide
  have hok : expand (String.ofList (['*'] ++ bare name ++ [])) (.positional [""]) =
      .ok ⟨none, none, "*", none⟩ := by
    refine expand_eq_ok_iff.mpr ⟨['*'], ?_, by decide +kernel⟩
    rw [fill_bare_empty hstar hclose, fill_literal (by simp)]
    rfl
  obtain ⟨filled, hfill, hparse⟩ := expand_eq_ok_iff.mp (halike.eq_ok hok)
  have hclosed : .unclosed ∉ (Skeleton.literal ['*'] hstar).placeholders := by
    simp [Skeleton.placeholders]
  have hpatterned := fill_patterned hclosed hcolon hclose pattern [] (.positional [""])
  rw [Skeleton.text, hfill, List.append_nil, fill_bare_empty hstar hclose] at hpatterned
  cases hoverhang : fill (.positional []) (overhang pattern) with
  | error fault => rw [hoverhang] at hpatterned; cases hpatterned
  | ok left =>
      rw [hoverhang, eq_of_fill_nil hoverhang] at hpatterned
      obtain rfl : filled = '*' :: overhang pattern := Except.ok.inj hpatterned
      have hasterisk := congrArg String.toList (Uri.eq_asterisk_of_parse hparse rfl (by simp))
      rw [String.toList_ofList] at hasterisk
      exact overhang_eq_nil_iff.mp (List.cons.inj hasterisk).2 h

end

/-- Wherever a placeholder may stand in a template, a pattern in it makes no difference but for what
is left of it behind the first closing brace. So those patterns make none that have no closing
brace, which for a pattern whose braces are balanced means that it has no braces at all. -/
theorem expand_patterned {name pattern : List Char} (hcolon : ':' ∉ name) (hclose : '\x7d' ∉ name) :
    (∀ before : Skeleton, .unclosed ∉ before.placeholders → ∀ rest : List Char,
      ExpandAlike (before.text ++ patterned name pattern ++ rest)
        (before.text ++ bare name ++ overhang pattern ++ rest)) ∧
      ((∀ before : Skeleton, .unclosed ∉ before.placeholders → ∀ rest : List Char,
        ExpandAlike (before.text ++ patterned name pattern ++ rest)
          (before.text ++ bare name ++ rest)) ↔ '\x7d' ∉ pattern) ∧
      (Balanced pattern → ('\x7d' ∉ pattern ↔ '\x7b' ∉ pattern)) := by
  have hall : ∀ before : Skeleton, .unclosed ∉ before.placeholders → ∀ rest : List Char,
      ExpandAlike (before.text ++ patterned name pattern ++ rest)
        (before.text ++ bare name ++ overhang pattern ++ rest) := fun before hbefore rest =>
    .of_fill (fill_patterned hbefore hcolon hclose pattern rest)
  refine ⟨hall, ⟨fun h hmem => ?_, fun h before hbefore rest => ?_⟩, fun h => ?_⟩
  · have hstar := h (.literal ['*'] (by decide)) (by simp [Skeleton.placeholders]) []
    exact not_expandAlike_of_mem hcolon hclose hmem hstar
  · have halike := hall before hbefore rest
    rwa [overhang_of_not_mem h, List.append_nil] at halike
  · rw [h.close_mem_iff]

/-- The beginning of a template: a shelf of an archive. -/
def shelves : Skeleton :=
  .placeholder "/archive/".toList "shelf:.".toList (by decide) (by decide)
    (.literal "/".toList (by decide))

/-- A pattern without braces makes no difference behind a placeholder with another one. -/
theorem expand_patterned_digits :
    ':' ∉ "year".toList ∧ '\x7d' ∉ "year".toList ∧ '\x7d' ∉ "\\d+".toList ∧
      ExpandAlike (shelves.text ++ patterned "year".toList "\\d+".toList ++ "/a".toList)
        (shelves.text ++ bare "year".toList ++ "/a".toList) ∧
      expand (String.ofList (shelves.text ++ patterned "year".toList "\\d+".toList ++ "/a".toList))
        (.positional ["x", "2024"]) = .ok ⟨none, none, "/archive/x/2024/a", none⟩ := by
  have hcolon : ':' ∉ "year".toList := by decide
  have hclose : '\x7d' ∉ "year".toList := by decide
  have hpattern : '\x7d' ∉ "\\d+".toList := by decide
  have hshelves : .unclosed ∉ shelves.placeholders := by decide
  refine ⟨hcolon, hclose, hpattern, ?_, by decide +kernel⟩
  exact (expand_patterned hcolon hclose).2.1.mpr hpattern shelves hshelves "/a".toList

/-- A year of four digits is put into the URI with a closing brace behind it. -/
theorem expand_quantifier :
    Balanced "\\d\x7b4\x7d".toList ∧
      expand "/archive/\x7byear:\\d\x7b4\x7d\x7d" (.positional ["2024"]) =
        .ok ⟨none, none, "/archive/2024\x7d", none⟩ ∧
      expand "/archive/\x7byear\x7d" (.positional ["2024"]) =
        .ok ⟨none, none, "/archive/2024", none⟩ ∧
      ¬ ExpandAlike "/archive/\x7byear:\\d\x7b4\x7d\x7d".toList "/archive/\x7byear\x7d".toList := by
  have hquantified : expand "/archive/\x7byear:\\d\x7b4\x7d\x7d" (.positional ["2024"]) =
      .ok ⟨none, none, "/archive/2024\x7d", none⟩ := by
    decide +kernel
  have hbare : expand "/archive/\x7byear\x7d" (.positional ["2024"]) =
      .ok ⟨none, none, "/archive/2024", none⟩ := by
    decide +kernel
  refine ⟨?_, hquantified, hbare, fun h => ?_⟩
  · exact .plain (by decide) (by decide) (.plain (by decide) (by decide)
      (.nested (.plain (by decide) (by decide) .nil) .nil))
  · rw [← @String.ofList_toList "/archive/\x7byear\x7d"] at hbare
    have hok := h.eq_ok hbare
    rw [String.ofList_toList, hquantified] at hok
    exact absurd hok (by decide)

end Template

end ExchangeMetrics
