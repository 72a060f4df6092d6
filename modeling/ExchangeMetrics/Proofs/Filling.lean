import ExchangeMetrics.Proofs.Skeleton

/-!
# Expanding a template

Expanding goes through a template from left to right, and each placeholder uses up one value. The
result is the one that the skeleton of the template describes: going on from a placeholder is the
same as beginning behind it with the values that are left (`Skeleton.fill_text`).

## Main results

* `Template.expand_eq_expansion`: expanding a template gives what its skeleton says.
* `Template.Skeleton.expansion_congr`: only the values of the placeholders count.
* `Template.expand_eq_reference`: both, with what the skeleton says spelled out.
-/

namespace ExchangeMetrics

namespace Variables

/-- The values that are left after a number of placeholders. -/
def drop (n : Nat) : Variables → Variables
  | positional values => positional (values.drop n)
  | named pairs => named pairs

/-- Leaving out no values leaves all. -/
theorem drop_zero (vars : Variables) : vars.drop 0 = vars := by
  cases vars <;> rfl

/-- The next value is the one with the number of placeholders that were passed. -/
theorem next?_drop (vars : Variables) (n : Nat) (name : String) :
    (vars.drop n).next? name = (vars.value? n name).map (·, vars.drop (n + 1)) := by
  cases vars with
  | positional values =>
      rw [drop, drop, value?, ← List.head?_drop, ← List.tail_drop]
      cases values.drop n with
      | nil => rfl
      | cons value rest => rfl
  | named pairs => simp [drop, next?, value?, Function.comp_def]

end Variables

namespace Template

/-! ### Scanning -/

section

variable {c : Char} {cs inside rest : List Char} {vars : Variables}

/-- What stands behind a character is what follows its first occurrence. -/
theorem after?_append_cons (h : c ∉ cs) : after? c (cs ++ c :: rest) = some rest := by
  rw [after?, List.dropWhile_append_of_pos (forall_ne_of_not_mem h),
    List.dropWhile_cons_of_neg (by simp)]

/-- Nothing stands behind a character that does not occur. -/
theorem after?_of_not_mem (h : c ∉ cs) : after? c cs = none := by
  rw [after?, List.dropWhile_eq_nil_iff.mpr (forall_ne_of_not_mem h)]

/-- A text without placeholders is filled as it is. -/
theorem fill_literal (hcs : '\x7b' ∉ cs) : fill vars cs = .ok cs := by
  unfold fill
  split
  · rfl
  · simp_all [after?_of_not_mem]

/-- A placeholder that is not closed is an error. -/
theorem fill_unclosed (hcs : '\x7b' ∉ cs) (hinside : '\x7d' ∉ inside) :
    fill vars (cs ++ '\x7b' :: inside) = .error .unclosed := by
  unfold fill
  split
  · simp_all [after?_append_cons]
  · rename_i inside' h
    obtain rfl : inside = inside' := by simpa [after?_append_cons hcs] using h
    split
    · rfl
    · simp_all [after?_of_not_mem]

/-- A placeholder is filled with the next value of its name, and what follows with the values that
are left; without a value it is an error. -/
theorem fill_placeholder (hcs : '\x7b' ∉ cs) (hinside : '\x7d' ∉ inside) :
    fill vars (cs ++ '\x7b' :: (inside ++ '\x7d' :: rest)) =
      match vars.next? (placeholderName inside) with
      | none => .error (.missing (placeholderName inside))
      | some (value, vars') =>
          (fill vars' rest).map fun filled => cs ++ Text.percentEncode value ++ filled := by
  rw [fill]
  split
  · simp_all [after?_append_cons]
  · rename_i inside' h
    obtain rfl : inside ++ '\x7d' :: rest = inside' := by simpa [after?_append_cons hcs] using h
    split
    · simp_all [after?_append_cons]
    · rename_i rest' h'
      obtain rfl : rest = rest' := by simpa [after?_append_cons hinside] using h'
      rw [takeWhile_append_cons hcs, takeWhile_append_cons hinside]
      dsimp only
      cases vars.next? (placeholderName inside) with
      | none => rfl
      | some next =>
          obtain ⟨value, vars'⟩ := next
          dsimp only
          cases fill vars' rest <;> rfl

end

/-! ### Filling -/

/-- Filling what is left of a template when a number of placeholders were passed: the induction is
on the skeleton, and with each placeholder one value is used up. -/
theorem Skeleton.fill_text (sk : Skeleton) (vars : Variables) (n : Nat) :
    fill (vars.drop n) sk.text =
      match (sk.placeholders.zipIdx n).findSome? fun (p, i) => p.fault? vars i with
      | some fault => .error fault
      | none => .ok (interleave sk.literals
          (((sk.placeholders.zipIdx n).filterMap fun (p, i) => p.value? vars i).map
            Text.percentEncode)) := by
  induction sk generalizing n with
  | literal cs hcs => simp [text, placeholders, literals, interleave, fill_literal hcs]
  | unclosed cs inside hcs hinside =>
      simp [text, placeholders, Placeholder.fault?, fill_unclosed hcs hinside]
  | placeholder cs inside hcs hinside rest ih =>
      rw [text, fill_placeholder hcs hinside, Variables.next?_drop]
      cases hvalue : vars.value? n (placeholderName inside) with
      | none => simp [placeholders, List.zipIdx_cons, Placeholder.fault?, hvalue]
      | some value =>
          have hfault : (Placeholder.closed inside).fault? vars n = none := by
            simp [Placeholder.fault?, hvalue]
          simp only [Option.map_some, ih, placeholders, literals, List.zipIdx_cons,
            List.findSome?_cons, hfault]
          cases (rest.placeholders.zipIdx (n + 1)).findSome? fun (p, i) => p.fault? vars i with
          | some fault => rfl
          | none => simp [Except.map, Placeholder.value?, hvalue, interleave]

/-- Expanding a template gives what its skeleton says. -/
theorem expand_eq_expansion {template : String} {sk : Skeleton} (h : sk.text = template.toList)
    (vars : Variables) : expand template vars = sk.expansion template vars := by
  have hfill := sk.fill_text vars 0
  rw [Variables.drop_zero, h] at hfill
  rw [expand, Skeleton.expansion, hfill, Skeleton.fault?]
  cases sk.placeholders.zipIdx.findSome? fun (p, i) => p.fault? vars i with
  | some fault => rfl
  | none =>
      rw [Skeleton.filled, Skeleton.values]
      dsimp only
      split <;> simp [*]

/-! ### Values that are not used -/

section

variable {sk : Skeleton} {template : String} {vars vars' : Variables}

/-- Whether a placeholder is at fault depends only on its value. -/
theorem Placeholder.fault?_congr {i : Nat} {p : Placeholder}
    (h : p.value? vars i = p.value? vars' i) : p.fault? vars i = p.fault? vars' i := by
  cases p with
  | closed inside =>
      rw [Placeholder.value?, Placeholder.value?] at h
      rw [Placeholder.fault?, Placeholder.fault?, h]
  | unclosed => rfl

/-- Only the values of the placeholders count. -/
theorem Skeleton.expansion_congr
    (h : ∀ (i : Nat) (p : Placeholder), sk.placeholders[i]? = some p →
      p.value? vars i = p.value? vars' i) :
    sk.expansion template vars = sk.expansion template vars' := by
  have hvalues : sk.values vars = sk.values vars' :=
    List.filterMap_congr fun (p, i) hmem => h i p (List.mk_mem_zipIdx_iff_getElem?.mp hmem)
  have hfault : sk.fault? vars = sk.fault? vars' := by
    rw [fault?, fault?, ← List.head?_filterMap, ← List.head?_filterMap]
    exact congrArg List.head? (List.filterMap_congr fun (p, i) hmem =>
      Placeholder.fault?_congr (h i p (List.mk_mem_zipIdx_iff_getElem?.mp hmem)))
  rw [expansion, expansion, filled, filled, hvalues, hfault]

/-- Values beyond the number of placeholders make no difference. -/
theorem Skeleton.expansion_surplus_positional {values : List String}
    (h : sk.placeholders.length ≤ values.length) (more : List String) :
    sk.expansion template (.positional (values ++ more)) =
      sk.expansion template (.positional values) := by
  refine expansion_congr fun i p hp => ?_
  cases p with
  | closed inside =>
      have hi : i < values.length := (List.getElem?_eq_some_iff.mp hp).1.trans_le h
      rw [Placeholder.value?, Placeholder.value?, Variables.value?, Variables.value?,
        List.getElem?_append_left hi]
  | unclosed => rfl

/-- A pair behind others is not used if one of these has its name already, or if no placeholder
has it. -/
theorem Skeleton.expansion_surplus_named {pairs more : List (String × String)}
    (h : ∀ pair ∈ more, (∃ earlier ∈ pairs, earlier.1 = pair.1) ∨
      ∀ inside, .closed inside ∈ sk.placeholders → placeholderName inside ≠ pair.1) :
    sk.expansion template (.named (pairs ++ more)) = sk.expansion template (.named pairs) := by
  refine expansion_congr fun i p hp => ?_
  cases p with
  | closed inside =>
      rw [Placeholder.value?, Placeholder.value?, Variables.value?, Variables.value?,
        List.find?_append]
      cases hfind : pairs.find? (·.1 = placeholderName inside) with
      | some pair => rw [Option.some_or]
      | none =>
          rw [Option.none_or, List.find?_eq_none.mpr]
          intro pair hpair hname
          simp only [decide_eq_true_eq] at hname
          rcases h pair hpair with ⟨earlier, hearlier, hsame⟩ | hother
          · exact List.find?_eq_none.mp hfind earlier hearlier (by simp [hsame, hname])
          · exact hother inside (List.mem_of_getElem? hp) hname.symm
  | unclosed => rfl

end

/-- Every template has one skeleton, and expanding it gives what the skeleton says, for all
variables: the fault of the leftmost placeholder at fault, or otherwise what the text reads as that
has one encoded value in the place of each placeholder. Values beyond those of the placeholders do
not count. -/
theorem expand_eq_reference (template : String) :
    ∃ sk : Skeleton, (∀ sk' : Skeleton, sk'.text = template.toList ↔ sk' = sk) ∧
      (∀ vars, expand template vars = sk.expansion template vars) ∧
      (∀ vars fault, sk.fault? vars = some fault ↔
        ∃ (i : Nat) (p : Placeholder), sk.placeholders[i]? = some p ∧
          p.fault? vars i = some fault ∧
            ∀ j < i, ∀ q : Placeholder, sk.placeholders[j]? = some q → q.fault? vars j = none) ∧
      (∀ vars, sk.fault? vars = none → ∀ i : Nat,
        (sk.values vars)[i]? = sk.placeholders[i]?.bind fun p => p.value? vars i) ∧
      (∀ inside name, .closed inside ∈ sk.placeholders →
        (placeholderName inside = name ↔ Names inside name)) ∧
      (∀ values more : List String, sk.placeholders.length ≤ values.length →
        expand template (.positional (values ++ more)) = expand template (.positional values)) ∧
      ∀ pairs more : List (String × String),
        (∀ pair ∈ more, (∃ earlier ∈ pairs, earlier.1 = pair.1) ∨
          ∀ inside, .closed inside ∈ sk.placeholders → placeholderName inside ≠ pair.1) →
        expand template (.named (pairs ++ more)) = expand template (.named pairs) := by
  obtain ⟨sk, hsk⟩ := Skeleton.exists_text_eq template.toList
  have hexpand := expand_eq_expansion hsk
  refine ⟨sk, fun sk' => ⟨fun h => ?_, ?_⟩, hexpand, fun vars fault => Skeleton.fault?_eq_some_iff,
    fun vars h => Skeleton.getElem?_values h, fun inside name _ => names_iff.symm,
    fun values more h => ?_, fun pairs more h => ?_⟩
  · exact Skeleton.text_inj (h.trans hsk.symm)
  · rintro rfl
    exact hsk
  · rw [hexpand, hexpand, Skeleton.expansion_surplus_positional h more]
  · rw [hexpand, hexpand, Skeleton.expansion_surplus_named h]

/-- A placeholder ends at the next closing brace, wherever others were opened in it, and its name
ends at the colon. A closing brace outside of placeholders stands for itself. -/
example : expand "/a\x7d/\x7b x :[0-9]\x7b2\x7d/\x7by\x7d"
      (.named [("y", "\x7bz\x7d"), ("x", "1 2")]) =
    .ok ⟨none, none, "/a\x7d/1%202/%7Bz%7D", none⟩ := by
  decide +kernel

/-- The leftmost placeholder at fault decides, and one that is not closed has no name. -/
example : expand "/\x7bx\x7d/\x7by" (.positional []) =
      .error (.uriTemplate "/\x7bx\x7d/\x7by" (.missing "x")) ∧
    expand "/\x7bx\x7d/\x7by" (.positional ["1"]) =
      .error (.uriTemplate "/\x7bx\x7d/\x7by" .unclosed) := by
  decide +kernel

end Template

end ExchangeMetrics
