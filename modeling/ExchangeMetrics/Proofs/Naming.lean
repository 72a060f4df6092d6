import Mathlib.Data.List.Nodup
import ExchangeMetrics.Proofs.Shape

/-!
# Values in order and by name

The values for a template are given in the order of its placeholders, or each beside the name of
its placeholder. The first way goes on through a list as the template is expanded, and the second
begins anew at each placeholder. They come to the same as long as no two placeholders have the same
name: whatever the order of the named values, each placeholder finds the value that has its number,
and the first placeholder that has none is the same.

## Main results

* `Variables.value?_of_perm`: the value with the number of a name is the one beside the name.
* `Template.expand_in_order_eq_by_name`: both ways of giving values, for every template.
-/

namespace ExchangeMetrics

/-! ### Looking for a name -/

section

variable {names values : List String} {pairs : List (String × String)} {name value : String}

/-- Among pairs with different names there is one with a name at most. -/
theorem find?_name_of_mem (hpairs : (pairs.map Prod.fst).Nodup) (h : (name, value) ∈ pairs) :
    pairs.find? (·.1 = name) = some (name, value) := by
  cases hfind : pairs.find? (·.1 = name) with
  | none => exact absurd (decide_eq_true rfl) (List.find?_eq_none.mp hfind _ h)
  | some pair =>
      have hmem := List.mem_of_find?_eq_some hfind
      have hname : pair.1 = name := by simpa using List.find?_some hfind
      rw [List.inj_on_of_nodup_map hpairs hmem h hname]

/-- Pairing names with values keeps the names different. -/
theorem nodup_fst_zip (hnames : names.Nodup) (values : List String) :
    ((names.zip values).map Prod.fst).Nodup := by
  rw [List.zip_eq_zip_take_min, List.map_fst_zip (by simp)]
  exact hnames.sublist (List.take_sublist _ _)

/-- In whatever order the names and their values are given, the value beside a name is the one that
has the number of the name. -/
theorem Variables.value?_of_perm (hnames : names.Nodup) (hpairs : pairs.Perm (names.zip values))
    {i : Nat} (hname : names[i]? = some name) :
    (named pairs).value? i name = (positional values).value? i name := by
  rw [value?, value?]
  cases hvalue : values[i]? with
  | some value =>
      have hmem : (name, value) ∈ names.zip values :=
        List.mem_of_getElem? (List.getElem?_zip_eq_some.mpr ⟨hname, hvalue⟩)
      have hnodup := (hpairs.map Prod.fst).nodup_iff.mpr (nodup_fst_zip hnames values)
      rw [find?_name_of_mem hnodup (hpairs.mem_iff.mpr hmem)]
      rfl
  | none =>
      have hunnamed : ∀ pair ∈ pairs, ¬ decide (pair.1 = name) = true := by
        intro pair hpair hkey
        obtain ⟨j, hj⟩ := List.mem_iff_getElem?.mp (hpairs.mem_iff.mp hpair)
        obtain ⟨hjname, hjvalue⟩ := List.getElem?_zip_eq_some.mp hj
        rw [of_decide_eq_true hkey, ← hname] at hjname
        have hlt : i < names.length := (List.getElem?_eq_some_iff.mp hname).1
        have hplace : i = j := (List.getElem?_inj hlt hnames).mp hjname.symm
        rw [← hplace, hvalue] at hjvalue
        cases hjvalue
      rw [List.find?_eq_none.mpr hunnamed, Option.map_none]

end

namespace Template

namespace Skeleton

/-- The names in the placeholders, in order. A placeholder that is not closed has none. -/
def names : Skeleton → List String
  | literal _ _ => []
  | unclosed _ _ _ _ => []
  | placeholder _ inside _ _ rest => placeholderName inside :: rest.names

/-- The name of a placeholder stands at its place among the names. -/
theorem getElem?_names {sk : Skeleton} {i : Nat} {inside : List Char}
    (h : sk.placeholders[i]? = some (.closed inside)) :
    sk.names[i]? = some (placeholderName inside) := by
  induction sk generalizing i with
  | literal => simp [placeholders] at h
  | unclosed => simp [placeholders, List.getElem?_singleton] at h
  | placeholder cs inside' hcs hinside rest ih =>
      cases i with
      | zero =>
          obtain rfl : inside' = inside := by simpa [placeholders] using h
          rfl
      | succ i => exact ih h

/-- The name of a placeholder is among the names. -/
theorem name_mem_names {sk : Skeleton} {inside : List Char}
    (h : .closed inside ∈ sk.placeholders) : placeholderName inside ∈ sk.names := by
  obtain ⟨i, hi⟩ := List.mem_iff_getElem?.mp h
  exact List.mem_of_getElem? (getElem?_names hi)

end Skeleton

/-- When the placeholders of a template have different names, values in the order of the
placeholders give the same URI, or the same error, as the pairs of a name and the value with its
number, in any order. There may be fewer values than placeholders, or more, and the pairs may be
followed by others, as long as these have a name that was there before, or one that no placeholder
has. -/
theorem expand_in_order_eq_by_name {template : String} {sk : Skeleton}
    (hsk : sk.text = template.toList) (hnames : sk.names.Nodup) {values : List String}
    {pairs more : List (String × String)} (hpairs : pairs.Perm (sk.names.zip values))
    (hmore : ∀ pair ∈ more, pair.1 ∈ pairs.map Prod.fst ∨ pair.1 ∉ sk.names) :
    expand template (.positional values) = expand template (.named (pairs ++ more)) := by
  have hsurplus : ∀ pair ∈ more, (∃ earlier ∈ pairs, earlier.1 = pair.1) ∨
      ∀ inside, .closed inside ∈ sk.placeholders → placeholderName inside ≠ pair.1 := by
    intro pair hpair
    rcases hmore pair hpair with hearlier | hother
    · exact .inl (List.mem_map.mp hearlier)
    · exact .inr fun inside hinside hname => hother (hname ▸ Skeleton.name_mem_names hinside)
  rw [expand_eq_expansion hsk, expand_eq_expansion hsk, Skeleton.expansion_surplus_named hsurplus]
  refine Skeleton.expansion_congr fun i p hp => ?_
  cases p with
  | closed inside =>
      exact (Variables.value?_of_perm hnames hpairs (Skeleton.getElem?_names hp)).symm
  | unclosed => rfl

/-- The rooms of a hotel: with the values the other way round and two pairs that are not used, and
with a value too few. -/
theorem expand_in_order_eq_by_name_rooms :
    rooms.skeleton.text = rooms.toList ∧ rooms.skeleton.names.Nodup ∧
      expand rooms (.positional ["a/b", "7", "é", "x"]) =
        expand rooms (.named ([("guest", "é"), ("room", "7"), ("hotel", "a/b")] ++
          [("room", "8"), ("floor", "1")])) ∧
      expand rooms (.positional ["a/b", "7", "é", "x"]) =
        .ok ⟨none, none, "/a%2Fb/r-7", some "by=%C3%A9"⟩ ∧
      expand rooms (.positional ["a/b", "7"]) =
        expand rooms (.named ([("room", "7"), ("hotel", "a/b")] ++ [("hotel", "c")])) ∧
      expand rooms (.positional ["a/b", "7"]) =
        .error (.uriTemplate rooms (.missing "guest")) := by
  have hsk : rooms.skeleton.text = rooms.toList := by decide +kernel
  have hnames : rooms.skeleton.names.Nodup := by decide +kernel
  refine ⟨hsk, hnames, expand_in_order_eq_by_name hsk hnames ?_ ?_, ?_,
    expand_in_order_eq_by_name hsk hnames ?_ ?_, ?_⟩
  · decide +kernel
  · decide +kernel
  · rw [expand_eq_expansion hsk]
    decide +kernel
  · decide +kernel
  · decide +kernel
  · rw [expand_eq_expansion hsk]
    decide +kernel

/-- With the same name in two placeholders, both have the first value beside it. -/
example : expand "/\x7bx\x7d/\x7bx\x7d" (.positional ["1", "2"]) ≠
    expand "/\x7bx\x7d/\x7bx\x7d" (.named [("x", "1"), ("x", "2")]) := by
  decide +kernel

end Template

end ExchangeMetrics
