import ExchangeMetrics.Route.Template
import Mathlib.Data.List.DropRight

/-!
# What a template is made of

A template is cut from left to right. A literal runs up to the next opening brace, and a
placeholder from there to the next closing brace, whatever lies between; what follows an opening
brace without a closing one behind it is a placeholder that is not closed. Every text can be cut in
this way, and only in one, so that a `Skeleton` stands for the text and says where its literals and
its placeholders are.

`Skeleton.expansion` says what expanding a template gives: each placeholder is asked for its value
by its number and its name, the leftmost one that is at fault decides if there is one, and otherwise
the text that is read as a URI is made of the literals with the encoded values between them.

## Main results

* `Skeleton.exists_text_eq`, `Skeleton.text_inj`: every text has one skeleton.
* `names_iff`: which name stands in a placeholder.
* `Skeleton.fault?_eq_some_iff`: the leftmost placeholder at fault.
-/

namespace ExchangeMetrics

/-- The value for a placeholder, by its number among the placeholders or by the name in it. -/
def Variables.value? (i : Nat) (name : String) : Variables → Option String
  | positional values => values[i]?
  | named pairs => (pairs.find? (·.1 = name)).map (·.2)

namespace Template

/-- A template that was cut into literals, which have no opening brace in them, and placeholders,
which have no closing brace in them. -/
inductive Skeleton where
  /-- A literal and nothing else. -/
  | literal (cs : List Char) (hcs : '\x7b' ∉ cs)
  /-- A literal, and a placeholder that is not closed. -/
  | unclosed (cs inside : List Char) (hcs : '\x7b' ∉ cs) (hinside : '\x7d' ∉ inside)
  /-- A literal, a placeholder, and what follows it. -/
  | placeholder (cs inside : List Char) (hcs : '\x7b' ∉ cs) (hinside : '\x7d' ∉ inside)
      (rest : Skeleton)

/-- A placeholder: the text between its braces, or that it is not closed. -/
inductive Placeholder where
  | closed (inside : List Char)
  | unclosed
deriving DecidableEq

/-- A text is what is left of another one when the white space at both ends is cut off. -/
def Trims (cs core : List Char) : Prop :=
  ∃ left right, cs = left ++ core ++ right ∧
    (∀ c ∈ left, Text.isBlank c = true) ∧ (∀ c ∈ right, Text.isBlank c = true) ∧
    (∀ c ∈ core.head?, Text.isBlank c = false) ∧ ∀ c ∈ core.getLast?, Text.isBlank c = false

/-- A name stands in a placeholder: before the first colon, with only white space around it. -/
def Names (inside : List Char) (name : String) : Prop :=
  ∃ before pattern, inside = before ++ pattern ∧ ':' ∉ before ∧ (∀ c ∈ pattern.head?, c = ':') ∧
    Trims before name.toList

namespace Placeholder

/-- The value for the placeholder with a number. -/
def value? (vars : Variables) (i : Nat) : Placeholder → Option String
  | closed inside => vars.value? i (placeholderName inside)
  | unclosed => none

/-- What is wrong with the placeholder with a number: it is not closed, or it has no value. -/
def fault? (vars : Variables) (i : Nat) : Placeholder → Option TemplateFault
  | unclosed => some .unclosed
  | closed inside =>
      if (vars.value? i (placeholderName inside)).isSome then none
      else some (.missing (placeholderName inside))

/-- A placeholder is without fault exactly if it has a value. -/
theorem fault?_eq_none_iff {vars : Variables} {i : Nat} {p : Placeholder} :
    p.fault? vars i = none ↔ (p.value? vars i).isSome = true := by
  cases p with
  | closed inside => simp [fault?, value?, Option.isSome_iff_ne_none]
  | unclosed => simp [fault?, value?]

end Placeholder

/-- Literals with other texts between them. -/
def interleave : List (List Char) → List (List Char) → List Char
  | l :: ls, c :: cs => l ++ c ++ interleave ls cs
  | ls, _ => ls.flatten

/-! ### Up to a character -/

section

variable {c : Char} {cs rest : List Char}

/-- What does not occur is different from every character. -/
theorem forall_ne_of_not_mem (h : c ∉ cs) : ∀ d ∈ cs, decide (d ≠ c) = true :=
  fun _ hd => decide_eq_true fun heq => h (heq ▸ hd)

/-- A text up to the first occurrence of a character. -/
theorem takeWhile_append_cons (h : c ∉ cs) : (cs ++ c :: rest).takeWhile (· ≠ c) = cs := by
  rw [List.takeWhile_append_of_pos (forall_ne_of_not_mem h), List.takeWhile_cons_of_neg (by simp),
    List.append_nil]

/-- A text in which a character does not occur goes on to its end. -/
theorem takeWhile_of_not_mem (h : c ∉ cs) : cs.takeWhile (· ≠ c) = cs :=
  List.takeWhile_eq_self_iff.mpr (forall_ne_of_not_mem h)

end

/-! ### Names -/

section

variable {cs core inside : List Char} {name : String}

/-- Nothing else is left than the text between the white space at both ends. -/
theorem Trims.trimChars_eq (h : Trims cs core) : Text.trimChars cs = core := by
  obtain ⟨left, right, rfl, hleft, hright, hhead, hlast⟩ := h
  rw [Text.trimChars, List.append_assoc, List.dropWhile_append_of_pos hleft]
  cases core with
  | nil => rw [List.nil_append, List.dropWhile_eq_nil_iff.mpr hright]; rfl
  | cons a as =>
      have ha : Text.isBlank a = false := hhead a rfl
      have hright' : ∀ c ∈ right.reverse, Text.isBlank c = true := by simpa using hright
      rw [List.cons_append, List.dropWhile_cons_of_neg (by simp [ha]), ← List.cons_append,
        List.reverse_append, List.dropWhile_append_of_pos hright', ← List.reverse_inj,
        List.reverse_reverse]
      cases hrev : (a :: as).reverse with
      | nil => rfl
      | cons b bs =>
          have hb : Text.isBlank b = false := by
            refine hlast b ?_
            rw [List.getLast?_eq_head?_reverse, hrev]
            rfl
          rw [List.dropWhile_cons_of_neg (by simp [hb])]

/-- Trimming takes white space off at both ends: what is left begins as the text does behind the
white space in front, and ends with something else than white space. -/
theorem trims_trimChars (cs : List Char) : Trims cs (Text.trimChars cs) := by
  have hcore : Text.trimChars cs = (cs.dropWhile Text.isBlank).rdropWhile Text.isBlank := rfl
  refine ⟨cs.takeWhile Text.isBlank, (cs.dropWhile Text.isBlank).rtakeWhile Text.isBlank,
    ?_, fun c => List.mem_takeWhile_imp, fun c => List.mem_rtakeWhile_imp, ?_, ?_⟩
  · rw [hcore, List.append_assoc, List.rdropWhile_append_rtakeWhile,
      List.takeWhile_append_dropWhile]
  · intro c hc
    obtain ⟨right, hright⟩ := List.rdropWhile_prefix Text.isBlank (l := cs.dropWhile Text.isBlank)
    have hhead : (cs.dropWhile Text.isBlank).head? = some c := by
      rw [← hright, List.head?_append, ← hcore, Option.mem_def.mp hc, Option.some_or]
    have hnot := List.head?_dropWhile_not Text.isBlank cs
    rw [hhead] at hnot
    exact hnot
  · intro c hc
    rw [hcore] at hc
    obtain ⟨hne, rfl⟩ := List.mem_getLast?_eq_getLast hc
    exact Bool.eq_false_iff.mpr (List.rdropWhile_last_not _ _ hne)

/-- The name in a placeholder is the one that stands in it, and no other name does. -/
theorem names_iff : Names inside name ↔ placeholderName inside = name := by
  constructor
  · rintro ⟨before, pattern, rfl, hbefore, hpattern, htrims⟩
    have htake : (before ++ pattern).takeWhile (· ≠ ':') = before := by
      cases pattern with
      | nil => rw [List.append_nil, takeWhile_of_not_mem hbefore]
      | cons c pattern => rw [hpattern c rfl, takeWhile_append_cons hbefore]
    rw [placeholderName, htake, htrims.trimChars_eq, String.ofList_toList]
  · rintro rfl
    refine ⟨inside.takeWhile (· ≠ ':'), inside.dropWhile (· ≠ ':'), ?_, ?_, ?_, ?_⟩
    · rw [List.takeWhile_append_dropWhile]
    · intro hmem
      have hnot := List.mem_takeWhile_imp hmem
      simp at hnot
    · intro c hc
      have hnot := List.head?_dropWhile_not (fun c => decide (c ≠ ':')) inside
      rw [Option.mem_def.mp hc] at hnot
      simpa using hnot
    · rw [placeholderName, String.toList_ofList]
      exact trims_trimChars _

end

namespace Skeleton

/-- The text of which this is the skeleton. -/
def text : Skeleton → List Char
  | literal cs _ => cs
  | unclosed cs inside _ _ => cs ++ '\x7b' :: inside
  | placeholder cs inside _ _ rest => cs ++ '\x7b' :: (inside ++ '\x7d' :: rest.text)

/-- The literals, in order. -/
def literals : Skeleton → List (List Char)
  | literal cs _ => [cs]
  | unclosed cs _ _ _ => [cs]
  | placeholder cs _ _ _ rest => cs :: rest.literals

/-- The placeholders, in order. -/
def placeholders : Skeleton → List Placeholder
  | literal _ _ => []
  | unclosed _ _ _ _ => [.unclosed]
  | placeholder _ inside _ _ rest => .closed inside :: rest.placeholders

/-- What is wrong with the leftmost placeholder at fault. -/
def fault? (sk : Skeleton) (vars : Variables) : Option TemplateFault :=
  sk.placeholders.zipIdx.findSome? fun (p, i) => p.fault? vars i

/-- The values of the placeholders. -/
def values (sk : Skeleton) (vars : Variables) : List String :=
  sk.placeholders.zipIdx.filterMap fun (p, i) => p.value? vars i

/-- The literals with the encoded values of the placeholders between them. -/
def filled (sk : Skeleton) (vars : Variables) : List Char :=
  interleave sk.literals ((sk.values vars).map Text.percentEncode)

/-- What expanding a template gives. -/
def expansion (sk : Skeleton) (template : String) (vars : Variables) : Except MetricsError Uri :=
  match sk.fault? vars with
  | some fault => .error (.uriTemplate template fault)
  | none =>
      match Uri.parse (String.ofList (sk.filled vars)) with
      | .ok uri => .ok uri
      | .error reason => .error (.invalidUri reason)

section

variable {sk : Skeleton} {vars : Variables} {fault : TemplateFault}

/-- The leftmost placeholder at fault decides. -/
theorem fault?_eq_some_iff :
    sk.fault? vars = some fault ↔
      ∃ (i : Nat) (p : Placeholder), sk.placeholders[i]? = some p ∧
        p.fault? vars i = some fault ∧
          ∀ j < i, ∀ q : Placeholder, sk.placeholders[j]? = some q → q.fault? vars j = none := by
  rw [fault?, List.findSome?_eq_some_iff]
  constructor
  · rintro ⟨before, ⟨p, i⟩, behind, heq, hfault, hbefore⟩
    obtain ⟨ps, qs, hps, rfl, hqs⟩ := List.zipIdx_eq_append_iff.mp heq
    obtain ⟨p', qs', rfl, hp, -⟩ := List.zipIdx_eq_cons_iff.mp hqs.symm
    obtain ⟨rfl, rfl⟩ : p = p' ∧ i = 0 + ps.length := Prod.ext_iff.mp hp
    refine ⟨0 + ps.length, p, ?_, hfault, fun j hj q hq => ?_⟩
    · simp [hps]
    · have hj : j < ps.length := by omega
      rw [hps, List.getElem?_append_left hj] at hq
      exact hbefore (q, j) (List.mk_mem_zipIdx_iff_getElem?.mpr hq)
  · rintro ⟨i, p, hp, hfault, hbefore⟩
    obtain ⟨hi, rfl⟩ := List.getElem?_eq_some_iff.mp hp
    refine ⟨(sk.placeholders.take i).zipIdx, (sk.placeholders[i], i),
      (sk.placeholders.drop (i + 1)).zipIdx (i + 1), ?_, hfault, fun (q, j) hmem => ?_⟩
    · refine List.zipIdx_eq_append_iff.mpr ⟨sk.placeholders.take i, sk.placeholders.drop i,
        (List.take_append_drop i _).symm, rfl, ?_⟩
      rw [List.drop_eq_getElem_cons hi, List.zipIdx_cons, List.length_take_of_le hi.le,
        Nat.zero_add]
    · have hq := List.mk_mem_zipIdx_iff_getElem?.mp hmem
      have hj : j < i := by
        have := (List.getElem?_eq_some_iff.mp hq).1
        rw [List.length_take] at this
        omega
      rw [List.getElem?_take_of_lt hj] at hq
      exact hbefore j hj q hq

/-- Nothing is wrong as long as every placeholder is closed and has a value. -/
theorem fault?_eq_none_iff :
    sk.fault? vars = none ↔
      ∀ (i : Nat) (p : Placeholder), sk.placeholders[i]? = some p →
        p.fault? vars i = none := by
  rw [fault?, List.findSome?_eq_none_iff]
  constructor
  · intro h i p hp
    exact h (p, i) (List.mk_mem_zipIdx_iff_getElem?.mpr hp)
  · rintro h ⟨p, i⟩ hmem
    exact h i p (List.mk_mem_zipIdx_iff_getElem?.mp hmem)

/-- When nothing is wrong, no placeholder is passed over. -/
theorem map_some_values (h : sk.fault? vars = none) :
    (sk.values vars).map some = sk.placeholders.zipIdx.map fun (p, i) => p.value? vars i := by
  rw [values, List.map_filterMap_some_eq_filter_map_isSome, List.filter_eq_self]
  intro value hvalue
  obtain ⟨⟨p, i⟩, hmem, rfl⟩ := List.mem_map.mp hvalue
  exact Placeholder.fault?_eq_none_iff.mp (List.findSome?_eq_none_iff.mp h (p, i) hmem)

/-- Each placeholder of a template without fault has its own value. -/
theorem getElem?_values (h : sk.fault? vars = none) (i : Nat) :
    (sk.values vars)[i]? = sk.placeholders[i]?.bind fun p => p.value? vars i := by
  have hi := congrArg (·[i]?) (map_some_values h)
  simp only [List.getElem?_map, List.getElem?_zipIdx, Nat.zero_add] at hi
  cases hp : sk.placeholders[i]? with
  | none => simpa [hp] using hi
  | some p =>
      cases hv : (sk.values vars)[i]? with
      | none => simp [hp, hv] at hi
      | some value => simpa [hp, hv] using hi

/-- A template without fault has as many values as placeholders. -/
theorem length_values (h : sk.fault? vars = none) :
    (sk.values vars).length = sk.placeholders.length := by
  simpa using congrArg List.length (map_some_values h)

end

/-! ### Cutting -/

/-- A text is cut in one way at the first occurrence of a character. -/
theorem append_cons_inj {c : Char} {l l' r r' : List Char} (hl : c ∉ l) (hl' : c ∉ l') :
    l ++ c :: r = l' ++ c :: r' ↔ l = l' ∧ r = r' := by
  induction l generalizing l' with
  | nil =>
      cases l' with
      | nil => simp
      | cons d l' => simp [List.ne_of_not_mem_cons hl']
  | cons d l ih =>
      cases l' with
      | nil => simp [Ne.symm (List.ne_of_not_mem_cons hl)]
      | cons d' l' =>
          have ih := ih (List.not_mem_of_not_mem_cons hl) (List.not_mem_of_not_mem_cons hl')
          simp [ih, and_assoc]

/-- Every text can be cut. -/
theorem exists_text_eq (cs : List Char) : ∃ sk : Skeleton, sk.text = cs := by
  induction h : cs.length using Nat.strongRecOn generalizing cs with
  | ind n ih =>
    by_cases hopen : '\x7b' ∈ cs
    · obtain ⟨before, inside, rfl, hbefore⟩ := List.eq_append_cons_of_mem hopen
      by_cases hclose : '\x7d' ∈ inside
      · obtain ⟨inside, rest, rfl, hinside⟩ := List.eq_append_cons_of_mem hclose
        have hlt : rest.length < n := by
          simp only [List.length_append, List.length_cons] at h
          omega
        obtain ⟨sk, rfl⟩ := ih rest.length hlt rest rfl
        exact ⟨.placeholder before inside hbefore hinside sk, rfl⟩
      · exact ⟨.unclosed before inside hbefore hclose, rfl⟩
    · exact ⟨.literal cs hopen, rfl⟩

/-- And it can be cut in one way only. -/
theorem text_inj {sk sk' : Skeleton} (h : sk.text = sk'.text) : sk = sk' := by
  induction sk generalizing sk' with
  | literal cs hcs =>
      cases sk' with
      | literal => simpa [text] using h
      | unclosed | placeholder =>
          simp only [text] at h
          exact absurd (h ▸ by simp) hcs
  | unclosed cs inside hcs hinside =>
      cases sk' with
      | literal _ hcs' =>
          simp only [text] at h
          exact absurd (h ▸ by simp) hcs'
      | unclosed _ _ hcs' _ =>
          simpa [text, append_cons_inj hcs hcs'] using h
      | placeholder _ _ hcs' _ _ =>
          simp only [text, append_cons_inj hcs hcs'] at h
          exact absurd (h.2 ▸ by simp) hinside
  | placeholder cs inside hcs hinside rest ih =>
      cases sk' with
      | literal _ hcs' =>
          simp only [text] at h
          exact absurd (h ▸ by simp) hcs'
      | unclosed _ _ hcs' hinside' =>
          simp only [text, append_cons_inj hcs hcs'] at h
          exact absurd (h.2 ▸ by simp) hinside'
      | placeholder _ _ hcs' hinside' _ =>
          simp only [text, append_cons_inj hcs hcs',
            append_cons_inj hinside hinside'] at h
          obtain ⟨rfl, rfl, hrest⟩ := h
          rw [ih hrest]

end Skeleton

end Template

end ExchangeMetrics
