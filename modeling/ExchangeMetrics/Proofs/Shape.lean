import ExchangeMetrics.Proofs.Escaping
import ExchangeMetrics.Proofs.Filling

/-!
# The shape of an expanded URI

A value that is put into a template is encoded, and an encoded text has none of the characters that
separate the parts of a URI. A template that begins with a slash is therefore read as a path with a
query wherever its literals say so, and a value stays within its segment. A value can also be read
back from the URI where it makes up a segment; and from the URI as a whole, as long as there is a
character between any two placeholders that no encoded text has.

## Main results

* `Uri.parts_of_parse`: a text that begins with a slash is read without leaving anything out.
* `getElem?_splitOn`: the place of a segment in a path.
* `Template.interleave_inj`: what stands between literals can be read off the whole.
* `Template.Skeleton.shapes_of_expansion`: an expanded URI has the shape of its template.
* `Template.expand_keeps_shape`: both, for expanded templates.
-/

namespace ExchangeMetrics

/-! ### Paths and their segments -/

section

variable {cs pre segment post : List Char} {s path : String} {query : Option String} {uri : Uri}

/-- Characters that are no marks do not end a path. -/
theorem Uri.forall_not_isPathEnd (hmark : '?' ∉ cs) (hhash : '#' ∉ cs) :
    ∀ c ∈ cs, (!(decide (c = '?') || decide (c = '#'))) = true := by
  intro c hc
  have hmark : c ≠ '?' := fun h => hmark (h ▸ hc)
  have hhash : c ≠ '#' := fun h => hhash (h ▸ hc)
  simp [hmark, hhash]

/-- What stands before the first question mark is the path. -/
theorem Uri.takeWhile_path (h : cs = path.toList ++ query.elim [] ('?' :: ·.toList))
    (hpath : '?' ∉ path.toList) : cs.takeWhile (· ≠ '?') = path.toList := by
  cases query with
  | none => rw [h, Option.elim_none, List.append_nil, Template.takeWhile_of_not_mem hpath]
  | some query => rw [h, Option.elim_some, Template.takeWhile_append_cons hpath]

/-- Without a number sign, nothing of a path and a query is left out. -/
theorem Uri.eq_append_of_pathAndQuery (hslash : cs.head? = some '/') (hhash : '#' ∉ cs)
    (h : pathAndQuery cs = .ok (path, query)) :
    cs = path.toList ++ query.elim [] ('?' :: ·.toList) ∧ '?' ∉ path.toList := by
  by_cases hmark : '?' ∈ cs
  · obtain ⟨before, behind, rfl, hbefore⟩ := List.eq_append_cons_of_mem hmark
    simp only [List.mem_append, List.mem_cons, not_or] at hhash
    have hpass := forall_not_isPathEnd hbefore hhash.1
    have hquery := Template.takeWhile_of_not_mem hhash.2.2
    have hne : before.isEmpty = false := by
      cases before with
      | nil => simp at hslash
      | cons => rfl
    rw [pathAndQuery, List.takeWhile_append_of_pos hpass, List.dropWhile_append_of_pos hpass,
      List.takeWhile_cons_of_neg (by simp), List.dropWhile_cons_of_neg (by simp),
      List.append_nil] at h
    simp only [hquery, hne] at h
    split at h
    · cases h
    · split at h
      · cases h
        simp [hbefore]
      · cases h
  · have hpass := forall_not_isPathEnd hmark hhash
    have hne : cs.isEmpty = false := by
      cases cs with
      | nil => simp at hslash
      | cons => rfl
    rw [pathAndQuery, List.takeWhile_eq_self_iff.mpr hpass,
      List.dropWhile_eq_nil_iff.mpr hpass] at h
    simp only [hne] at h
    split at h
    · cases h
    · cases h
      simp [hmark]

/-- A text that begins with a slash and has no fragment is read as a path and a query, which make up
the text. -/
theorem Uri.parts_of_parse (hslash : s.toList.head? = some '/') (hhash : '#' ∉ s.toList)
    (h : Uri.parse s = .ok uri) :
    uri.scheme = none ∧ uri.authority = none ∧
      s.toList = uri.path.toList ++ uri.query.elim [] ('?' :: ·.toList) ∧
        '?' ∉ uri.path.toList := by
  have hne : s ≠ "" := by
    rintro rfl
    simp at hslash
  have hstar : s ≠ "*" := by
    rintro rfl
    simp at hslash
  rw [Uri.parse, if_neg hne, if_neg hstar, if_pos hslash] at h
  split at h
  · cases h
  · cases hread : Uri.pathAndQuery s.toList with
    | error reason => simp [hread, bind, Except.bind] at h
    | ok parts =>
        obtain ⟨path, query⟩ := parts
        simp only [hread, bind, Except.bind, Except.ok.injEq] at h
        subst h
        exact ⟨rfl, rfl, Uri.eq_append_of_pathAndQuery hslash hhash hread⟩

/-- There is one segment more than there are slashes. -/
theorem length_splitOn (cs : List Char) : (cs.splitOn '/').length = cs.count '/' + 1 := by
  induction cs with
  | nil => rfl
  | cons c cs ih =>
      rw [List.splitOn_cons_eq_if_modifyHead, List.count_cons]
      split <;> simp [ih]

/-- What stands between slashes, or between the last slash and the end, is a segment, and the
number of slashes before it is its place. -/
theorem getElem?_splitOn (hpre : pre.getLast? = some '/') (hsegment : '/' ∉ segment)
    (hpost : ∀ c ∈ post.head?, c = '/') :
    ((pre ++ segment ++ post).splitOn '/')[pre.count '/']? = some segment := by
  obtain ⟨before, rfl⟩ := List.getLast?_eq_some_iff.mp hpre
  have hplace : (before ++ ['/']).count '/' = (before.splitOn '/').length := by
    rw [length_splitOn, List.count_append, List.count_singleton_self]
  rw [hplace, List.append_assoc, List.append_assoc, List.singleton_append,
    List.splitOn_append_cons_self, List.getElem?_append_right le_rfl, Nat.sub_self]
  cases post with
  | nil => rw [List.append_nil, List.splitOn_eq_singleton hsegment]; rfl
  | cons c post =>
      rw [hpost c rfl, List.splitOn_append_cons_self_of_not_mem hsegment]
      rfl

end

namespace Template

/-! ### Literals with other texts between them -/

section

variable {c : Char} {l code : List Char} {ls rs cs ds : List (List Char)}

/-- A character that does not stand in the texts between the literals stands in these. -/
theorem count_interleave (h : ∀ code ∈ cs, c ∉ code) :
    (interleave ls cs).count c = ls.flatten.count c := by
  induction ls generalizing cs with
  | nil => cases cs <;> rfl
  | cons l ls ih =>
      cases cs with
      | nil => rfl
      | cons code cs =>
          have hcode : code.count c = 0 := List.count_eq_zero.mpr (h code List.mem_cons_self)
          have hrest := ih fun code hmem => h code (List.mem_cons_of_mem _ hmem)
          simp [interleave, hcode, hrest]

/-- A character that does not stand in the texts between the literals is in one of the literals. -/
theorem mem_interleave (h : ∀ code ∈ cs, c ∉ code) : c ∈ interleave ls cs ↔ ∃ l ∈ ls, c ∈ l := by
  rw [← List.count_pos_iff, count_interleave h, List.count_pos_iff, List.mem_flatten]

/-- Literals with texts between them can be put together in two parts. -/
theorem interleave_append (h : ls.length = cs.length + 1) :
    interleave (ls ++ rs) (cs ++ code :: ds) = interleave ls cs ++ code ++ interleave rs ds := by
  induction cs generalizing ls with
  | nil =>
      obtain ⟨l, rfl⟩ := List.length_eq_one_iff.mp h
      simp [interleave]
  | cons d cs ih =>
      cases ls with
      | nil => simp at h
      | cons l ls => simp [interleave, ih (Nat.succ.inj h)]

/-- The last literal is the end. -/
theorem exists_interleave_concat (h : ls.length = cs.length) :
    ∃ pre, interleave (ls ++ [l]) cs = pre ++ l := by
  induction ls generalizing cs with
  | nil =>
      obtain rfl : cs = [] := List.length_eq_zero_iff.mp h.symm
      exact ⟨[], by simp [interleave]⟩
  | cons l' ls ih =>
      cases cs with
      | nil => simp at h
      | cons d cs =>
          obtain ⟨pre, hpre⟩ := ih (Nat.succ.inj h)
          exact ⟨l' ++ d ++ pre, by simp [interleave, hpre]⟩

/-- What is put together begins with the first literal. -/
theorem exists_interleave_cons (l : List Char) (ls cs : List (List Char)) :
    ∃ rest, interleave (l :: ls) cs = l ++ rest := by
  cases cs with
  | nil => exact ⟨ls.flatten, rfl⟩
  | cons code cs => exact ⟨code ++ interleave ls cs, List.append_assoc l code _⟩

/-- So it begins with the first character of it, if there is one. -/
theorem head?_interleave_cons (h : l.head? = some c) (ls cs : List (List Char)) :
    (interleave (l :: ls) cs).head? = some c := by
  obtain ⟨rest, hrest⟩ := exists_interleave_cons l ls cs
  rw [hrest, List.head?_append, h, Option.some_or]

/-- Two codes with the same literal behind them, which has a character that is not used in codes,
are the same if the texts are. -/
theorem eq_of_append_literal {code' rest rest' : List Char}
    (hcode : ∀ c ∈ code, Text.isCodeChar c = true) (hcode' : ∀ c ∈ code', Text.isCodeChar c = true)
    (hl : ∃ c ∈ l, Text.isCodeChar c = false) (h : code ++ (l ++ rest) = code' ++ (l ++ rest')) :
    code = code' := by
  obtain ⟨c, hmem, hc⟩ := hl
  obtain ⟨before, behind, rfl, hbefore⟩ := List.eq_append_cons_of_mem hmem
  have hnot : ∀ {xs : List Char}, (∀ c ∈ xs, Text.isCodeChar c = true) → c ∉ xs ++ before := by
    intro xs hxs hc'
    rcases List.mem_append.mp hc' with hc' | hc'
    · simp [hxs c hc'] at hc
    · exact hbefore hc'
  have heq : (code ++ before) ++ c :: (behind ++ rest) =
      (code' ++ before) ++ c :: (behind ++ rest') := by
    simpa using h
  exact List.append_cancel_right ((Skeleton.append_cons_inj (hnot hcode) (hnot hcode')).mp heq).1

/-- When a character that is not used in codes stands in each literal between two of them, the text
as a whole tells what the codes were: the first code ends where the literal behind it begins. -/
theorem interleave_inj (hcs : ∀ code ∈ cs, ∀ c ∈ code, Text.isCodeChar c = true)
    (hds : ∀ code ∈ ds, ∀ c ∈ code, Text.isCodeChar c = true)
    (hliterals : ls.length = cs.length + 1) (hlength : ds.length = cs.length)
    (hinner : ∀ l ∈ ls.tail.dropLast, ∃ c ∈ l, Text.isCodeChar c = false)
    (h : interleave ls cs = interleave ls ds) : cs = ds := by
  induction cs generalizing ls ds with
  | nil => exact (List.length_eq_zero_iff.mp hlength).symm
  | cons code cs ih =>
      obtain ⟨d, ds, rfl⟩ := List.exists_cons_of_length_eq_add_one hlength
      obtain ⟨l, ls, rfl⟩ := List.exists_cons_of_length_eq_add_one hliterals
      obtain ⟨next, ls, rfl⟩ := List.exists_cons_of_length_eq_add_one (Nat.succ.inj hliterals)
      simp only [interleave, List.append_assoc, List.append_cancel_left_eq] at h
      obtain rfl : code = d := by
        cases ls with
        | nil =>
            obtain rfl : cs = [] := List.length_eq_zero_iff.mp (by simpa using hliterals.symm)
            obtain rfl : ds = [] := List.length_eq_zero_iff.mp (by simpa using hlength)
            exact List.append_cancel_right h
        | cons =>
            obtain ⟨rest, hrest⟩ := exists_interleave_cons next (_ :: _) cs
            obtain ⟨rest', hrest'⟩ := exists_interleave_cons next (_ :: _) ds
            rw [hrest, hrest'] at h
            exact eq_of_append_literal (hcs code List.mem_cons_self) (hds d List.mem_cons_self)
              (hinner next List.mem_cons_self) h
      have hrest := ih (fun c hc => hcs c (List.mem_cons_of_mem _ hc))
        (fun c hc => hds c (List.mem_cons_of_mem _ hc)) (Nat.succ.inj hliterals)
        (Nat.succ.inj hlength) (fun l hl => hinner l ?_) (List.append_cancel_left h)
      · rw [hrest]
      · cases ls with
        | nil => simp at hl
        | cons => exact List.mem_cons_of_mem _ hl

end

namespace Skeleton

/-- A placeholder makes up a segment of the path: it stands between slashes, or between a slash and
the end of the path, where a question mark or the end of the template is. -/
def IsSegment (sk : Skeleton) (i : Nat) : Prop :=
  (∀ l ∈ sk.literals.take (i + 1), '?' ∉ l) ∧
    (∃ l, sk.literals[i]? = some l ∧ l.getLast? = some '/') ∧
      ∃ l, sk.literals[i + 1]? = some l ∧
        (l.head? = some '/' ∨ l.head? = some '?' ∨ l = [] ∧ sk.literals.length = i + 2)

/-- A URI has the shape of a template that was expanded to it. -/
structure Shapes (sk : Skeleton) (vars : Variables) (uri : Uri) : Prop where
  /-- It has no scheme. -/
  scheme : uri.scheme = none
  /-- It has no authority. -/
  authority : uri.authority = none
  /-- Its text has an encoded text in the place of each placeholder. -/
  text : ∃ codes : List (List Char), codes.length = sk.placeholders.length ∧
    (∀ code ∈ codes, Text.Escaped code) ∧ uri.text.toList = interleave sk.literals codes
  /-- Its slashes are those of the literals. -/
  slashes : uri.text.toList.count '/' = sk.literals.flatten.count '/'
  /-- It has a query if there is a question mark in a literal. -/
  query : uri.query.isSome = true ↔ ∃ l ∈ sk.literals, '?' ∈ l
  /-- A placeholder that makes up a segment has all of its value there. -/
  segments : ∀ (i : Nat) (p : Placeholder), sk.placeholders[i]? = some p → sk.IsSegment i →
    ∃ segment, (uri.path.toList.splitOn '/')[(sk.literals.take (i + 1)).flatten.count '/']? =
      some segment ∧ Text.percentDecode segment = p.value? vars i

section

variable {sk : Skeleton} {template : String} {vars vars' : Variables} {uri uri' : Uri}

/-- If a template begins with a slash, so does its first literal. -/
theorem exists_literals_eq (h : sk.text.head? = some '/') :
    ∃ l ls, sk.literals = ('/' :: l) :: ls := by
  cases sk with
  | literal cs =>
      obtain ⟨l, rfl⟩ := List.head?_eq_some_iff.mp h
      exact ⟨l, [], rfl⟩
  | unclosed cs inside | placeholder cs inside hcs hinside rest =>
      cases cs with
      | nil => simp [text] at h
      | cons c cs =>
          obtain rfl : c = '/' := by simpa [text] using h
          exact ⟨cs, _, rfl⟩

/-- If all placeholders are closed, there is one literal more than there are placeholders. -/
theorem length_literals (h : .unclosed ∉ sk.placeholders) :
    sk.literals.length = sk.placeholders.length + 1 := by
  induction sk with
  | literal => rfl
  | unclosed => simp [placeholders] at h
  | placeholder cs inside hcs hinside rest ih =>
      simp only [placeholders, List.mem_cons, not_or] at h
      simp [literals, placeholders, ih h.2]

/-- A template without a fault has no placeholder that is not closed. -/
theorem closed_of_fault? (h : sk.fault? vars = none) : .unclosed ∉ sk.placeholders := by
  intro hmem
  obtain ⟨i, hi⟩ := List.mem_iff_getElem?.mp hmem
  have hfault := fault?_eq_none_iff.mp h i .unclosed hi
  simp [Placeholder.fault?] at hfault

/-- An expansion that gives a URI is without fault, and the URI is read from the filled template. -/
theorem expansion_eq_ok (h : sk.expansion template vars = .ok uri) :
    sk.fault? vars = none ∧ Uri.parse (String.ofList (sk.filled vars)) = .ok uri := by
  rw [expansion] at h
  split at h
  · cases h
  · split at h
    · cases h
      exact ⟨‹_›, ‹_›⟩
    · cases h

/-- The codes of the values. -/
theorem isCodeChar_of_mem {code : List Char} (h : code ∈ (sk.values vars).map Text.percentEncode) :
    ∀ c ∈ code, Text.isCodeChar c = true := by
  obtain ⟨value, -, rfl⟩ := List.mem_map.mp h
  exact (Text.escaped_percentEncode value).isCodeChar

/-- What cannot stand in a code stands in none of the encoded values. -/
theorem not_mem_code {c : Char} (hc : Text.isCodeChar c = false) :
    ∀ code ∈ (sk.values vars).map Text.percentEncode, c ∉ code := by
  intro code hcode hmem
  simp [isCodeChar_of_mem hcode c hmem] at hc

/-- The text with the encoded values is read as a path with a query, as it stands. -/
theorem parts_of_expansion (hslash : sk.text.head? = some '/') (hhash : ∀ l ∈ sk.literals, '#' ∉ l)
    (h : sk.expansion template vars = .ok uri) :
    uri.scheme = none ∧ uri.authority = none ∧
      sk.filled vars = uri.path.toList ++ uri.query.elim [] ('?' :: ·.toList) ∧
        '?' ∉ uri.path.toList := by
  have hhead : (sk.filled vars).head? = some '/' := by
    obtain ⟨l, ls, hliterals⟩ := exists_literals_eq hslash
    rw [filled, hliterals]
    exact head?_interleave_cons rfl ls _
  have hsign : '#' ∉ sk.filled vars := by
    rw [filled, mem_interleave (not_mem_code (by decide))]
    rintro ⟨l, hl, hmem⟩
    exact hhash l hl hmem
  have hparts := Uri.parts_of_parse (by rwa [String.toList_ofList]) (by rwa [String.toList_ofList])
    (expansion_eq_ok h).2
  rwa [String.toList_ofList] at hparts

/-- The text before a placeholder that makes up a segment, and the text behind it. -/
theorem IsSegment.exists_filled_eq {i : Nat} {value : String} (hi : sk.IsSegment i)
    (h : sk.fault? vars = none) (hvalue : (sk.values vars)[i]? = some value) :
    ∃ pre post, sk.filled vars = pre ++ Text.percentEncode value ++ post ∧
      pre.getLast? = some '/' ∧ '?' ∉ pre ∧
      pre.count '/' = (sk.literals.take (i + 1)).flatten.count '/' ∧
      (post = [] ∨ post.head? = some '/' ∨ post.head? = some '?') := by
  obtain ⟨hmark, ⟨l, hl, hlast⟩, l', hl', hnext⟩ := hi
  have hlength := length_literals (closed_of_fault? h)
  rw [← length_values h] at hlength
  have hlt : i < (sk.values vars).length := (List.getElem?_eq_some_iff.mp hvalue).1
  let codes := (sk.values vars).map Text.percentEncode
  have hcode : codes[i]? = some (Text.percentEncode value) := by simp [codes, hvalue]
  have hnot : ∀ {c : Char}, Text.isCodeChar c = false → ∀ code ∈ codes.take i, c ∉ code :=
    fun hc code hmem => not_mem_code hc code (List.mem_of_mem_take hmem)
  refine ⟨interleave (sk.literals.take (i + 1)) (codes.take i),
    interleave (sk.literals.drop (i + 1)) (codes.drop (i + 1)), ?_, ?_, ?_, ?_, ?_⟩
  · have hcodes : codes = codes.take i ++ Text.percentEncode value :: codes.drop (i + 1) := by
      conv_lhs => rw [← List.take_append_drop i codes, List.drop_eq_getElem?_toList_append, hcode]
      rfl
    have hlengths : (sk.literals.take (i + 1)).length = (codes.take i).length + 1 := by
      simp [codes]
      omega
    rw [← interleave_append hlengths, ← hcodes, List.take_append_drop]
    rfl
  · have hlengths : (sk.literals.take i).length = (codes.take i).length := by
      simp [codes]
      omega
    obtain ⟨pre, hpre⟩ := exists_interleave_concat hlengths (l := l)
    rw [List.take_add_one, hl, Option.toList_some, hpre, List.getLast?_append, hlast,
      Option.some_or]
  · rw [mem_interleave (hnot (by decide))]
    rintro ⟨l, hmem, hc⟩
    exact hmark l hmem hc
  · exact count_interleave (hnot (by decide))
  · rw [List.drop_eq_getElem?_toList_append, hl', Option.toList_some, List.singleton_append]
    rcases hnext with hslash | hquestion | ⟨rfl, hend⟩
    · exact .inr (.inl (head?_interleave_cons hslash _ _))
    · exact .inr (.inr (head?_interleave_cons hquestion _ _))
    · rw [List.drop_eq_nil_of_le (by omega), List.drop_eq_nil_of_le (by simp [codes]; omega)]
      exact .inl rfl

/-- What is read as a path goes on from a segment with a slash, if it goes on. -/
theorem head?_takeWhile {post : List Char}
    (h : post = [] ∨ post.head? = some '/' ∨ post.head? = some '?') :
    ∀ c ∈ (post.takeWhile (· ≠ '?')).head?, c = '/' := by
  rcases h with rfl | h | h
  · simp
  · obtain ⟨rest, rfl⟩ := List.head?_eq_some_iff.mp h
    simp
  · obtain ⟨rest, rfl⟩ := List.head?_eq_some_iff.mp h
    simp

/-- A placeholder that makes up a segment has all of its value in the segment with the number of
the slashes in the literals before it. -/
theorem IsSegment.exists_segment {i : Nat} {p : Placeholder} {path : String}
    {query : Option String} (hi : sk.IsSegment i) (h : sk.fault? vars = none)
    (hp : sk.placeholders[i]? = some p)
    (hfilled : sk.filled vars = path.toList ++ query.elim [] ('?' :: ·.toList))
    (hpath : '?' ∉ path.toList) :
    ∃ segment, (path.toList.splitOn '/')[(sk.literals.take (i + 1)).flatten.count '/']? =
      some segment ∧ Text.percentDecode segment = p.value? vars i := by
  have hlt : i < (sk.values vars).length := by
    rw [length_values h]
    exact (List.getElem?_eq_some_iff.mp hp).1
  have hvalues := getElem?_values h i
  rw [hp, Option.bind_some, List.getElem?_eq_getElem hlt] at hvalues
  obtain ⟨pre, post, heq, hlast, hpre, hcount, hpost⟩ :=
    hi.exists_filled_eq h (List.getElem?_eq_getElem hlt)
  have hcode := (Text.escaped_percentEncode (sk.values vars)[i]).isCodeChar
  have hmark : '?' ∉ pre ++ Text.percentEncode (sk.values vars)[i] := by
    intro hc
    rcases List.mem_append.mp hc with hc | hc
    · exact hpre hc
    · exact absurd (hcode '?' hc) (by decide)
  have hread : path.toList =
      pre ++ Text.percentEncode (sk.values vars)[i] ++ post.takeWhile (· ≠ '?') := by
    rw [← Uri.takeWhile_path hfilled hpath, heq,
      List.takeWhile_append_of_pos (forall_ne_of_not_mem hmark)]
  refine ⟨Text.percentEncode (sk.values vars)[i], ?_, ?_⟩
  · rw [hread, ← hcount]
    exact getElem?_splitOn hlast (fun hc => absurd (hcode '/' hc) (by decide))
      (head?_takeWhile hpost)
  · rw [Text.percentDecode_percentEncode, hvalues]

/-- An expanded URI has the shape of the template. -/
theorem shapes_of_expansion (hslash : sk.text.head? = some '/')
    (hhash : ∀ l ∈ sk.literals, '#' ∉ l) (h : sk.expansion template vars = .ok uri) :
    sk.Shapes vars uri := by
  obtain ⟨hscheme, hauthority, hfilled, hpath⟩ := parts_of_expansion hslash hhash h
  have hfault := (expansion_eq_ok h).1
  have htext : uri.text.toList = sk.filled vars := by
    rw [hfilled, Uri.text, hscheme, hauthority]
    cases uri.query <;> simp
  refine ⟨hscheme, hauthority, ?_, ?_, ?_, fun i p hp hi => ?_⟩
  · refine ⟨(sk.values vars).map Text.percentEncode, ?_, fun code hmem => ?_, htext⟩
    · rw [List.length_map, length_values hfault]
    · obtain ⟨value, -, rfl⟩ := List.mem_map.mp hmem
      exact Text.escaped_percentEncode value
  · rw [htext, filled, count_interleave (not_mem_code (by decide))]
  · have hmark : '?' ∈ sk.filled vars ↔ ∃ l ∈ sk.literals, '?' ∈ l :=
      mem_interleave (not_mem_code (by decide))
    rw [← hmark, hfilled]
    cases uri.query <;> simp [hpath]
  · exact hi.exists_segment hfault hp hfilled hpath

/-- When a character that is not used in codes stands between any two placeholders, the text with
the encoded values tells what the values were. -/
theorem values_eq_of_filled_eq (h : sk.fault? vars = none) (h' : sk.fault? vars' = none)
    (hinner : ∀ l ∈ sk.literals.tail.dropLast, ∃ c ∈ l, Text.isCodeChar c = false)
    (heq : sk.filled vars = sk.filled vars') : sk.values vars = sk.values vars' := by
  have hliterals := length_literals (closed_of_fault? h)
  have hcodes : (sk.values vars).map Text.percentEncode =
      (sk.values vars').map Text.percentEncode := by
    refine interleave_inj (fun _ => isCodeChar_of_mem) (fun _ => isCodeChar_of_mem) ?_ ?_ hinner heq
    · rw [hliterals, List.length_map, length_values h]
    · rw [List.length_map, List.length_map, length_values h, length_values h']
  exact List.map_injective_iff.mpr (fun _ _ => Text.percentEncode_inj.mp) hcodes

end

end Skeleton

/-! ### Expanded URIs -/

/-- Whatever the values are, a template that begins with a slash and has no number sign in its
literals is expanded to a URI of its own shape. When a character that is not used in codes stands
between any two placeholders, no two values in the same place give equal URIs. -/
theorem expand_keeps_shape {template : String} {sk : Skeleton} (hsk : sk.text = template.toList)
    (hslash : template.toList.head? = some '/') (hhash : ∀ l ∈ sk.literals, '#' ∉ l) :
    (∀ vars uri, expand template vars = .ok uri → sk.Shapes vars uri) ∧
      ((∀ l ∈ sk.literals.tail.dropLast, ∃ c ∈ l, Text.isCodeChar c = false) →
        ∀ vars vars' uri uri', expand template vars = .ok uri → expand template vars' = .ok uri' →
          uri.equal uri' = true → ∀ (i : Nat) (p : Placeholder), sk.placeholders[i]? = some p →
            p.value? vars i = p.value? vars' i) := by
  have hexpand := expand_eq_expansion hsk
  rw [← hsk] at hslash
  refine ⟨fun vars uri h => ?_, fun hinner vars vars' uri uri' h h' hequal i p hp => ?_⟩
  · rw [hexpand] at h
    exact Skeleton.shapes_of_expansion hslash hhash h
  · rw [hexpand] at h h'
    have hfault := (Skeleton.expansion_eq_ok h).1
    have hfault' := (Skeleton.expansion_eq_ok h').1
    obtain ⟨-, -, hfilled, -⟩ := Skeleton.parts_of_expansion hslash hhash h
    obtain ⟨-, -, hfilled', -⟩ := Skeleton.parts_of_expansion hslash hhash h'
    simp only [Uri.equal, Uri.sameTarget, Bool.and_eq_true, decide_eq_true_eq] at hequal
    rw [hequal.1.2, hequal.2, ← hfilled'] at hfilled
    have hvalues := Skeleton.getElem?_values hfault i
    rw [Skeleton.values_eq_of_filled_eq hfault hfault' hinner hfilled,
      Skeleton.getElem?_values hfault' i, hp] at hvalues
    exact hvalues.symm

/-- A template with a segment of its own for its first placeholder. -/
def rooms : String := "/\x7bhotel\x7d/r-\x7broom\x7d?by=\x7bguest\x7d"

def rooms.skeleton : Skeleton :=
  .placeholder ['/'] "hotel".toList (by decide) (by decide)
    (.placeholder ['/', 'r', '-'] "room".toList (by decide) (by decide)
      (.placeholder ['?', 'b', 'y', '='] "guest".toList (by decide) (by decide)
        (.literal [] (by decide))))

/-- A value with a slash is one segment, and another value is another URI. -/
theorem expand_keeps_shape_rooms :
    rooms.skeleton.text = rooms.toList ∧ rooms.toList.head? = some '/' ∧
      (∀ l ∈ rooms.skeleton.literals, '#' ∉ l) ∧ rooms.skeleton.IsSegment 0 ∧
      ∃ uri, expand rooms (.positional ["a/b", "7", "é"]) = .ok uri ∧
        uri.path = "/a%2Fb/r-7" ∧ uri.query = some "by=%C3%A9" ∧
        rooms.skeleton.Shapes (.positional ["a/b", "7", "é"]) uri ∧
        ∀ vars uri', expand rooms vars = .ok uri' → uri.equal uri' = true →
          vars.value? 0 "hotel" = some "a/b" := by
  have hsk : rooms.skeleton.text = rooms.toList := by decide +kernel
  have hslash : rooms.toList.head? = some '/' := by decide +kernel
  have hhash : ∀ l ∈ rooms.skeleton.literals, '#' ∉ l := by decide
  have hinner : ∀ l ∈ rooms.skeleton.literals.tail.dropLast,
      ∃ c ∈ l, Text.isCodeChar c = false := by
    intro l hl
    have hl : l = ['/', 'r', '-'] ∨ l = ['?', 'b', 'y', '='] := by
      simpa [rooms.skeleton, Skeleton.literals] using hl
    rcases hl with rfl | rfl
    · exact ⟨'/', by decide, by decide⟩
    · exact ⟨'?', by decide, by decide⟩
  have hok : expand rooms (.positional ["a/b", "7", "é"]) =
      .ok ⟨none, none, "/a%2Fb/r-7", some "by=%C3%A9"⟩ := by
    rw [expand_eq_expansion hsk]
    decide +kernel
  obtain ⟨hshapes, hinjective⟩ := expand_keeps_shape hsk hslash hhash
  refine ⟨hsk, hslash, hhash, ?_, _, hok, rfl, rfl, hshapes _ _ hok, fun vars uri' h hequal => ?_⟩
  · exact ⟨by decide, ⟨_, rfl, by decide⟩, _, rfl, .inl (by decide)⟩
  · exact (hinjective hinner _ _ _ _ hok h hequal 0 _ rfl).symm

end Template

end ExchangeMetrics
