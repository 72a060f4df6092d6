import ExchangeMetrics.Text.Bytes

/-!
# Tags

A tag labels an observation with a key and a value. `Tags` is a set of tags with distinct keys,
kept in the byte order of the keys, so that two sets with the same tags are the same set
whatever the order in which they were put together. Adding a tag whose key is already there
replaces the value.

Keys are found by halving the list, which is right because the list is ascending.

## Main results

* `Ascending.isPlaceOf_placeOf`: halving an ascending list finds the place of a key.
* `Ascending.mem_putTag`, `Ascending.putTag`: what putting a tag into its place does.
* `Tags.get?_insert`: the value of a key after a tag was added.
* `Tags.ext_get?`: a set of tags is determined by the values of its keys.
-/

namespace ExchangeMetrics

/-- A label of an observation. -/
structure Tag where
  /-- What the label says something about. -/
  key : String
  /-- What it says. -/
  value : String
deriving DecidableEq

/-- A tag as a text, key and value joined by an equals sign. -/
def Tag.text (t : Tag) : String :=
  t.key ++ "=" ++ t.value

/-- How two texts compare in the byte order. -/
def compareTexts (a b : String) : Ordering :=
  if Text.Before a b then .lt else if a = b then .eq else .gt

/-- How two tags compare: by their keys, and by their values if the keys are the same. -/
def Tag.compare (a b : Tag) : Ordering :=
  (compareTexts a.key b.key).then (compareTexts a.value b.value)

/-- How two lists of tags compare, the first tag in which they differ deciding; a proper
beginning comes first. -/
def compareTags : List Tag → List Tag → Ordering
  | [], [] => .eq
  | [], _ :: _ => .lt
  | _ :: _, [] => .gt
  | a :: as, b :: bs => (a.compare b).then (compareTags as bs)

/-! ### Lists of tags in the order of their keys -/

/-- The keys of a list of tags are strictly increasing. -/
def Ascending (ts : List Tag) : Prop :=
  ts.Pairwise fun a b => Text.Before a.key b.key

/-- A key belongs to one tag at most. -/
theorem Ascending.eq_of_key_eq {ts : List Tag} (h : Ascending ts) {t u : Tag} (ht : t ∈ ts)
    (hu : u ∈ ts) (hkey : t.key = u.key) : t = u := by
  have hdistinct : ts.Pairwise fun t u => t.key = u.key → t = u :=
    h.imp fun hlt heq => absurd heq hlt.ne
  have hflipped : ts.Pairwise fun t u => u.key = t.key → u = t :=
    h.imp fun hlt heq => absurd heq.symm hlt.ne
  exact hdistinct.forall_of_forall_of_flip (fun _ _ _ => rfl) hflipped ht hu hkey

/-- The tags in front of a position and those behind it, compared with the one that is there. -/
theorem Ascending.split {ts : List Tag} (h : Ascending ts) {i : Nat} (hi : i < ts.length) :
    (∀ t ∈ ts.take i, Text.Before t.key ts[i].key) ∧
      ∀ t ∈ ts.drop (i + 1), Text.Before ts[i].key t.key := by
  have hsplit : Ascending (ts.take i ++ ts[i] :: ts.drop (i + 1)) := by
    rwa [← List.drop_eq_getElem_cons hi, List.take_append_drop]
  obtain ⟨-, hback, hfront⟩ := List.pairwise_append.1 hsplit
  exact ⟨fun t ht => hfront t ht _ List.mem_cons_self, (List.pairwise_cons.1 hback).1⟩

/-! ### Finding a key by halving -/

/-- Where a key stands in a list of tags. -/
inductive Place where
  /-- At this position there is a tag with the key. -/
  | found (position : Nat)
  /-- There is none; a tag with the key belongs at this position. -/
  | missing (position : Nat)
deriving DecidableEq

/-- The same place once so many tags were put in front of the list. -/
def Place.shift (n : Nat) : Place → Place
  | found position => found (n + position)
  | missing position => missing (n + position)

/-- Find the place of a key. The list is halved until a single tag is left: if the tag in the
middle comes after the key, the search goes on in front of it, and otherwise from it onwards. On a
list that is not ascending, the result means nothing. -/
def placeOf (key : String) (ts : List Tag) : Place :=
  if h : 1 < ts.length then
    let half := ts.length / 2
    have hhalf : half < ts.length := by omega
    if Text.Before key ts[half].key then placeOf key (ts.take (ts.length - half))
    else (placeOf key (ts.drop half)).shift half
  else
    match ts with
    | [] => .missing 0
    | t :: _ =>
        if t.key = key then .found 0
        else if Text.Before t.key key then .missing 1
        else .missing 0
termination_by ts.length
decreasing_by
  · rw [List.length_take]
    omega
  · rw [List.length_drop]
    omega

/-- What it means to be the place of a key in a list of tags. -/
inductive IsPlaceOf (key : String) : List Tag → Place → Prop where
  | found (before : List Tag) {t : Tag} (after : List Tag) (h : t.key = key) :
      IsPlaceOf key (before ++ t :: after) (.found before.length)
  | missing (before after : List Tag) (hbefore : ∀ t ∈ before, Text.Before t.key key)
      (hafter : ∀ t ∈ after, Text.Before key t.key) :
      IsPlaceOf key (before ++ after) (.missing before.length)

namespace IsPlaceOf

variable {key : String} {ts front back : List Tag} {place : Place}

/-- Tags in front of all others shift the place of a key. -/
theorem append_left (h : IsPlaceOf key ts place)
    (hfront : ∀ t ∈ front, Text.Before t.key key) :
    IsPlaceOf key (front ++ ts) (place.shift front.length) := by
  cases h with
  | found before after h =>
      rw [← List.append_assoc, Place.shift, ← List.length_append]
      exact .found _ _ h
  | missing before after hbefore hafter =>
      rw [← List.append_assoc, Place.shift, ← List.length_append]
      refine .missing _ _ (fun t ht => ?_) hafter
      exact (List.mem_append.1 ht).elim (hfront t) (hbefore t)

/-- Tags behind all others leave the place of a key as it is. -/
theorem append_right (h : IsPlaceOf key ts place)
    (hback : ∀ t ∈ back, Text.Before key t.key) : IsPlaceOf key (ts ++ back) place := by
  cases h with
  | found before after h =>
      rw [List.append_assoc, List.cons_append]
      exact .found _ _ h
  | missing before after hbefore hafter =>
      rw [List.append_assoc]
      refine .missing _ _ hbefore fun t ht => ?_
      exact (List.mem_append.1 ht).elim (hafter t) (hback t)

end IsPlaceOf

/-- In an ascending list, halving finds the place of every key. -/
theorem Ascending.isPlaceOf_placeOf {ts : List Tag} (h : Ascending ts) (key : String) :
    IsPlaceOf key ts (placeOf key ts) := by
  fun_induction placeOf key ts with
  | case1 ts hlong half hhalf hafter ih =>
      have hback : ∀ t ∈ ts.drop (ts.length - half), Text.Before key t.key := by
        intro t ht
        have hsum : ts.length - half = half + (ts.length - half - half) := by omega
        rw [hsum, ← List.drop_drop] at ht
        have hmem := List.mem_of_mem_drop ht
        rw [List.drop_eq_getElem_cons hhalf] at hmem
        rcases List.mem_cons.1 hmem with rfl | hmem
        · exact hafter
        · exact hafter.trans ((h.split hhalf).2 t hmem)
      have hplace := (ih (h.sublist (List.take_sublist _ _))).append_right hback
      rwa [List.take_append_drop] at hplace
  | case2 ts hlong half hhalf hnot ih =>
      have hfront : ∀ t ∈ ts.take half, Text.Before t.key key := fun t ht =>
        ((h.split hhalf).1 t ht).trans_not_before hnot
      have hplace := (ih (h.sublist (List.drop_sublist _ _))).append_left hfront
      rw [List.take_append_drop, List.length_take_of_le (Nat.le_of_lt hhalf)] at hplace
      exact hplace
  | case3 => exact .missing [] [] (List.forall_mem_nil _) (List.forall_mem_nil _)
  | case4 t ts hshort hkey => exact .found [] ts hkey
  | case5 t ts hshort hne hbefore =>
      obtain rfl : ts = [] := List.length_eq_zero_iff.1 (by rw [List.length_cons] at hshort; omega)
      exact .missing [t] [] (List.forall_mem_singleton.2 hbefore) (List.forall_mem_nil _)
  | case6 t ts hshort hne hnot =>
      obtain rfl : ts = [] := List.length_eq_zero_iff.1 (by rw [List.length_cons] at hshort; omega)
      refine .missing [] [t] (List.forall_mem_nil _) (List.forall_mem_singleton.2 ?_)
      exact Decidable.by_contra fun h => hne (Text.Before.trichotomy hnot h)

/-- Put a tag into its place, replacing the tag with the same key if there is one. -/
def putTag (t : Tag) (ts : List Tag) : List Tag :=
  match placeOf t.key ts with
  | .found position => ts.set position t
  | .missing position => ts.insertIdx position t

/-- Inserting behind the first half puts a tag between both halves. -/
theorem insertIdx_length_append (before after : List Tag) (t : Tag) :
    (before ++ after).insertIdx before.length t = before ++ t :: after := by
  induction before with
  | nil => rfl
  | cons u before ih => exact congrArg (u :: ·) ih

namespace Ascending

variable {ts : List Tag}

/-- A tag is put between those before it and those after it, and whatever has the same key is
taken out. -/
theorem exists_putTag_eq (h : Ascending ts) (t : Tag) :
    ∃ before same after, ts = before ++ same ++ after ∧ putTag t ts = before ++ t :: after ∧
      (∀ u ∈ same, u.key = t.key) ∧ (∀ u ∈ before, Text.Before u.key t.key) ∧
      ∀ u ∈ after, Text.Before t.key u.key := by
  have hplace := h.isPlaceOf_placeOf t.key
  rw [putTag]
  generalize placeOf t.key ts = place at hplace
  cases hplace with
  | @found before u after hkey =>
      obtain ⟨-, hafter, hbefore⟩ := List.pairwise_append.1 h
      refine ⟨before, [u], after, by simp, by simp, by simpa using hkey, fun v hv => ?_, ?_⟩
      · exact hkey ▸ hbefore v hv u List.mem_cons_self
      · exact hkey ▸ (List.pairwise_cons.1 hafter).1
  | missing before after hbefore hafter =>
      exact ⟨before, [], after, by simp, insertIdx_length_append before after t,
        List.forall_mem_nil _, hbefore, hafter⟩

/-- After a tag was put there are that tag and all those of other keys. -/
theorem mem_putTag (h : Ascending ts) {t u : Tag} :
    u ∈ putTag t ts ↔ u = t ∨ (u ∈ ts ∧ u.key ≠ t.key) := by
  obtain ⟨before, same, after, rfl, hput, hsame, hbefore, hafter⟩ := h.exists_putTag_eq t
  have hne : ∀ u, u ∈ before ∨ u ∈ after → u.key ≠ t.key := by
    rintro u (hu | hu) heq
    · exact (hbefore u hu).ne heq
    · exact (hafter u hu).ne heq.symm
  rw [hput]
  simp only [List.mem_append, List.mem_cons]
  constructor
  · rintro (hu | rfl | hu)
    · exact .inr ⟨.inl (.inl hu), hne u (.inl hu)⟩
    · exact .inl rfl
    · exact .inr ⟨.inr hu, hne u (.inr hu)⟩
  · rintro (rfl | ⟨(hu | hu) | hu, hkey⟩)
    · exact .inr (.inl rfl)
    · exact .inl hu
    · exact absurd (hsame u hu) hkey
    · exact .inr (.inr hu)

/-- Putting a tag into its place keeps the keys increasing. -/
theorem putTag (h : Ascending ts) (t : Tag) : Ascending (putTag t ts) := by
  obtain ⟨before, same, after, rfl, hput, -, hbefore, hafter⟩ := h.exists_putTag_eq t
  rw [hput]
  refine List.pairwise_append.2 ⟨?_, List.pairwise_cons.2 ⟨hafter, ?_⟩, fun u hu v hv => ?_⟩
  · exact h.sublist ((List.sublist_append_left _ _).trans (List.sublist_append_left _ _))
  · exact h.sublist (List.sublist_append_right _ _)
  · rcases List.mem_cons.1 hv with rfl | hv
    · exact hbefore u hu
    · exact (hbefore u hu).trans (hafter v hv)

end Ascending

/-! ### Sets of tags -/

/-- A set of tags with distinct keys. -/
structure Tags where
  /-- The tags in the order of their keys. -/
  entries : List Tag := []
  /-- The keys are strictly increasing. -/
  ascending : Ascending entries := by exact List.Pairwise.nil
deriving DecidableEq

namespace Tags

/-- The set without tags. -/
def empty : Tags := {}

/-- Add a tag, replacing the value of its key if the key is there. -/
def insert (ts : Tags) (key value : String) : Tags :=
  ⟨putTag ⟨key, value⟩ ts.entries, ts.ascending.putTag _⟩

/-- Collect tags, later ones replacing earlier ones with the same key. -/
def ofTags (ts : List Tag) : Tags :=
  ts.foldl (fun acc t => acc.insert t.key t.value) empty

/-- Collect pairs of a key and a value, later ones replacing earlier ones with the same key. -/
def ofPairs (ps : List (String × String)) : Tags :=
  ps.foldl (fun acc p => acc.insert p.1 p.2) empty

/-- The value of a key, if the key is there. -/
def get? (ts : Tags) (key : String) : Option String :=
  match placeOf key ts.entries with
  | .found position => ts.entries[position]?.map (·.value)
  | .missing _ => none

/-- Whether every one of these keys is there with exactly the value beside it. -/
def containsAll (ts : Tags) (ps : List (String × String)) : Bool :=
  ps.all fun p => ts.get? p.1 = some p.2

/-- The number of tags. -/
def size (ts : Tags) : Nat :=
  ts.entries.length

/-- Whether there is no tag. -/
def isEmpty (ts : Tags) : Bool :=
  ts.entries.isEmpty

/-- The tags as pairs, in the order of their keys. -/
def toPairs (ts : Tags) : List (String × String) :=
  ts.entries.map fun t => (t.key, t.value)

/-- How each tag compares with the one after it. -/
def neighbourOrders (ts : Tags) : List Ordering :=
  ts.entries.zipWith Tag.compare ts.entries.tail

/-- A key has a value exactly if there is a tag of both. -/
theorem get?_eq_some_iff {ts : Tags} {k v : String} :
    ts.get? k = some v ↔ ⟨k, v⟩ ∈ ts.entries := by
  have hplace := ts.ascending.isPlaceOf_placeOf k
  obtain ⟨entries, hasc⟩ := ts
  rw [get?]
  generalize placeOf k entries = place at hplace
  cases hplace with
  | @found before t after hkey =>
      have hmem : t ∈ before ++ t :: after := List.mem_append_right _ List.mem_cons_self
      have hget : (before ++ t :: after)[before.length]? = some t := by simp
      change (before ++ t :: after)[before.length]?.map (·.value) = some v ↔ _
      rw [hget, Option.map_some, Option.some.injEq]
      constructor
      · rintro rfl
        exact hkey ▸ hmem
      · intro hkv
        rw [hasc.eq_of_key_eq hmem hkv hkey]
  | missing before after hbefore hafter =>
      refine ⟨nofun, fun hkv => ?_⟩
      rcases List.mem_append.1 hkv with hkv | hkv
      · exact absurd (hbefore _ hkv) (Text.Before.irrefl k)
      · exact absurd (hafter _ hkv) (Text.Before.irrefl k)

/-- Without tags no key has a value. -/
@[simp]
theorem get?_empty (key : String) : empty.get? key = none := by
  simp [Option.eq_none_iff_forall_ne_some, get?_eq_some_iff, empty]

/-- After a tag was added its key has its value, and every other key the value it had. -/
theorem get?_insert (ts : Tags) (key value k : String) :
    (ts.insert key value).get? k = if key = k then some value else ts.get? k := by
  refine Option.ext fun v => ?_
  rw [get?_eq_some_iff, insert, ts.ascending.mem_putTag]
  split
  · rename_i hk
    subst hk
    simp [eq_comm]
  · rename_i hk
    simp [get?_eq_some_iff, Ne.symm hk]

end Tags

/-- Two ascending lists with the same members are the same list. -/
theorem Ascending.ext {as bs : List Tag} (ha : Ascending as) (hb : Ascending bs)
    (h : ∀ t, t ∈ as ↔ t ∈ bs) : as = bs := by
  induction as generalizing bs with
  | nil =>
      cases bs with
      | nil => rfl
      | cons b bs => exact absurd ((h b).2 List.mem_cons_self) List.not_mem_nil
  | cons a as ih =>
      cases bs with
      | nil => exact absurd ((h a).1 List.mem_cons_self) List.not_mem_nil
      | cons b bs =>
          obtain ⟨ha', has⟩ := List.pairwise_cons.1 ha
          obtain ⟨hb', hbs⟩ := List.pairwise_cons.1 hb
          have hab : a = b := by
            rcases List.mem_cons.1 ((h a).1 List.mem_cons_self) with hab | hab
            · exact hab
            · rcases List.mem_cons.1 ((h b).2 List.mem_cons_self) with hba | hba
              · exact hba.symm
              · exact absurd (ha' _ hba) (hb' _ hab).asymm
          subst hab
          congr 1
          refine ih has hbs fun t => ⟨fun ht => ?_, fun ht => ?_⟩
          · rcases List.mem_cons.1 ((h t).1 (List.mem_cons_of_mem _ ht)) with rfl | ht'
            · exact absurd (ha' _ ht) (Text.Before.irrefl _)
            · exact ht'
          · rcases List.mem_cons.1 ((h t).2 (List.mem_cons_of_mem _ ht)) with rfl | ht'
            · exact absurd (hb' _ ht) (Text.Before.irrefl _)
            · exact ht'

/-- A set of tags is determined by the values of its keys. -/
theorem Tags.ext_get? {as bs : Tags} (h : ∀ k, as.get? k = bs.get? k) : as = bs := by
  have hmem : ∀ t, t ∈ as.entries ↔ t ∈ bs.entries := by
    intro t
    rw [← @Tags.get?_eq_some_iff as, ← @Tags.get?_eq_some_iff bs, h]
  obtain ⟨as, ha⟩ := as
  obtain ⟨bs, hb⟩ := bs
  obtain rfl : as = bs := ha.ext hb hmem
  rfl

end ExchangeMetrics
