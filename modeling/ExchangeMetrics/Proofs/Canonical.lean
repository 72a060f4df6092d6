import Mathlib.Data.Finset.Card
import ExchangeMetrics.Tags

/-!
# Sets of tags, however they were put together

A set of tags can be collected from pairs or from tags, taken from another set or not, and a tag
can be added to it. A `Recipe` says in which of these ways a set was made. Whatever the recipe, only
the pairs matter that were added along it, and of these, for every key, the one that came last.

## Main results

* `Tags.get?_insertAll`: what adding pairs one after the other does to the value of a key.
* `Tags.ofTags_entries`: a set collected anew is the same set.
* `Tags.ofPairs_canonical`: what a set tells of the pairs from which it was collected.
* `Tags.Recipe.make_canonical`: what any set tells of the pairs that were added along its recipe.
-/

namespace ExchangeMetrics

/-! ### The pair that comes last -/

/-- The value beside the last of the pairs with a key. -/
def lastValue? (ps : List (String × String)) (key : String) : Option String :=
  (ps.filter (·.1 = key)).getLast?.map (·.2)

section

variable {ps qs : List (String × String)} {key value : String}

/-- The last value of a key is the one among the pairs behind, or else the one among those in front.
-/
theorem lastValue?_append :
    lastValue? (ps ++ qs) key = (lastValue? qs key).or (lastValue? ps key) := by
  rw [lastValue?, List.filter_append, List.getLast?_append, Option.map_or]
  rfl

/-- The last value in a single pair. -/
theorem lastValue?_singleton (k v : String) :
    lastValue? [(k, v)] key = if k = key then some v else none := by
  rw [lastValue?, List.filter_singleton]
  by_cases h : k = key <;> simp [h]

/-- The last value of a key is the one among the later pairs, or else that of the first. -/
theorem lastValue?_cons (p : String × String) :
    lastValue? (p :: ps) key = (lastValue? ps key).or (if p.1 = key then some p.2 else none) := by
  rw [← List.singleton_append, lastValue?_append, lastValue?_singleton]

/-- The last value of a key is that of one of its pairs. -/
theorem mem_of_lastValue? (h : lastValue? ps key = some value) : (key, value) ∈ ps := by
  obtain ⟨⟨k, v⟩, hlast, rfl⟩ := Option.map_eq_some_iff.1 h
  obtain ⟨hmem, hkey⟩ := List.mem_filter.1 (List.mem_of_getLast? hlast)
  obtain rfl : k = key := of_decide_eq_true hkey
  exact hmem

/-- A key has no last value exactly if it does not occur. -/
theorem lastValue?_eq_none_iff : lastValue? ps key = none ↔ key ∉ ps.map Prod.fst := by
  rw [lastValue?, Option.map_eq_none_iff, List.getLast?_eq_none_iff, List.filter_eq_nil_iff,
    List.mem_map]
  refine ⟨fun h ⟨p, hp, hkey⟩ => h p hp (decide_eq_true hkey), fun h p hp hkey => ?_⟩
  exact h ⟨p, hp, of_decide_eq_true hkey⟩

end

/-- One list of pairs is a permutation of the other in which pairs with the same key stand in the
same order. -/
structure Rearranged (ps qs : List (String × String)) : Prop where
  perm : ps.Perm qs
  order : ∀ key, ps.filter (·.1 = key) = qs.filter (·.1 = key)

/-- Rearranging pairs without changing the order of those of one key keeps its last value. -/
theorem Rearranged.lastValue?_eq {ps qs : List (String × String)} (h : Rearranged ps qs)
    (key : String) : lastValue? ps key = lastValue? qs key := by
  rw [lastValue?, h.order key, ← lastValue?]

namespace Tags

/-- Add pairs of a key and a value, one after the other. -/
def insertAll (ts : Tags) (ps : List (String × String)) : Tags :=
  ps.foldl (fun acc p => acc.insert p.1 p.2) ts

/-- After pairs were added a key has the value of its last pair, or, if there is none, the value
it had. -/
theorem get?_insertAll (ts : Tags) (ps : List (String × String)) (key : String) :
    (ts.insertAll ps).get? key = (lastValue? ps key).or (ts.get? key) := by
  induction ps generalizing ts with
  | nil => rfl
  | cons p ps ih =>
      rw [insertAll, List.foldl_cons, ← insertAll, ih, get?_insert, lastValue?_cons,
        Option.or_assoc]
      split <;> rfl

/-- Tags are made from pairs by inserting them one after the other. -/
theorem ofPairs_eq (ps : List (String × String)) : ofPairs ps = empty.insertAll ps := rfl

/-- Tags are made from other tags as from their pairs. -/
theorem ofTags_eq (ts : List Tag) : ofTags ts = ofPairs (ts.map fun t => (t.key, t.value)) := by
  rw [ofTags, ofPairs, List.foldl_map]

/-- A key has the last of the values that were given for it. -/
theorem get?_ofPairs (ps : List (String × String)) (key : String) :
    (ofPairs ps).get? key = lastValue? ps key := by
  rw [ofPairs_eq, get?_insertAll, get?_empty, Option.or_none]

/-- The pairs of a set have every key once. -/
theorem lastValue?_toPairs (ts : Tags) (key : String) :
    lastValue? ts.toPairs key = ts.get? key := by
  cases hlast : lastValue? ts.toPairs key with
  | some value =>
      obtain ⟨t, ht, hpair⟩ := List.mem_map.1 (mem_of_lastValue? hlast)
      obtain ⟨rfl, rfl⟩ := Prod.mk.inj hpair
      exact (get?_eq_some_iff.2 ht).symm
  | none =>
      refine (Option.eq_none_iff_forall_ne_some.2 fun value hvalue => ?_).symm
      refine lastValue?_eq_none_iff.1 hlast (List.mem_map.2 ⟨(key, value), ?_, rfl⟩)
      exact List.mem_map.2 ⟨⟨key, value⟩, get?_eq_some_iff.1 hvalue, rfl⟩

/-- A set that is collected from the tags of another is the same set. -/
theorem ofTags_entries (ts : Tags) : ofTags ts.entries = ts := by
  refine ext_get? fun key => ?_
  rw [ofTags_eq, get?_ofPairs]
  exact ts.lastValue?_toPairs key

/-- The keys are those that have a value. -/
theorem mem_keys_iff {ts : Tags} {key : String} :
    key ∈ ts.entries.map (·.key) ↔ ts.get? key ≠ none := by
  rw [Option.ne_none_iff_exists', List.mem_map]
  constructor
  · rintro ⟨t, ht, rfl⟩
    exact ⟨t.value, get?_eq_some_iff.2 ht⟩
  · rintro ⟨value, hvalue⟩
    exact ⟨⟨key, value⟩, get?_eq_some_iff.1 hvalue, rfl⟩

/-- No key occurs twice. -/
theorem nodup_keys (ts : Tags) : (ts.entries.map (·.key)).Nodup :=
  List.pairwise_map.2 (ts.ascending.imp fun hlt => hlt.ne)

/-- Tags contain all pairs exactly if each key has the value of its pair. -/
theorem containsAll_iff {ts : Tags} {qs : List (String × String)} :
    ts.containsAll qs = true ↔ ∀ q ∈ qs, ts.get? q.1 = some q.2 := by
  rw [containsAll, List.all_eq_true]
  refine forall₂_congr fun q _ => ?_
  rw [decide_eq_true_eq]

/-! ### What a set tells of the pairs that were added -/

/-- A set of tags is the one that these pairs stand for, if they are added one after the other. -/
structure Canonical (ps : List (String × String)) (ts : Tags) : Prop where
  /-- The keys are strictly increasing in the byte order. -/
  ascending : (ts.entries.map (·.key)).Pairwise Text.Before
  /-- A key has the value with which it came last. -/
  get? : ∀ key, ts.get? key = lastValue? ps key
  /-- There is one tag for each of the keys. -/
  size : ts.size = (ps.map Prod.fst).toFinset.card
  /-- Exactly those pairs are there that came last with their keys. -/
  containsAll : ∀ qs, ts.containsAll qs = true ↔ ∀ q ∈ qs, lastValue? ps q.1 = some q.2

/-- Tags that are made from pairs are canonical. -/
theorem ofPairs_canonical (ps : List (String × String)) : Canonical ps (ofPairs ps) where
  ascending := List.pairwise_map.2 (ofPairs ps).ascending
  get? := get?_ofPairs ps
  size := by
    rw [size, ← List.length_map Tag.key, ← List.toFinset_card_of_nodup (nodup_keys _)]
    refine congrArg Finset.card (Finset.ext fun key => ?_)
    rw [List.mem_toFinset, List.mem_toFinset, mem_keys_iff, get?_ofPairs, Ne,
      lastValue?_eq_none_iff, Decidable.not_not]
  containsAll qs := by
    rw [containsAll_iff]
    simp only [get?_ofPairs]

/-- The set that pairs make is the only one in which every key has the value that came last. -/
theorem eq_ofPairs_iff {ts : Tags} {ps : List (String × String)} :
    ts = ofPairs ps ↔ ∀ key, ts.get? key = lastValue? ps key := by
  constructor
  · rintro rfl key
    exact get?_ofPairs ps key
  · intro h
    refine ext_get? fun key => ?_
    rw [h, get?_ofPairs]

/-- Two lists of pairs make the same set exactly if the same values came last in them. -/
theorem ofPairs_eq_iff {ps qs : List (String × String)} :
    ofPairs ps = ofPairs qs ↔ ∀ key, lastValue? ps key = lastValue? qs key := by
  rw [eq_ofPairs_iff]
  refine forall_congr' fun key => ?_
  rw [get?_ofPairs]

/-! ### Recipes -/

/-- How a set of tags was put together. -/
inductive Recipe where
  /-- There is nothing in it. -/
  | empty
  /-- The pairs of a set, and these behind them, were collected into a new one. -/
  | ofPairs (r : Recipe) (ps : List (String × String))
  /-- The tags of a set, and these behind them, were collected into a new one. -/
  | ofTags (r : Recipe) (ts : List Tag)
  /-- A tag was added to a set. -/
  | insert (r : Recipe) (key value : String)

namespace Recipe

/-- The set that was put together. -/
def make : Recipe → Tags
  | empty => Tags.empty
  | ofPairs r ps => Tags.ofPairs (r.make.toPairs ++ ps)
  | ofTags r ts => Tags.ofTags (r.make.entries ++ ts)
  | insert r key value => r.make.insert key value

/-- The pairs that were added, in this order. -/
def pairs : Recipe → List (String × String)
  | empty => []
  | ofPairs r ps => r.pairs ++ ps
  | ofTags r ts => r.pairs ++ ts.map fun t => (t.key, t.value)
  | insert r key value => r.pairs ++ [(key, value)]

/-- However tags are made, a key has the last of the values that were given for it. -/
theorem get?_make (r : Recipe) (key : String) : r.make.get? key = lastValue? r.pairs key := by
  induction r with
  | empty => exact get?_empty key
  | ofPairs r ps ih =>
      rw [make, get?_ofPairs, lastValue?_append, lastValue?_toPairs, ih, pairs, lastValue?_append]
  | ofTags r ts ih =>
      have htoPairs : r.make.entries.map (fun t => (t.key, t.value)) = r.make.toPairs := rfl
      rw [make, ofTags_eq, List.map_append, htoPairs, get?_ofPairs, lastValue?_append,
        lastValue?_toPairs, ih, pairs, lastValue?_append]
  | insert r k v ih =>
      rw [make, get?_insert, ih, pairs, lastValue?_append, lastValue?_singleton]
      split <;> rfl

/-- A set made in any way is the one that is collected from the pairs that were added. -/
theorem make_eq_ofPairs (r : Recipe) : r.make = Tags.ofPairs r.pairs :=
  eq_ofPairs_iff.2 r.get?_make

/-- Pairs make the same set whether they are collected, collected as tags, or added one after the
other, and in any mixture of these ways. The set tells, for every key, which value came last, and
nothing else of the pairs: sets are the same exactly if the same values came last. -/
theorem make_canonical (r : Recipe) :
    r.make = Tags.ofPairs r.pairs ∧
      r.make = Tags.ofTags (r.pairs.map fun p => ⟨p.1, p.2⟩) ∧
      r.make = Tags.empty.insertAll r.pairs ∧
      Canonical r.pairs r.make ∧
      ∀ r' : Recipe,
        (r.make = r'.make ↔ ∀ key, lastValue? r.pairs key = lastValue? r'.pairs key) ∧
          (Rearranged r.pairs r'.pairs → r.make = r'.make) := by
  have hsame (r' : Recipe) :
      r.make = r'.make ↔ ∀ key, lastValue? r.pairs key = lastValue? r'.pairs key := by
    rw [make_eq_ofPairs, make_eq_ofPairs, ofPairs_eq_iff]
  refine ⟨r.make_eq_ofPairs, ?_, r.make_eq_ofPairs, ?_, fun r' => ⟨hsame r', fun h => ?_⟩⟩
  · rw [ofTags_eq, List.map_map]
    exact r.make_eq_ofPairs.trans (congrArg Tags.ofPairs (List.map_id _).symm)
  · rw [make_eq_ofPairs]
    exact ofPairs_canonical r.pairs
  · exact (hsame r').2 h.lastValue?_eq

end Recipe

end Tags

end ExchangeMetrics
