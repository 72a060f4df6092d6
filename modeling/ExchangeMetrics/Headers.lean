import ExchangeMetrics.Text.Bytes
import ExchangeMetrics.Text.Case
import ExchangeMetrics.Text.Token

/-!
# Headers

A header has a name, which is a token kept in lower case, and a value, which is a string of
bytes. Values may hold more bytes than can be read back as text: any byte from `0x80` up is
allowed in a value, but a value that has one is no text.

`Headers` is a multimap: one name may have several values, which keep the order in which they
were added. Setting a name discards all values it had.

## Main results

* `Headers.values_append`, `Headers.values_set`, `Headers.values_extend`: what each operation
  does to the values of every name.
-/

namespace ExchangeMetrics

/-! ### Names -/

/-- The greatest number of bytes in a header name. -/
def maxHeaderNameLength : Nat := 65535

/-- Whether a text may be used as the name of a header, in any letter case. -/
def isHeaderName (s : String) : Bool :=
  Text.isToken s && Text.byteLength s ≤ maxHeaderNameLength

/-- The name of a header, in lower case. -/
structure HeaderName where
  /-- The name as it is shown. -/
  text : String
deriving DecidableEq

/-- Read a header name: it is kept in lower case, and refused if it is not a token or too
long. -/
def HeaderName.ofText? (s : String) : Option HeaderName :=
  if isHeaderName s then some ⟨Text.lower s⟩ else none

/-! ### Values -/

/-- The bytes allowed in a header value: all but the control characters, of which the
tabulator alone is allowed. -/
def isValueByte (b : UInt8) : Bool :=
  (32 ≤ b && b ≠ 127) || b = 9

/-- The bytes that can be read as text: the printable ones of ASCII, and the tabulator. -/
def isTextByte (b : UInt8) : Bool :=
  (32 ≤ b && b < 127) || b = 9

/-- The value of a header. -/
structure HeaderValue where
  /-- The bytes of the value. -/
  bytes : List UInt8
  /-- No byte is one that a value must not hold. -/
  allowed : bytes.all isValueByte = true
deriving DecidableEq

/-- Read a header value, refusing one with a control character in it. -/
def HeaderValue.ofBytes? (bs : List UInt8) : Option HeaderValue :=
  if h : bs.all isValueByte = true then some ⟨bs, h⟩ else none

/-- Read a header value from the bytes of a text. -/
def HeaderValue.ofText? (s : String) : Option HeaderValue :=
  HeaderValue.ofBytes? (Text.bytes s)

/-- The value as a text, if every byte of it can be read as text. -/
def HeaderValue.text? (v : HeaderValue) : Option String :=
  if v.bytes.all isTextByte then some (String.ofList (v.bytes.map fun b => Char.ofNat b.toNat))
  else none

/-! ### The multimap -/

/-- Headers in the order in which they were added. -/
structure Headers where
  /-- The names with their values. -/
  entries : List (HeaderName × HeaderValue) := []
deriving DecidableEq

namespace Headers

/-- No headers. -/
def empty : Headers := {}

/-- The values of a name, in the order in which they were added. -/
def values (h : Headers) (n : HeaderName) : List HeaderValue :=
  (h.entries.filter (·.1 = n)).map (·.2)

/-- Whether a name has a value. -/
def contains (h : Headers) (n : HeaderName) : Bool :=
  h.entries.any (·.1 = n)

/-- Add a value to those of a name. -/
def append (h : Headers) (n : HeaderName) (v : HeaderValue) : Headers :=
  ⟨h.entries ++ [(n, v)]⟩

/-- Remove a name with all its values. -/
def erase (h : Headers) (n : HeaderName) : Headers :=
  ⟨h.entries.filter (·.1 ≠ n)⟩

/-- Give a name one value, in place of all it had. -/
def set (h : Headers) (n : HeaderName) (v : HeaderValue) : Headers :=
  (h.erase n).append n v

/-- Take over all headers of another map; the names it has lose the values they had. -/
def extend (h other : Headers) : Headers :=
  ⟨h.entries.filter (fun e => !other.contains e.1) ++ other.entries⟩

/-- Every name that has a value, once, in the order in which they were first added. -/
def names (h : Headers) : List HeaderName :=
  (h.entries.map (·.1)).eraseDups

/-- The first value of the name that a text denotes, read as text. There is none if the text
is no header name, the name has no value, or its first value is not text. -/
def text? (h : Headers) (name : String) : Option String := do
  let n ← HeaderName.ofText? name
  let v ← (h.values n).head?
  v.text?

/-- The names in byte order. -/
def sortedNames (h : Headers) : List String :=
  (h.names.map (·.text)).mergeSort fun a b => !decide (Text.Before b a)

/-- All headers in the byte order of their names, the values of one name in their order. -/
def sorted (h : Headers) : List (HeaderName × HeaderValue) :=
  h.entries.mergeSort fun a b => !decide (Text.Before b.1.text a.1.text)

/-! ### The values of a name after each operation -/

/-- Headers that are empty have no values. -/
@[simp]
theorem values_empty (n : HeaderName) : empty.values n = [] := rfl

/-- A value is added behind those that its name has. -/
theorem values_append (h : Headers) (n m : HeaderName) (v : HeaderValue) :
    (h.append n v).values m = h.values m ++ if n = m then [v] else [] := by
  by_cases hn : n = m <;> simp [values, append, List.filter_append, hn]

/-- A name that was erased has no values, and the others keep theirs. -/
theorem values_erase (h : Headers) (n m : HeaderName) :
    (h.erase n).values m = if n = m then [] else h.values m := by
  by_cases hn : n = m
  · subst hn
    simp [values, erase, List.filter_filter]
  · simp only [values, erase, List.filter_filter, if_neg hn]
    congr 1
    apply List.filter_congr
    intro e _
    by_cases he : e.1 = m
    · simp [he, Ne.symm hn]
    · simp [he]

/-- A name that was set has that one value, and the others keep theirs. -/
theorem values_set (h : Headers) (n m : HeaderName) (v : HeaderValue) :
    (h.set n v).values m = if n = m then [v] else h.values m := by
  by_cases hn : n = m <;> simp [set, values_append, values_erase, hn]

/-- A name without a value is one that the map does not contain. -/
theorem values_eq_nil_of_not_contains {h : Headers} {n : HeaderName}
    (hn : h.contains n = false) : h.values n = [] := by
  simp only [contains, List.any_eq_false, decide_eq_true_eq] at hn
  simp only [values, List.map_eq_nil_iff, List.filter_eq_nil_iff, decide_eq_true_eq]
  exact hn

/-- Taking over another map gives every name it contains the values it has there, and leaves
all others as they were. -/
theorem values_extend (h other : Headers) (m : HeaderName) :
    (h.extend other).values m = if other.contains m then other.values m else h.values m := by
  cases ho : other.contains m with
  | false =>
      have hkeep : (h.entries.filter fun e => !other.contains e.1).filter (·.1 = m) =
          h.entries.filter (·.1 = m) := by
        rw [List.filter_filter]
        apply List.filter_congr
        intro e _
        by_cases he : e.1 = m
        · simp [he, ho]
        · simp [he]
      have hnone := values_eq_nil_of_not_contains ho
      simp only [values, List.map_eq_nil_iff] at hnone
      simp [values, extend, List.filter_append, hkeep, hnone]
  | true =>
      have hkeep : (h.entries.filter fun e => !other.contains e.1).filter (·.1 = m) = [] := by
        rw [List.filter_filter, List.filter_eq_nil_iff]
        intro e _ he
        simp only [Bool.and_eq_true, decide_eq_true_eq] at he
        obtain ⟨rfl, he⟩ := he
        simp [ho] at he
      simp [values, extend, List.filter_append, hkeep]

end Headers

end ExchangeMetrics
