/-!
# Texts as bytes

Wherever a length, an order or an encoding depends on more than the characters of a text, it
is taken from the text's UTF-8 bytes. This module gives that view and the order it induces:
texts are compared byte by byte, a proper beginning coming before its continuations.

## Main results

* `bytes_inj`: a text is determined by its bytes.
* `Before.irrefl`, `Before.trans`, `Before.asymm`, `Before.trichotomy`: the byte order is a
  strict linear order.
-/

namespace ExchangeMetrics.Text

/-- The UTF-8 bytes of a text, in order. -/
def bytes (s : String) : List UInt8 :=
  s.toByteArray.data.toList

/-- A text is determined by its bytes. -/
theorem bytes_inj {a b : String} : bytes a = bytes b ↔ a = b := by
  constructor
  · intro h
    exact String.toByteArray_inj.1 (ByteArray.ext (Array.toList_inj.1 h))
  · rintro rfl
    rfl

/-- The number of UTF-8 bytes of a text. -/
def byteLength (s : String) : Nat :=
  s.utf8ByteSize

/-! ### The byte order -/

/-- `Before a b` says that `a` comes strictly before `b` in the byte order. -/
def Before (a b : String) : Prop :=
  bytes a < bytes b

instance (a b : String) : Decidable (Before a b) :=
  inferInstanceAs (Decidable (bytes a < bytes b))

/-- No text comes before itself. -/
theorem Before.irrefl (a : String) : ¬ Before a a :=
  List.lt_irrefl (bytes a)

/-- A text that comes before another comes before all that come after that. -/
theorem Before.trans {a b c : String} (h : Before a b) (h' : Before b c) : Before a c :=
  List.lt_trans h h'

/-- Two texts do not come before each other. -/
theorem Before.asymm {a b : String} (h : Before a b) : ¬ Before b a :=
  List.lt_asymm h

/-- Texts of which one comes before the other are different. -/
theorem Before.ne {a b : String} (h : Before a b) : a ≠ b := by
  rintro rfl
  exact Before.irrefl a h

/-- Two texts of which neither comes before the other are the same text. -/
theorem Before.trichotomy {a b : String} (h : ¬ Before a b) (h' : ¬ Before b a) : a = b :=
  bytes_inj.1 (List.le_antisymm (List.not_lt.1 h') (List.not_lt.1 h))

/-- What comes before a text comes before all that do not come before that text. -/
theorem Before.trans_not_before {a b c : String} (h : Before a b) (h' : ¬ Before c b) :
    Before a c := by
  by_cases hbc : Before b c
  · exact h.trans hbc
  · exact trichotomy hbc h' ▸ h

end ExchangeMetrics.Text
