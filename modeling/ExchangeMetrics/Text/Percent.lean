import ExchangeMetrics.Text.Bytes

/-!
# Percent-encoding

A value that is put into a URI is written byte by byte: the unreserved bytes (ASCII letters,
digits and `-`, `_`, `.`, `~`) stand for themselves, and every other byte is written as `%`
followed by its two hexadecimal digits in upper case.

## Main results

* `encodeByte_unreserved`, `encodeByte_reserved`: the two ways in which a byte is written.
-/

namespace ExchangeMetrics.Text

/-- The bytes that percent-encoding leaves as they are: ASCII letters and digits, and
`-`, `_`, `.`, `~`. -/
def isUnreserved (b : UInt8) : Bool :=
  let c := Char.ofNat b.toNat
  c.isAlphanum || c = '-' || c = '_' || c = '.' || c = '~'

/-- The hexadecimal digit of a number below sixteen, in upper case. -/
def upperHexDigit (n : Nat) : Char :=
  if n < 10 then Char.ofNat ('0'.toNat + n) else Char.ofNat ('A'.toNat + (n - 10))

/-- A byte as it is written in a URI. -/
def encodeByte (b : UInt8) : List Char :=
  if isUnreserved b then [Char.ofNat b.toNat]
  else ['%', upperHexDigit (b.toNat / 16), upperHexDigit (b.toNat % 16)]

/-- A byte that is not reserved stands for itself. -/
theorem encodeByte_unreserved {b : UInt8} (h : isUnreserved b = true) :
    encodeByte b = [Char.ofNat b.toNat] := by
  simp [encodeByte, h]

/-- A reserved byte is written with two digits behind a percent sign. -/
theorem encodeByte_reserved {b : UInt8} (h : isUnreserved b = false) :
    encodeByte b = ['%', upperHexDigit (b.toNat / 16), upperHexDigit (b.toNat % 16)] := by
  simp [encodeByte, h]

/-- A text, percent-encoded. -/
def percentEncode (s : String) : List Char :=
  (bytes s).flatMap encodeByte

end ExchangeMetrics.Text
