import ExchangeMetrics.Decimal.Shortest

/-!
# Writing floating-point numbers

The shortest decimal of a number is written with a point if that takes few zeros, and with an
exponent otherwise. Where the change comes is a decision of the format.
-/

namespace ExchangeMetrics.Decimal

/-- The decisions on how a decimal is written. The place of a decimal is the exponent of ten
just above its leading digit, so that a number below one and not below a tenth has place
zero. -/
structure Layout where
  /-- The greatest place that is written without an exponent. -/
  greatestPlace : Int
  /-- The least place that is written without an exponent. -/
  leastPlace : Int
  /-- The mark in front of an exponent. -/
  mark : Char
  /-- Whether an exponent that is not negative has a plus sign. -/
  plus : Bool
deriving DecidableEq

/-- Numbers are written with a point up to sixteen digits in front of it and up to four zeros
behind it, and with an exponent beyond, which has a sign and is not padded. -/
def layout : Layout := ⟨16, -4, 'e', true⟩

/-- The characters of an integer. -/
def intChars (n : Int) : List Char :=
  if n < 0 then '-' :: Nat.toDigits 10 n.natAbs else Nat.toDigits 10 n.natAbs

/-- An exponent behind its mark. -/
def Layout.exponent (l : Layout) (n : Int) : List Char :=
  l.mark :: (if l.plus && 0 ≤ n then '+' :: intChars n else intChars n)

/-- A decimal as a text. A whole number has a zero behind its point; in front of an exponent a
single digit has no point. -/
def Layout.write (l : Layout) (d : Digits) : List Char :=
  let digits := Nat.toDigits 10 d.digits
  let place : Int := digits.length + d.exponent
  if 0 ≤ d.exponent && place ≤ l.greatestPlace then
    digits ++ List.replicate d.exponent.toNat '0' ++ ['.', '0']
  else if 0 < place && place ≤ l.greatestPlace then
    digits.take place.toNat ++ '.' :: digits.drop place.toNat
  else if l.leastPlace ≤ place && place ≤ 0 then
    '0' :: '.' :: List.replicate (-place).toNat '0' ++ digits
  else
    match digits with
    | [digit] => digit :: l.exponent (place - 1)
    | digits => digits.take 1 ++ '.' :: digits.drop 1 ++ l.exponent (place - 1)

/-- A finite floating-point number as a text. -/
def text (x : Float) : String :=
  let bits := x.toBits
  let sign := if bits.toNat / Nat.pow 2 63 = 1 then ['-'] else []
  match Binary.ofBits? bits with
  | none => String.ofList (sign ++ ['0', '.', '0'])
  | some b => String.ofList (sign ++ layout.write b.shortest)

end ExchangeMetrics.Decimal
