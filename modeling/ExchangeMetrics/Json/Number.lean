/-!
# Numbers of JSON

A number literal without a point or exponent is an integer as long as it fits in 64 bits,
signed if there is a minus sign. Every other one is a floating-point number, and so is a
negative zero.

A floating-point number is computed from the leading digits, as many as fit in 64 bits, and one
power of ten: the digits that do not fit are dropped, and count only by their places. The
digits are rounded first and multiplied or divided by the power afterwards, so the result may be
off by a rounding. A number that would be infinite is out of range, and is not read at all.

## Main definitions

* `number?`: the reader of number literals.
-/

namespace ExchangeMetrics.Json

/-- A number as it was read. -/
inductive Number where
  /-- An integer of 64 bits. -/
  | integer (n : Int)
  /-- A floating-point number. -/
  | decimal (x : Float)

/-- The value of a decimal digit. -/
def digitValue (c : Char) : Nat :=
  c.toNat - '0'.toNat

/-- The characters after leading digits. -/
def skipDigits (cs : List Char) : List Char :=
  cs.dropWhile Char.isDigit

/-- The number of leading digits. -/
def countDigits (cs : List Char) : Nat :=
  (cs.takeWhile Char.isDigit).length

/-- Add the leading digits to a number as long as it fits in 64 bits: the number, how many
digits were added, and the characters behind them. -/
def takeDigits : Nat → List Char → Nat × Nat × List Char
  | n, [] => (n, 0, [])
  | n, c :: cs =>
      if c.isDigit && n * 10 + digitValue c < Nat.pow 2 64 then
        let (n', count, rest) := takeDigits (n * 10 + digitValue c) cs
        (n', count + 1, rest)
      else (n, 0, c :: cs)

/-- Whether the characters begin with a digit. -/
def startsWithDigit (cs : List Char) : Bool :=
  cs.head?.any Char.isDigit

/-- A power of ten as a floating-point number. -/
def powerOfTen (n : Nat) : Float :=
  Float.ofScientific 1 false n

/-- The greatest power of ten that is a finite floating-point number. -/
def greatestPower : Nat := 308

/-- Divide by a power of ten, which takes several steps if the power itself is not a
floating-point number. -/
def divideByPower (x : Float) (n : Nat) : Float :=
  if n ≤ greatestPower then x / powerOfTen n
  else if x == 0 then x
  else divideByPower (x / powerOfTen greatestPower) (n - greatestPower)
termination_by n
decreasing_by
  simp only [greatestPower] at *
  omega

/-- Digits times a power of ten as a floating-point number, unless that is out of range. -/
def scaled? (negative : Bool) (digits : Nat) (exponent : Int) : Option Float :=
  let x := digits.toUInt64.toFloat
  let signed (y : Float) : Float := if negative then -y else y
  if exponent < 0 then some (signed (divideByPower x exponent.natAbs))
  else if greatestPower < exponent.natAbs then if x == 0 then some (signed x) else none
  else
    let y := x * powerOfTen exponent.natAbs
    if y.isInf then none else some (signed y)

/-- The greatest exponent that is computed with; a greater one is taken as unbounded. -/
def greatestExponent : Nat := Nat.pow 2 31 - 1

/-- Read the exponent behind its mark, and finish the number with it. -/
def exponent? (negative : Bool) (digits : Nat) (exponent : Int) (cs : List Char) :
    Option (Number × List Char) :=
  let (down, cs) :=
    match cs with
    | '+' :: rest => (false, rest)
    | '-' :: rest => (true, rest)
    | cs => (false, cs)
  if !startsWithDigit cs then none
  else
    let n := (cs.takeWhile Char.isDigit).foldl (fun n c => n * 10 + digitValue c) 0
    let x :=
      if greatestExponent < n then
        if digits ≠ 0 && !down then none else some (if negative then -0.0 else 0.0)
      else scaled? negative digits (if down then exponent - n else exponent + n)
    x.map fun x => (.decimal x, skipDigits cs)

/-- Read an exponent if there is one, and finish the number. -/
def afterDigits? (negative : Bool) (digits : Nat) (exponent : Int) (cs : List Char) :
    Option (Number × List Char) :=
  match cs with
  | 'e' :: rest => exponent? negative digits exponent rest
  | 'E' :: rest => exponent? negative digits exponent rest
  | cs => (scaled? negative digits exponent).map fun x => (.decimal x, cs)

/-- Read the digits behind the point, of which there must be one, and finish the number. -/
def fraction? (negative : Bool) (digits : Nat) (exponent : Int) (cs : List Char) :
    Option (Number × List Char) :=
  let (digits, count, rest) := takeDigits digits cs
  if count = 0 && !startsWithDigit rest then none
  else afterDigits? negative digits (exponent - count) (skipDigits rest)

/-- Finish a number whose digits in front of the point have been read. -/
def afterWhole? (negative : Bool) (digits : Nat) (cs : List Char) :
    Option (Number × List Char) :=
  if startsWithDigit cs then
    let exponent := countDigits cs
    match skipDigits cs with
    | '.' :: rest => fraction? negative digits exponent rest
    | rest => afterDigits? negative digits exponent rest
  else
    match cs with
    | '.' :: rest => fraction? negative digits 0 rest
    | 'e' :: rest => exponent? negative digits 0 rest
    | 'E' :: rest => exponent? negative digits 0 rest
    | cs =>
        if !negative then some (.integer digits, cs)
        else if digits = 0 || Nat.pow 2 63 < digits then
          some (.decimal (-digits.toUInt64.toFloat), cs)
        else some (.integer (-digits), cs)

/-- Read a number behind its sign. There is no zero in front of another digit. -/
def number? (negative : Bool) (cs : List Char) : Option (Number × List Char) :=
  match cs with
  | '0' :: rest => if startsWithDigit rest then none else afterWhole? negative 0 rest
  | c :: rest =>
      if c.isDigit then
        let (digits, _, rest) := takeDigits (digitValue c) rest
        afterWhole? negative digits rest
      else none
  | [] => none

end ExchangeMetrics.Json
