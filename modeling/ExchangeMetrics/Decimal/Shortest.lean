/-!
# Shortest decimals

A binary floating-point number stands for a whole interval of reals, those that round to it.
Among the decimals in that interval there are some with the fewest digits; this module finds
the one of them that is nearest to the number.

A finite number is a natural number times a power of two, so the interval's ends are such
numbers too, and every comparison is one of natural numbers. For each count of digits from one
to seventeen the two decimals around the number are tried; seventeen digits are always enough.

## Main definitions

* `Binary.ofBits?`: the number that 64 bits stand for.
* `Binary.shortest`: its shortest decimal.
-/

namespace ExchangeMetrics.Decimal

/-- A finite binary number other than zero: `mantissa * 2 ^ exponent`, negative or not. -/
structure Binary where
  /-- Whether the number is less than zero. -/
  negative : Bool
  /-- The mantissa. -/
  mantissa : Nat
  /-- The exponent of two. -/
  exponent : Int
  /-- Whether the next smaller number is only half as far away as the next greater one. -/
  closerBelow : Bool

/-- A decimal: `digits * 10 ^ exponent`. -/
structure Digits where
  /-- The digits, as a number. -/
  digits : Nat
  /-- The exponent of ten. -/
  exponent : Int
deriving DecidableEq

namespace Binary

/-- The number that the 64 bits of a floating-point number stand for, if it is finite and not
zero. -/
def ofBits? (bits : UInt64) : Option Binary :=
  let negative := bits.toNat / Nat.pow 2 63 = 1
  let field : Nat := bits.toNat / Nat.pow 2 52 % Nat.pow 2 11
  let fraction := bits.toNat % Nat.pow 2 52
  if field = 2047 then none
  else if field = 0 then
    if fraction = 0 then none else some ⟨negative, fraction, -1074, false⟩
  else some ⟨negative, Nat.pow 2 52 + fraction, (field : Int) - 1075, fraction = 0 && field ≠ 1⟩

/-- A quarter of the distance between neighbours is the unit in which the interval is measured:
the numerator and denominator of `n` such units. -/
def quarters (b : Binary) (n : Nat) : Nat × Nat :=
  let e := b.exponent - 2
  if 0 ≤ e then (n * Nat.pow 2 e.toNat, 1) else (n, Nat.pow 2 (-e).toNat)

/-- Whether a decimal rounds to the number: it lies between the midpoints to the number's
neighbours, or on one of them if the mantissa is even. -/
def admits (b : Binary) (d : Digits) : Bool :=
  let low := b.quarters (4 * b.mantissa - if b.closerBelow then 1 else 2)
  let high := b.quarters (4 * b.mantissa + 2)
  let num := d.digits * Nat.pow 10 d.exponent.toNat
  let den := Nat.pow 10 (-d.exponent).toNat
  if b.mantissa % 2 = 0 then
    low.1 * den ≤ num * low.2 && num * high.2 ≤ high.1 * den
  else
    low.1 * den < num * low.2 && num * high.2 < high.1 * den

/-- The exponent of ten of the number's leading digit. -/
def leadingExponent (b : Binary) : Int :=
  let (num, den) := b.quarters (4 * b.mantissa)
  ((Nat.toDigits 10 (num * Nat.pow 10 342 / den)).length : Int) - 343

/-- The decimal with so many digits that comes right below the number, and how far the number
is above it, as a numerator and denominator in units of its last digit. -/
def below (b : Binary) (count : Nat) : Digits × Nat × Nat :=
  let (num, den) := b.quarters (4 * b.mantissa)
  let k := b.leadingExponent + 1 - count
  let num' := num * Nat.pow 10 (-k).toNat
  let den' := den * Nat.pow 10 k.toNat
  (⟨num' / den', k⟩, num' % den', den')

/-- The decimal with so many digits that is nearest to the number among the two around it, if
one of them rounds to the number; of two equally near the even one. -/
def nearest? (b : Binary) (count : Nat) : Option Digits :=
  let (down, rest, unit) := b.below count
  let up : Digits := ⟨down.digits + 1, down.exponent⟩
  let preferUp := unit < 2 * rest || (2 * rest = unit && down.digits % 2 = 1)
  let (first, second) := if preferUp then (up, down) else (down, up)
  if b.admits first then some first
  else if b.admits second then some second
  else none

/-- The digits without zeros at their end; `fuel` bounds the number of zeros. -/
def withoutZeros : Nat → Digits → Digits
  | 0, d => d
  | fuel + 1, d =>
      if d.digits % 10 = 0 && d.digits ≠ 0 then withoutZeros fuel ⟨d.digits / 10, d.exponent + 1⟩
      else d

/-- The shortest decimal that rounds to the number. -/
def shortest (b : Binary) : Digits :=
  let found := (List.range 17).findSome? fun n => b.nearest? (n + 1)
  withoutZeros 17 (found.getD (b.below 17).1)

end Binary

end ExchangeMetrics.Decimal
