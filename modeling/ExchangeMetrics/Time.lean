/-!
# Durations and instants

A `Duration` is a whole number of nanoseconds, less than `2 ^ 64` seconds. Sums that would
exceed the longest duration stop at it. An `Instant` is a reading of a clock, counted in
nanoseconds from a fixed origin; the time between two instants is zero if they are in the wrong
order.

Durations are written in two ways: as seconds with all nine places, and in the largest unit in
which they are at least one, without superfluous digits.

## Main results

* `Duration.ofNanos_nanos`: how an arbitrary number of nanoseconds becomes a duration.
* `Duration.add_nanos`: a sum is exact up to the longest duration.
-/

namespace ExchangeMetrics

/-- The nanoseconds in a second. -/
def nanosPerSecond : Nat := 1000000000

/-- The number of nanoseconds that no duration reaches. -/
def durationLimit : Nat := Nat.pow 2 64 * nanosPerSecond

/-- A length of time in whole nanoseconds. -/
structure Duration where
  /-- The nanoseconds. -/
  nanos : Nat
  /-- The seconds fit in 64 bits. -/
  inRange : nanos < durationLimit
deriving DecidableEq

namespace Duration

/-- The duration of no time. -/
def zero : Duration := ⟨0, by decide⟩

/-- The duration of so many nanoseconds, or the longest one if there are too many. -/
def ofNanos (n : Nat) : Duration :=
  ⟨min n (durationLimit - 1), by
    have : 0 < durationLimit := by decide
    omega⟩

/-- A number of nanoseconds is kept up to the longest duration. -/
theorem ofNanos_nanos (n : Nat) : (ofNanos n).nanos = min n (durationLimit - 1) := rfl

/-- The sum of two durations, or the longest duration if the sum exceeds it. -/
def add (a b : Duration) : Duration :=
  ofNanos (a.nanos + b.nanos)

/-- Two durations are added up to the longest duration. -/
theorem add_nanos (a b : Duration) :
    (a.add b).nanos = min (a.nanos + b.nanos) (durationLimit - 1) := rfl

/-- The longer of two durations. -/
def max (a b : Duration) : Duration :=
  if a.nanos ≤ b.nanos then b else a

/-- The whole seconds of a duration. -/
def seconds (d : Duration) : Nat :=
  d.nanos / nanosPerSecond

/-- The nanoseconds of a duration beyond its whole seconds. -/
def subsecond (d : Duration) : Nat :=
  d.nanos % nanosPerSecond

/-- The duration as a number of seconds in floating point: the whole seconds plus the fraction,
each rounded by itself. -/
def toSeconds (d : Duration) : Float :=
  d.seconds.toUInt64.toFloat + d.subsecond.toUInt64.toFloat / 1e9

/-! ### Durations as texts -/

/-- A number in decimal with zeros in front, up to a given number of digits. -/
def padded (width n : Nat) : List Char :=
  let digits := Nat.toDigits 10 n
  List.replicate (width - digits.length) '0' ++ digits

/-- The duration in seconds with all nine places behind the point. -/
def text (d : Duration) : String :=
  String.ofList (Nat.toDigits 10 d.seconds ++ '.' :: padded 9 d.subsecond)

/-- A count of nanoseconds in a unit of `10 ^ places` nanoseconds: the whole units, and behind
a point the rest without the zeros at its end; no point if there is no rest. -/
def inUnit (places n : Nat) : List Char :=
  let fraction := ((padded places (n % Nat.pow 10 places)).reverse.dropWhile (· = '0')).reverse
  let whole := Nat.toDigits 10 (n / Nat.pow 10 places)
  if fraction.isEmpty then whole else whole ++ '.' :: fraction

/-- The duration in the largest of the units `s`, `ms`, `µs` and `ns` that it fills at least
once; no time at all is counted in `ns`. -/
def shortText (d : Duration) : String :=
  if nanosPerSecond ≤ d.nanos then String.ofList (inUnit 9 d.nanos) ++ "s"
  else if 1000000 ≤ d.nanos then String.ofList (inUnit 6 d.nanos) ++ "ms"
  else if 1000 ≤ d.nanos then String.ofList (inUnit 3 d.nanos) ++ "µs"
  else String.ofList (inUnit 0 d.nanos) ++ "ns"

/-- The value of a digit. -/
def digitValue? (c : Char) : Option Nat :=
  if c.isDigit then some (c.toNat - '0'.toNat) else none

/-- The number written in decimal by these digits; at least one is needed. -/
def decimal? (cs : List Char) : Option Nat :=
  if cs.isEmpty then none
  else cs.foldlM (fun n c => (digitValue? c).map (n * 10 + ·)) 0

/-- Read a duration written in seconds, with at most nine places behind the point or no point at
all. -/
def ofText? (s : String) : Option Duration := do
  let cs := s.toList
  let whole ← decimal? (cs.takeWhile (· ≠ '.'))
  let fraction ←
    match cs.dropWhile (· ≠ '.') with
    | [] => some 0
    | _ :: places =>
        if places.length ≤ 9 then decimal? (places ++ List.replicate (9 - places.length) '0')
        else none
  let n := whole * nanosPerSecond + fraction
  if n < durationLimit then some (ofNanos n) else none

end Duration

/-! ### Instants -/

/-- A reading of a clock, in nanoseconds from a fixed origin. -/
structure Instant where
  /-- The nanoseconds since the origin. -/
  nanos : Nat
deriving DecidableEq

/-- The time from an earlier instant to a later one, and no time if the later one is not
later. -/
def Instant.since (later earlier : Instant) : Duration :=
  .ofNanos (later.nanos - earlier.nanos)

end ExchangeMetrics
