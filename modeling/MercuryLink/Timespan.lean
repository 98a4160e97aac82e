/-!
# Spans of time and moments

A span is a number of nanoseconds. It is written in the largest of the units s, ms, µs
and ns that leaves a whole part, with as many decimal places as it needs. A moment is a
reading of a clock whose range is that of a signed 64-bit count of seconds; adding a span
may leave that range.
-/

namespace MercuryLink

/-- A span of time in nanoseconds. -/
structure Timespan where
  /-- The length in nanoseconds. -/
  nanos : Nat
  deriving DecidableEq, Repr

namespace Timespan

/-- Nanoseconds in a second. -/
def second : Nat := 1000000000

/-- A span of whole seconds. -/
def ofSeconds (n : Nat) : Timespan := ⟨n * second⟩

/-- A span of whole milliseconds. -/
def ofMillis (n : Nat) : Timespan := ⟨n * 1000000⟩

/-- The whole seconds of a span. -/
def seconds (t : Timespan) : Nat := t.nanos / second

/-- The nanoseconds beyond the whole seconds. -/
def subsecond (t : Timespan) : Nat := t.nanos % second

/-- The decimal places of a part of a unit, without trailing zeros. -/
def places (part width : Nat) : List Char :=
  let digits := Nat.toDigits 10 part
  let padded := List.replicate (width - digits.length) '0' ++ digits
  (padded.reverse.dropWhile (· = '0')).reverse

/-- A number of nanoseconds in a unit of `size` nanoseconds, which has `width` zeros. -/
def inUnit (nanos size width : Nat) (unit : String) : String :=
  let whole := Nat.repr (nanos / size)
  let part := nanos % size
  if part = 0 then whole ++ unit else whole ++ "." ++ String.ofList (places part width) ++ unit

/-- A span in its largest unit. -/
def text (t : Timespan) : String :=
  if t.nanos ≥ 1000000000 then inUnit t.nanos 1000000000 9 "s"
  else if t.nanos ≥ 1000000 then inUnit t.nanos 1000000 6 "ms"
  else if t.nanos ≥ 1000 then inUnit t.nanos 1000 3 "µs"
  else inUnit t.nanos 1 0 "ns"

end Timespan

/-- A reading of the clock, in nanoseconds from its zero. -/
structure Moment where
  /-- Nanoseconds from the zero of the clock; negative before it. -/
  nanos : Int
  deriving DecidableEq, Repr

namespace Moment

/-- The first reading beyond the range of the clock: it counts seconds in 64 bits with a sign. -/
def limit : Int := 9223372036854775808 * 1000000000

/-- The moment a span later, if the clock can show it. -/
def plus? (m : Moment) (t : Timespan) : Option Moment :=
  let nanos := m.nanos + t.nanos
  if nanos < limit then some ⟨nanos⟩ else none

/-- The moment `n` milliseconds after the zero of the clock. -/
def ofMillis (n : Nat) : Moment := ⟨n * 1000000⟩

end Moment

end MercuryLink
