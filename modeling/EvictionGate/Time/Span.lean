/-!
# Spans of time

A span is a number of nanoseconds. It is shown in the largest unit of which it
has a whole part, with as many decimals as it needs.
-/

namespace EvictionGate.Time

/-- A span of time in nanoseconds. -/
structure Span where
  nanoseconds : Nat
  deriving DecidableEq, Repr

namespace Span

/-- A span of whole seconds. -/
def ofSeconds (n : Nat) : Span := ⟨n * 1000000000⟩

/-- A span of whole milliseconds. -/
def ofMilliseconds (n : Nat) : Span := ⟨n * 1000000⟩

/-- A span of whole microseconds. -/
def ofMicroseconds (n : Nat) : Span := ⟨n * 1000⟩

/-- The decimals of a fraction with `places` digits, without the zeros at the end. -/
def decimals (places fraction : Nat) : List Char :=
  let digits := Nat.toDigits 10 fraction
  let padded := List.replicate (places - digits.length) '0' ++ digits
  (padded.reverse.dropWhile (· = '0')).reverse

/-- A count of a unit of `10 ^ places` nanoseconds. -/
def inUnit (n places : Nat) (unit : String) : String :=
  let unitSize := Nat.pow 10 places
  let shown := decimals places (n % unitSize)
  let point := if shown.isEmpty then "" else "."
  toString (n / unitSize) ++ point ++ String.ofList shown ++ unit

/-- The span in seconds, milliseconds, microseconds or nanoseconds. -/
def text (s : Span) : String :=
  if 1000000000 ≤ s.nanoseconds then inUnit s.nanoseconds 9 "s"
  else if 1000000 ≤ s.nanoseconds then inUnit s.nanoseconds 6 "ms"
  else if 1000 ≤ s.nanoseconds then inUnit s.nanoseconds 3 "µs"
  else toString s.nanoseconds ++ "ns"

end Span

end EvictionGate.Time
