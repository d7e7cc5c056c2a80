/-!
Spans of time in nanoseconds, and their text: the largest unit up to seconds of which there is
at least one, with the exact decimal fraction.
-/

namespace ProjectDesk.Time

structure Span where
  nanos : Nat
  deriving DecidableEq, Repr

namespace Span

def ofMillis (n : Nat) : Span := ⟨n * 1000000⟩

def ofSeconds (n : Nat) : Span := ⟨n * 1000000000⟩

def millis (d : Span) : Nat := d.nanos / 1000000

/-- When the span has passed by a clock of milliseconds. -/
def ticks (d : Span) : Nat := (d.nanos + 999999) / 1000000

/-- The digits of a fraction of `width` places, without the zeros at its end. -/
def fractionDigits (width n : Nat) : List Char :=
  let digits := Nat.toDigits 10 n
  let places := List.replicate (width - digits.length) '0' ++ digits
  (places.reverse.dropWhile (· == '0')).reverse

def inUnit (n unit width : Nat) (name : String) : String :=
  let fraction := fractionDigits width (n % unit)
  String.ofList (Nat.toDigits 10 (n / unit) ++ (if fraction.isEmpty then [] else '.' :: fraction)) ++
    name

def text (d : Span) : String :=
  if 1000000000 ≤ d.nanos then inUnit d.nanos 1000000000 9 "s"
  else if 1000000 ≤ d.nanos then inUnit d.nanos 1000000 6 "ms"
  else if 1000 ≤ d.nanos then inUnit d.nanos 1000 3 "µs"
  else inUnit d.nanos 1 0 "ns"

end Span
end ProjectDesk.Time
