import ProjectDesk.Double.Basic

/-!
The shortest decimal that reads back as a given number, and of those the nearest one. A decimal
reads back when it lies between the midpoints to the two neighbouring numbers, the midpoints
included where the significand is even.
-/

namespace ProjectDesk.Double

/-- The decimal `digits * 10 ^ exponent`. -/
structure Decimal where
  digits : Nat
  exponent : Int
  deriving DecidableEq, Repr

/-- The decimals of one exponent measured against a number: decimal `d` is at `d * step`, the
number at `value`, and the midpoints to its neighbours at `low` and `high`. -/
structure Grid where
  step : Nat
  value : Nat
  low : Nat
  high : Nat
  closed : Bool

def gridAt (x : Double) (exponent : Int) : Grid :=
  let quarter := x.exponent - 2
  let unit := Nat.pow 2 quarter.toNat * Nat.pow 10 (-exponent).toNat
  let below := if x.significand = Nat.pow 2 52 ∧ -1074 < x.exponent then 1 else 2
  { step := Nat.pow 10 exponent.toNat * Nat.pow 2 (-quarter).toNat
    value := 4 * x.significand * unit
    low := (4 * x.significand - below) * unit
    high := (4 * x.significand + 2) * unit
    closed := x.significand % 2 == 0 }

def Grid.holds (g : Grid) (d : Nat) : Bool :=
  if g.closed then g.low ≤ d * g.step && d * g.step ≤ g.high
  else g.low < d * g.step && d * g.step < g.high

/-- Of the two decimals around the number, the one that reads back; the nearer if both do. -/
def Grid.pick? (g : Grid) : Option Nat :=
  let d := g.value / g.step
  match g.holds d, g.holds (d + 1) with
  | false, false => none
  | true, false => some d
  | false, true => some (d + 1)
  | true, true =>
      let short := g.value - d * g.step
      let past := (d + 1) * g.step - g.value
      if short < past then some d
      else if past < short then some (d + 1)
      else some (d + d % 2)

/-- How many times a ratio below one takes a factor of ten before it reaches one. -/
def zerosBefore : Nat → Nat → Nat → Nat
  | 0, _, _ => 0
  | fuel + 1, num, den => if den ≤ 10 * num then 0 else 1 + zerosBefore fuel (10 * num) den

/-- The power of ten just above the number. -/
def magnitude (x : Double) : Int :=
  let (num, den) := x.toRatio
  if den ≤ num then (Nat.toDigits 10 (num / den)).length
  else -(zerosBefore 400 num den : Int)

def stripZeros : Nat → Decimal → Decimal
  | 0, d => d
  | fuel + 1, d =>
      if d.digits % 10 = 0 then stripZeros fuel ⟨d.digits / 10, d.exponent + 1⟩ else d

/-- Tries `width` digits, then one more, up to seventeen. -/
def shortestFrom (x : Double) (top : Int) : Nat → Nat → Decimal
  | 0, width => ⟨(gridAt x (top - width)).value / (gridAt x (top - width)).step, top - width⟩
  | fuel + 1, width =>
      match (gridAt x (top - width)).pick? with
      | some d => stripZeros 17 ⟨d, top - width⟩
      | none => shortestFrom x top fuel (width + 1)

/-- The shortest decimal of a number other than zero. -/
def shortest (x : Double) : Decimal :=
  shortestFrom x x.magnitude 17 1

end ProjectDesk.Double
