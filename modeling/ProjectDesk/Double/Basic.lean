/-!
Finite binary64 numbers in exact arithmetic. Every operation computes the true rational result
and rounds it once, to the nearest number and to the even significand on a tie.
-/

namespace ProjectDesk

/-- The number `± significand * 2 ^ exponent`. -/
structure Double where
  negative : Bool
  significand : Nat
  exponent : Int
  deriving DecidableEq, Repr

namespace Double

/-- The quotient rounded to a whole number, to the even one on a tie. -/
def halfEven (num den : Nat) : Nat :=
  let quotient := num / den
  let rest := num % den
  if 2 * rest < den then quotient
  else if den < 2 * rest then quotient + 1
  else quotient + quotient % 2

/-- The ratio `num / den` divided by `2 ^ e`. -/
def scaleDown (num den : Nat) (e : Int) : Nat × Nat :=
  if 0 ≤ e then (num, den * Nat.pow 2 e.toNat) else (num * Nat.pow 2 (-e).toNat, den)

/-- The exponent at which the ratio has 53 bits, or the least exponent there is. -/
def exponentFor (num den : Nat) : Int :=
  let guess : Int := (Nat.log2 num : Int) - Nat.log2 den - 52
  let (n, d) := scaleDown num den guess
  max (-1074) (if n < d * Nat.pow 2 52 then guess - 1 else guess)

/-- Nothing where the ratio is too large for a finite number. -/
def ofRatio (negative : Bool) (num den : Nat) : Option Double :=
  if num = 0 then some ⟨negative, 0, -1074⟩
  else
    let e := exponentFor num den
    let (n, d) := scaleDown num den e
    let m := halfEven n d
    let (m, e) := if m = Nat.pow 2 53 then (Nat.pow 2 52, e + 1) else (m, e)
    if e ≤ 971 then some ⟨negative, m, e⟩ else none

def ofNat (n : Nat) : Option Double :=
  ofRatio false n 1

def isZero (x : Double) : Bool :=
  x.significand == 0

def neg (x : Double) : Double :=
  { x with negative := !x.negative }

/-- The magnitude as a ratio. -/
def toRatio (x : Double) : Nat × Nat :=
  if 0 ≤ x.exponent then (x.significand * Nat.pow 2 x.exponent.toNat, 1)
  else (x.significand, Nat.pow 2 (-x.exponent).toNat)

def mul (x y : Double) : Option Double :=
  let (a, b) := x.toRatio
  let (c, d) := y.toRatio
  ofRatio (x.negative != y.negative) (a * c) (b * d)

/-- The quotient by a number other than zero. -/
def div (x y : Double) : Option Double :=
  let (a, b) := x.toRatio
  let (c, d) := y.toRatio
  ofRatio (x.negative != y.negative) (a * d) (b * c)

end Double
end ProjectDesk
