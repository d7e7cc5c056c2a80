import ProjectDesk.Json.Document
import ProjectDesk.Json.Value

/-!
The number that a numeral stands for. Without a fraction or an exponent it is whole if it fits
into 64 bits, signed or unsigned; all else is a double. The digits of a double are gathered into
64 bits, what does not fit only counts as magnitude, and the result is scaled by one power of ten
(two, where the exponent is below -308), rounding each time.
-/

namespace ProjectDesk.Json

def gatherLimit : Nat := 18446744073709551615

def withDigit (n : Nat) (c : Char) : Nat :=
  n * 10 + (c.toNat - '0'.toNat)

/-- Gathers leading digits while they fit; the rest is left over. -/
def gather : Nat → List Char → Nat × List Char
  | n, [] => (n, [])
  | n, c :: cs => if withDigit n c ≤ gatherLimit then gather (withDigit n c) cs else (n, c :: cs)

def powerOfTen (n : Nat) : Option Double :=
  Double.ofNat (Nat.pow 10 n)

def zeroDouble : Double := ⟨false, 0, -1074⟩

def divideByPower (x : Double) (n : Nat) : Option Double := do
  x.div (← powerOfTen n)

/-- `significand * 10 ^ exponent`, rounded at each step; nothing where it is too large. -/
def scaledDouble (significand : Nat) (exponent : Int) : Option Double := do
  let x ← Double.ofNat significand
  if x.isZero then some x
  else if 308 < exponent then none
  else if 0 ≤ exponent then x.mul (← powerOfTen exponent.toNat)
  else if -308 ≤ exponent then divideByPower x (-exponent).toNat
  else if -616 ≤ exponent then divideByPower (← divideByPower x 308) (-exponent - 308).toNat
  else some zeroDouble

namespace Numeral

def double? (n : Numeral) : Option Double :=
  let (significand, left) := gather 0 n.whole
  let (significand, ignored) := gather significand n.fraction
  let exponent : Int := left.length - (n.fraction.length - ignored.length : Nat) + n.exponent.getD 0
  (scaledDouble significand exponent).map fun x => if n.negative then x.neg else x

/-- A minus sign before zero makes a double, because no whole number keeps it. -/
def number? (n : Numeral) : Option Number :=
  let value := Nat.ofDigitChars 10 n.whole 0
  if n.fraction.isEmpty && n.exponent.isNone then
    if n.negative then
      if 0 < value && value ≤ 9223372036854775808 then some (.whole (-(value : Int)))
      else n.double?.map .double
    else if value ≤ gatherLimit then some (.whole value)
    else n.double?.map .double
  else n.double?.map .double

end Numeral
end ProjectDesk.Json
