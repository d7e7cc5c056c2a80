import ProjectDesk.Double.Shortest

/-!
How doubles are written: plainly from 0.00001 up to but not including 10^16, with at least one
digit after the point; otherwise with one digit before the point and a signed exponent.
-/

namespace ProjectDesk.Double

def exponentText (e : Int) : List Char :=
  (if e < 0 then '-' else '+') :: Nat.toDigits 10 e.natAbs

def decimalText (d : Decimal) : List Char :=
  let digits := Nat.toDigits 10 d.digits
  let point : Int := digits.length + d.exponent
  if 0 ≤ d.exponent && point ≤ 16 then
    digits ++ List.replicate d.exponent.toNat '0' ++ ['.', '0']
  else if 0 < point && point ≤ 16 then
    digits.take point.toNat ++ '.' :: digits.drop point.toNat
  else if -5 < point && point ≤ 0 then
    ['0', '.'] ++ List.replicate (-point).toNat '0' ++ digits
  else
    match digits with
    | [] => []
    | [digit] => digit :: 'e' :: exponentText (point - 1)
    | digit :: more => digit :: '.' :: more ++ 'e' :: exponentText (point - 1)

def text (x : Double) : List Char :=
  let magnitude := if x.isZero then ['0', '.', '0'] else decimalText x.shortest
  if x.negative then '-' :: magnitude else magnitude

end ProjectDesk.Double
