import ProjectDesk.Time.Instant

/-!
Writing instants in UTC with as many decimals as are needed: none, three, six or nine. Years of
more than four digits carry a sign, and so do those before the year zero.
-/

namespace ProjectDesk.Time

def padded (width n : Nat) : List Char :=
  let digits := Nat.toDigits 10 n
  List.replicate (width - digits.length) '0' ++ digits

def yearText (year : Int) : List Char :=
  if year < 0 then '-' :: padded 4 year.natAbs
  else if 9999 < year then '+' :: padded 4 year.natAbs
  else padded 4 year.natAbs

def nanosText (nanos : Nat) : List Char :=
  if nanos = 0 then []
  else if nanos % 1000000 = 0 then '.' :: padded 3 (nanos / 1000000)
  else if nanos % 1000 = 0 then '.' :: padded 6 (nanos / 1000)
  else '.' :: padded 9 nanos

namespace Instant

def chars (t : Instant) : List Char :=
  yearText t.date.year ++ '-' :: padded 2 t.date.month ++ '-' :: padded 2 t.date.day ++
    'T' :: padded 2 t.hour ++ ':' :: padded 2 t.minute ++ ':' :: padded 2 t.second ++
    nanosText t.nanos ++ ['Z']

def text (t : Instant) : String :=
  String.ofList t.chars

end Instant
end ProjectDesk.Time
