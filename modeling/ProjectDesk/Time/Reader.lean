import ProjectDesk.Text.Blank
import ProjectDesk.Time.Instant

/-!
Reading instants: date, `T` or a space, time of day, offset from UTC. Blanks may stand before
every number and before the marks between them; fields may have fewer digits than usual.
-/

namespace ProjectDesk.Time

/-- A number of one to `width` digits, after any blanks. -/
def readNumber (width : Nat) (cs : List Char) : Option (Nat × List Char) :=
  let cs := Text.dropBlank cs
  match (cs.take width).takeWhile Char.isDigit with
  | [] => none
  | digits => some (Nat.ofDigitChars 10 digits 0, cs.drop digits.length)

/-- With a sign a year may have any number of digits, without one it has four at most. -/
def readYear (cs : List Char) : Option (Int × List Char) :=
  let unblanked := Text.dropBlank cs
  match unblanked with
  | '-' :: digits => signed digits fun n => -(n : Int)
  | '+' :: digits => signed digits fun n => n
  | _ => (readNumber 4 unblanked).map fun (n, rest) => (n, rest)
where
  signed (cs : List Char) (value : Nat → Int) : Option (Int × List Char) :=
    match cs.takeWhile Char.isDigit with
    | [] => none
    | digits => some (value (Nat.ofDigitChars 10 digits 0), cs.drop digits.length)

def readMark (mark : Char) (cs : List Char) : Option (List Char) :=
  match Text.dropBlank cs with
  | c :: rest => if c = mark then some rest else none
  | [] => none

def readDate (cs : List Char) : Option (Date × List Char) := do
  let (year, cs) ← readYear cs
  let cs ← readMark '-' cs
  let (month, cs) ← readNumber 2 cs
  let cs ← readMark '-' cs
  let (day, cs) ← readNumber 2 cs
  some (⟨year, month, day⟩, cs)

def readSeparator : List Char → Option (List Char)
  | 'T' :: rest | 't' :: rest | ' ' :: rest => some rest
  | _ => none

/-- Nine digits count, further ones are passed over. -/
def readNanos : List Char → Option (Nat × List Char)
  | '.' :: rest =>
      match rest.takeWhile Char.isDigit with
      | [] => none
      | digits =>
          let kept := digits.take 9
          some (Nat.ofDigitChars 10 kept 0 * Nat.pow 10 (9 - kept.length), rest.drop digits.length)
  | cs => some (0, cs)

def readPair : List Char → Option (Nat × List Char)
  | a :: b :: rest =>
      if a.isDigit && b.isDigit then some (Nat.ofDigitChars 10 [a, b] 0, rest) else none
  | _ => none

/-- Hours and minutes, in minutes. -/
def readClock (cs : List Char) : Option (Nat × List Char) := do
  let (hours, cs) ← readPair cs
  let cs := cs.dropWhile fun c => c == ':' || Text.isBlank c
  let (minutes, cs) ← readPair cs
  if hours < 24 && minutes < 60 then some (hours * 60 + minutes, cs) else none

/-- Minutes east of Greenwich. -/
def readOffset : List Char → Option (Int × List Char)
  | 'Z' :: rest | 'z' :: rest => some (0, rest)
  | u :: t :: c :: rest =>
      if u.toUpper = 'U' && t.toUpper = 'T' && c.toUpper = 'C' then some (0, rest)
      else if u = '+' then (readClock (t :: c :: rest)).map fun (m, rest) => (m, rest)
      else if u = '-' || u = '\u2212' then
        (readClock (t :: c :: rest)).map fun (m, rest) => (-(m : Int), rest)
      else none
  | _ => none

/-- The same instant in UTC; an offset moves the date by one day at most. -/
def atOffset (date : Date) (hour minute second nanos : Nat) (offset : Int) : Instant :=
  let minutes : Int := hour * 60 + minute - offset
  let date :=
    if minutes < 0 then date.previous else if 1440 ≤ minutes then date.next else date
  let ofDay := (minutes % 1440).toNat
  ⟨date, ofDay / 60, ofDay % 60, second, nanos⟩

def Instant.readChars (cs : List Char) : Option Instant := do
  let (date, cs) ← readDate cs
  let cs ← readSeparator cs
  let (hour, cs) ← readNumber 2 cs
  let cs ← readMark ':' cs
  let (minute, cs) ← readNumber 2 cs
  let cs ← readMark ':' cs
  let (second, cs) ← readNumber 2 cs
  let (nanos, cs) ← readNanos cs
  let (offset, cs) ← readOffset (Text.dropBlank cs)
  let wall : Instant := ⟨date, hour, minute, second, nanos⟩
  let utc := atOffset date hour minute second nanos offset
  if (Text.dropBlank cs).isEmpty && wall.isValid && utc.isValid then some utc else none

def Instant.read (text : String) : Option Instant :=
  Instant.readChars text.toList

end ProjectDesk.Time
