import ProjectDesk.Time.Printer
import ProjectDesk.Time.Reader

/-!
Times as a store keeps them, which is as text. What the store writes itself is an instant in UTC,
to the millisecond, and comes back as the instant it was; what was put there from outside may be
spelled in other ways, or be no time at all.
-/

namespace ProjectDesk.Time

inductive Stamp where
  | instant (t : Instant)
  | spelled (text : String)
  deriving DecidableEq, Repr

/-- Date and time of day with three decimals and no zone. -/
def Instant.storedText (t : Instant) : String :=
  String.ofList <|
    yearText t.date.year ++ '-' :: padded 2 t.date.month ++ '-' :: padded 2 t.date.day ++
      ' ' :: padded 2 t.hour ++ ':' :: padded 2 t.minute ++ ':' :: padded 2 t.second ++
      '.' :: padded 3 (t.nanos / 1000000)

def readLiteral (mark : Char) : List Char → Option (List Char)
  | c :: rest => if c = mark then some rest else none
  | [] => none

def readStoredDate (cs : List Char) : Option (Date × List Char) := do
  let (year, cs) ← readYear cs
  let cs ← readLiteral '-' cs
  let (month, cs) ← readNumber 2 cs
  let cs ← readLiteral '-' cs
  let (day, cs) ← readNumber 2 cs
  some (⟨year, month, day⟩, cs)

/-- Seconds may be left out, and their decimals with them. -/
def readSeconds : List Char → Option (Nat × Nat × List Char)
  | ':' :: cs => do
      let (second, cs) ← readNumber 2 cs
      let (nanos, cs) ← readNanos cs
      some (second, nanos, cs)
  | cs => some (0, 0, cs)

/-- A sign, hours and minutes. Where the hours are too many for a day the offset counts for
nothing. -/
def readStoredOffset : List Char → Option Int
  | sign :: cs =>
      if sign = '+' || sign = '-' || sign = '\u2212' then
        match readPair cs with
        | some (_, rest) =>
            match readPair (rest.dropWhile fun c => c == ':' || Text.isBlank c) with
            | some (minutes, []) =>
                if 60 ≤ minutes then none
                else some (((readOffset (sign :: cs)).map (·.1)).getD 0)
            | _ => none
        | none => none
      else none
  | [] => none

/-- Without a zone the time is in UTC. -/
def readZone : List Char → Option Int
  | [] | ['Z'] => some 0
  | cs => readStoredOffset (Text.dropBlank cs)

def readStored (cs : List Char) : Option Instant := do
  let (date, cs) ← readStoredDate cs
  let cs := if cs.head? = some 'T' then cs.drop 1 else Text.dropBlank cs
  let (hour, cs) ← readNumber 2 cs
  let cs ← readLiteral ':' cs
  let (minute, cs) ← readNumber 2 cs
  let (second, nanos, cs) ← readSeconds cs
  let offset ← readZone cs
  let wall : Instant := ⟨date, hour, minute, second, nanos⟩
  let utc := atOffset date hour minute second nanos offset
  if wall.isValid && utc.isValid then some utc else none

/-- All numbers have their full width and there is a zone; letters may then be small. -/
def isStrict (cs : List Char) : Bool :=
  let digitsAt (places : List Nat) : Bool := places.all fun n => cs[n]?.any Char.isDigit
  let marks := cs[4]? == some '-' && cs[7]? == some '-' && cs[13]? == some ':' && cs[16]? == some ':'
  let zone := ((cs.drop 19).dropWhile fun c => c == '.' || c.isDigit)
  digitsAt [0, 1, 2, 3, 5, 6, 8, 9, 11, 12, 14, 15, 17, 18] && marks &&
    (cs[10]?.any fun c => c == 'T' || c == 't' || c == ' ') &&
    match zone with
    | [_, _, _, ':', _, _] => true
    | _ => ["z", "utc"].contains (String.ofList (zone.map Char.toLower))

namespace Stamp

def text : Stamp → String
  | .instant t => t.storedText
  | .spelled text => text

def instant? : Stamp → Option Instant
  | .instant t => some t
  | .spelled text =>
      let cs := text.toList
      (if isStrict cs then Instant.readChars cs else none).or (readStored cs)

end Stamp
end ProjectDesk.Time
