import ProjectDesk.Json.Document
import ProjectDesk.Text.Hex

/-!
Reading a JSON text into a document. Each reader takes the rest of the text and gives back what
it read with the rest after it.
-/

namespace ProjectDesk.Json

def isSpace (c : Char) : Bool :=
  c == ' ' || c == '\t' || c == '\n' || c == '\r'

def skipSpace (cs : List Char) : List Char :=
  cs.dropWhile isSpace

def unitItem (unit : Nat) : StringItem :=
  if isLeadingHalf unit || isTrailingHalf unit then .half unit else .char (Char.ofNat unit)

/-- The character that a one-letter escape stands for. -/
def escaped? (c : Char) : Option Char :=
  if c = '"' || c = '\\' || c = '/' then some c
  else if c = 'b' then some '\x08'
  else if c = 'f' then some '\x0c'
  else if c = 'n' then some '\n'
  else if c = 'r' then some '\r'
  else if c = 't' then some '\t'
  else none

/-- Reads on from behind the opening quote to behind the closing one. -/
def readString : List Char → Option (List StringItem × List Char)
  | [] => none
  | '"' :: rest => some ([], rest)
  | '\\' :: 'u' :: a :: b :: c :: d :: rest => do
      let unit ← Text.hexNumber? [a, b, c, d]
      let (items, rest) ← readString rest
      some (unitItem unit :: items, rest)
  | '\\' :: e :: rest => do
      let c ← escaped? e
      let (items, rest) ← readString rest
      some (.char c :: items, rest)
  | c :: rest =>
      if c.toNat < 0x20 || c = '\\' then none
      else do
        let (items, rest) ← readString rest
        some (.char c :: items, rest)

/-- One digit at least. -/
def readDigits (cs : List Char) : Option (List Char × List Char) :=
  match cs.takeWhile Char.isDigit with
  | [] => none
  | digits => some (digits, cs.dropWhile Char.isDigit)

/-- Zero alone, or digits of which the first is not zero. -/
def readWhole : List Char → Option (List Char × List Char)
  | '0' :: rest => some (['0'], rest)
  | cs => readDigits cs

def readFraction : List Char → Option (List Char × List Char)
  | '.' :: rest => readDigits rest
  | cs => some ([], cs)

def readSignedExponent : List Char → Option (Int × List Char)
  | '+' :: rest => (readDigits rest).map fun (ds, rest) => (Nat.ofDigitChars 10 ds 0, rest)
  | '-' :: rest => (readDigits rest).map fun (ds, rest) => (-(Nat.ofDigitChars 10 ds 0 : Int), rest)
  | cs => (readDigits cs).map fun (ds, rest) => (Nat.ofDigitChars 10 ds 0, rest)

def readExponent : List Char → Option (Option Int × List Char)
  | 'e' :: rest | 'E' :: rest => (readSignedExponent rest).map fun (e, rest) => (some e, rest)
  | cs => some (none, cs)

def readUnsigned (negative : Bool) (cs : List Char) : Option (Numeral × List Char) := do
  let (whole, rest) ← readWhole cs
  let (fraction, rest) ← readFraction rest
  let (exponent, rest) ← readExponent rest
  some (⟨negative, whole, fraction, exponent⟩, rest)

def readNumeral : List Char → Option (Numeral × List Char)
  | '-' :: rest => readUnsigned true rest
  | cs => readUnsigned false cs

/-- A member's name with the colon behind it. -/
def readName (cs : List Char) : Option (List StringItem × List Char) :=
  match cs with
  | '"' :: rest => do
      let (name, rest) ← readString rest
      match skipSpace rest with
      | ':' :: rest => some (name, rest)
      | _ => none
  | _ => none

mutual

/-- The fuel bounds the brackets and items still to come. -/
def readValue : Nat → List Char → Option (Document × List Char)
  | 0, _ => none
  | fuel + 1, cs =>
      match skipSpace cs with
      | 'n' :: 'u' :: 'l' :: 'l' :: rest => some (.null, rest)
      | 't' :: 'r' :: 'u' :: 'e' :: rest => some (.bool true, rest)
      | 'f' :: 'a' :: 'l' :: 's' :: 'e' :: rest => some (.bool false, rest)
      | '"' :: rest => (readString rest).map fun (items, rest) => (.string items, rest)
      | '[' :: rest =>
          match skipSpace rest with
          | ']' :: rest => some (.array [], rest)
          | rest => (readItems fuel rest).map fun (items, rest) => (.array items, rest)
      | '\x7b' :: rest =>
          match skipSpace rest with
          | '\x7d' :: rest => some (.object [], rest)
          | rest => (readMembers fuel rest).map fun (members, rest) => (.object members, rest)
      | cs => (readNumeral cs).map fun (n, rest) => (.number n, rest)

def readItems : Nat → List Char → Option (List Document × List Char)
  | 0, _ => none
  | fuel + 1, cs => do
      let (item, rest) ← readValue fuel cs
      match skipSpace rest with
      | ',' :: rest =>
          let (items, rest) ← readItems fuel rest
          some (item :: items, rest)
      | ']' :: rest => some ([item], rest)
      | _ => none

def readMembers : Nat → List Char → Option (List (List StringItem × Document) × List Char)
  | 0, _ => none
  | fuel + 1, cs => do
      let (name, rest) ← readName (skipSpace cs)
      let (item, rest) ← readValue fuel rest
      match skipSpace rest with
      | ',' :: rest =>
          let (members, rest) ← readMembers fuel rest
          some ((name, item) :: members, rest)
      | '\x7d' :: rest => some ([(name, item)], rest)
      | _ => none

end

/-- Every bracket and every item takes a character of its own, so the text's length is enough
fuel. -/
def readChars (cs : List Char) : Option Document :=
  match readValue (2 * cs.length + 2) cs with
  | some (document, rest) => if (skipSpace rest).isEmpty then some document else none
  | none => none

def read (text : String) : Option Document :=
  readChars text.toList

end ProjectDesk.Json
