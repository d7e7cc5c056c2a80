/-!
A JSON text taken apart but not yet understood: every value of the grammar is a document, at any
depth, also one that holds half a surrogate pair or a number too large to keep.
-/

namespace ProjectDesk.Json

/-- One item of a string: a character, or half a surrogate pair that was written as an escape. -/
inductive StringItem where
  | char (c : Char)
  | half (unit : Nat)
  deriving DecidableEq, Repr

/-- A number as written. The fraction is empty where there is no point. -/
structure Numeral where
  negative : Bool
  whole : List Char
  fraction : List Char
  exponent : Option Int
  deriving DecidableEq, Repr

inductive Document where
  | null
  | bool (b : Bool)
  | number (n : Numeral)
  | string (items : List StringItem)
  | array (items : List Document)
  | object (members : List (List StringItem × Document))
  deriving Repr

/-- Half the pair that starts at U+D800 and up, or the half that follows it. -/
def isLeadingHalf (unit : Nat) : Bool :=
  0xD800 ≤ unit && unit ≤ 0xDBFF

def isTrailingHalf (unit : Nat) : Bool :=
  0xDC00 ≤ unit && unit ≤ 0xDFFF

def joinHalves (leading trailing : Nat) : Char :=
  Char.ofNat (0x10000 + (leading - 0xD800) * 0x400 + (trailing - 0xDC00))

/-- The text of a string whose surrogate halves all stand in pairs. -/
def textChars? : List StringItem → Option (List Char)
  | [] => some []
  | .char c :: rest => (textChars? rest).map (c :: ·)
  | .half a :: .half b :: rest =>
      if isLeadingHalf a && isTrailingHalf b then
        (textChars? rest).map (joinHalves a b :: ·)
      else none
  | .half _ :: _ => none

def text? (items : List StringItem) : Option String :=
  (textChars? items).map String.ofList

end ProjectDesk.Json
