/-!
Punycode: a label written in ASCII letters, digits and hyphens. Its ASCII characters come first;
then, in order of their code points, the places where the others go in, each as the distance from
the last, in digits of base 36 whose weights follow the distances seen so far.
-/

namespace ProjectDesk.DomainName.Punycode

def base : Nat := 36

def leastThreshold : Nat := 1

def greatestThreshold : Nat := 26

def firstBias : Nat := 72

def skew : Nat := 38

def firstDamping : Nat := 700

/-- The first code point that is not written as itself. -/
def firstCode : Nat := 0x80

def isBasic (c : Char) : Bool :=
  c.toNat < firstCode

/-- Letters count up to 25 and digits from there. -/
def digitChar (d : Nat) : Char :=
  if d < 26 then Char.ofNat ('a'.toNat + d) else Char.ofNat ('0'.toNat + (d - 26))

def digitOf? (c : Char) : Option Nat :=
  if c.isLower then some (c.toNat - 'a'.toNat)
  else if c.isUpper then some (c.toNat - 'A'.toNat)
  else if c.isDigit then some (c.toNat - '0'.toNat + 26)
  else none

/-- A digit below the threshold of its place ends the number. -/
def threshold (place bias : Nat) : Nat :=
  max leastThreshold (min greatestThreshold (place - bias))

theorem threshold_pos (place bias : Nat) : 1 ≤ threshold place bias := by
  simp only [threshold, leastThreshold]
  omega

/-- Cuts a distance down until one digit is enough for it, and adds a base for each cut. -/
def biasFor (delta : Nat) : Nat :=
  if (base - leastThreshold) * greatestThreshold / 2 < delta then
    biasFor (delta / (base - leastThreshold)) + base
  else (base - leastThreshold + 1) * delta / (delta + skew)
termination_by delta
decreasing_by exact Nat.div_lt_self (by omega) (by decide)

/-- The bias after a distance, of which the first in a label counts for less. -/
def adapt (delta count : Nat) (isFirst : Bool) : Nat :=
  let delta := if isFirst then delta / firstDamping else delta / 2
  biasFor (delta + delta / count)

def writeNumber (bias place n : Nat) : List Char :=
  let t := threshold place bias
  if n < t then [digitChar n]
  else digitChar (t + (n - t) % (base - t)) :: writeNumber bias (place + base) ((n - t) / (base - t))
termination_by n
decreasing_by
  have := threshold_pos place bias
  have := Nat.div_le_self (n - threshold place bias) (base - threshold place bias)
  omega

structure Writer where
  written : List Char
  delta : Nat
  bias : Nat
  /-- How many characters of the label are placed. -/
  placed : Nat
  deriving DecidableEq, Repr

/-- Goes past a character of the label on the way to the places of `code`. -/
def Writer.pass (basic code : Nat) (w : Writer) (c : Char) : Writer :=
  if c.toNat < code then { w with delta := w.delta + 1 }
  else if c.toNat = code then
    { written := w.written ++ writeNumber w.bias base w.delta
      delta := 0
      bias := adapt w.delta (w.placed + 1) (w.placed == basic)
      placed := w.placed + 1 }
  else w

def writeCodes (label : List Char) (basic : Nat) : List Nat → Nat → Writer → Writer
  | [], _, w => w
  | code :: codes, next, w =>
      let w := { w with delta := w.delta + (code - next) * (w.placed + 1) }
      let w := label.foldl (Writer.pass basic code) w
      writeCodes label basic codes (code + 1) { w with delta := w.delta + 1 }

def codesOf (label : List Char) : List Nat :=
  (((label.filter (!isBasic ·)).map Char.toNat).mergeSort (· ≤ ·)).eraseReps

def encode (label : List Char) : List Char :=
  let basic := label.filter isBasic
  let places := writeCodes label basic.length (codesOf label) firstCode
    { written := [], delta := 0, bias := firstBias, placed := basic.length }
  basic ++ (if basic.isEmpty then [] else ['-']) ++ places.written

/-- Adds the number ahead, each digit times the weight of its place, to what there is. -/
def readNumber (bias : Nat) : List Char → Nat → Nat → Nat → Option (Nat × List Char)
  | [], _, _, _ => none
  | c :: cs, place, weight, sum => do
      let d ← digitOf? c
      let t := threshold place bias
      if d < t then some (sum + d * weight, cs)
      else readNumber bias cs (place + base) (weight * (base - t)) (sum + d * weight)

theorem length_readNumber {bias : Nat} {cs : List Char} {place weight sum n : Nat}
    {rest : List Char} (h : readNumber bias cs place weight sum = some (n, rest)) :
    rest.length < cs.length := by
  induction cs generalizing place weight sum with
  | nil => simp [readNumber] at h
  | cons c cs ih =>
      cases hd : digitOf? c with
      | none => simp [readNumber, hd] at h
      | some d =>
          simp only [readNumber, hd, bind, Option.bind] at h
          split at h
          · simp only [Option.some.injEq, Prod.mk.injEq] at h
            simp [h.2]
          · have := ih h
            simp only [List.length_cons]
            omega

def isScalar (n : Nat) : Bool :=
  n < 0xD800 || (0xDFFF < n && n < 0x110000)

/-- Puts characters in from the code and the place on that the last one had. -/
def readPlaces (bias code place : Nat) (label : List Char) (cs : List Char) :
    Option (List Char) :=
  if cs.isEmpty then some label
  else
    match h : readNumber bias cs base 1 place with
    | none => none
    | some (n, rest) =>
        have : rest.length < cs.length := length_readNumber h
        let count := label.length + 1
        let code := code + n / count
        if isScalar code then
          readPlaces (adapt (n - place) count (place == 0)) code (n % count + 1)
            (label.insertIdx (n % count) (Char.ofNat code)) rest
        else none
termination_by cs.length

/-- The last hyphen ends the ASCII characters, if there are any. -/
def decode (cs : List Char) : Option (List Char) :=
  let ending := (cs.reverse.takeWhile (· != '-')).reverse
  let basic := (cs.take (cs.length - ending.length)).dropLast
  if !basic.all isBasic then none
  else readPlaces firstBias firstCode 0 basic (if basic.isEmpty then cs else ending)

end ProjectDesk.DomainName.Punycode
