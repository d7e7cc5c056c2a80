import ProjectDesk.Text.Alphanumeric
import ProjectDesk.Text.Hex

/-!
What a log filter may ask of a field's value: a number, or a regular expression that it has to
match. Here it is only said which texts are one of these. Counted repetitions are not among the
expressions, since the brace that would close them closes the field.
-/

namespace ProjectDesk.Logging.ValuePattern

/-- A character by the hexadecimal digits of its code point. -/
def codedChar? (digits : List Char) : Option Char := do
  let n ← Text.hexNumber? digits
  if n.isValidChar then some (Char.ofNat n) else none

/-- Categories of characters that are named by one letter. -/
def categoryLetters : List Char := "CLMNPSZclmnpsz".toList

/-- What an escape stands for: one character, or a class of them. -/
inductive Escaped where
  | char (c : Char)
  | oneOf
  | anchor
  deriving DecidableEq, Repr

def readCoded (count : Nat) (cs : List Char) : Option (Escaped × List Char) :=
  if count ≤ cs.length then (codedChar? (cs.take count)).map fun c => (.char c, cs.drop count)
  else none

/-- From behind the backslash. Word boundaries are beyond what filters can match. -/
def readEscape : List Char → Option (Escaped × List Char)
  | [] => none
  | 'x' :: rest => readCoded 2 rest
  | 'u' :: rest => readCoded 4 rest
  | 'U' :: rest => readCoded 8 rest
  | c :: rest =>
      if c = 'p' || c = 'P' then
        if rest.head?.any categoryLetters.contains then some (.oneOf, rest.drop 1) else none
      else if "dDsSwW".toList.contains c then some (.oneOf, rest)
      else if c = 'A' || c = 'z' then some (.anchor, rest)
      else if c = 'a' then some (.char '\x07', rest)
      else if c = 'f' then some (.char '\x0c', rest)
      else if c = 'n' then some (.char '\n', rest)
      else if c = 'r' then some (.char '\r', rest)
      else if c = 't' then some (.char '\t', rest)
      else if c = 'v' then some (.char '\x0b', rest)
      else if c.isAlphanum || c = '<' || c = '>' || 0x80 ≤ c.toNat then none
      else some (.char c, rest)

def classNames : List String :=
  ["alnum", "alpha", "ascii", "blank", "cntrl", "digit", "graph", "lower", "print", "punct",
    "space", "upper", "word", "xdigit"]

/-- A named class, from behind its opening bracket. -/
def dropNamedClass? (cs : List Char) : Option (List Char) :=
  match cs with
  | ':' :: rest =>
      let rest := if rest.head? = some '^' then rest.drop 1 else rest
      let name := rest.takeWhile (· != ':')
      match rest.drop name.length with
      | ':' :: ']' :: rest => if classNames.contains (String.ofList name) then some rest else none
      | _ => none
  | _ => none

/-- Hyphens at the start of a class stand for themselves, and so does a bracket. -/
def dropClassStart (cs : List Char) : List Char :=
  let cs := if cs.head? = some '^' then cs.drop 1 else cs
  let inner := cs.dropWhile (· == '-')
  if inner.length = cs.length && cs.head? = some ']' then cs.drop 1 else inner

def readItem : List Char → Option (Escaped × List Char)
  | [] => none
  | '\\' :: rest => readEscape rest
  | c :: rest => some (.char c, rest)

/-- A hyphen before another one or before the end of the class makes no range. -/
def startsRange : List Char → Bool
  | '-' :: c :: _ => c != ']' && c != '-'
  | ['-'] => true
  | _ => false

def readClassItem (cs : List Char) : Option (List Char) := do
  let (first, rest) ← readItem cs
  if startsRange rest then
    let (last, rest) ← readItem (rest.drop 1)
    match first, last with
    | .char a, .char b => if a ≤ b then some rest else none
    | _, _ => none
  else if first = .anchor then none
  else some rest

/-- Passes over the rest of a class; `depth` of them are open inside of it. -/
def dropClass : Nat → Nat → List Char → Option (List Char)
  | 0, _, _ => none
  | fuel + 1, depth, cs =>
      match cs with
      | ']' :: rest => if depth = 0 then some rest else dropClass fuel (depth - 1) rest
      | '[' :: rest =>
          match dropNamedClass? rest with
          | some rest => dropClass fuel depth rest
          | none => dropClass fuel (depth + 1) (dropClassStart rest)
      | '&' :: '&' :: rest | '-' :: '-' :: rest | '~' :: '~' :: rest => dropClass fuel depth rest
      | _ => (readClassItem cs).bind (dropClass fuel depth)

def flagLetters : List Char := "imsUuRx".toList

/-- Flags, each at most once, with one hyphen at most and none at the end. -/
def areFlags (cs : List Char) : Bool :=
  let letters := cs.filter (· != '-')
  letters.all flagLetters.contains && letters.eraseDups.length == letters.length &&
    (cs.filter (· == '-')).length ≤ 1 && cs.getLast? != some '-'

def isNameStart (c : Char) : Bool :=
  c == '_' || (Text.isAlphanumeric c && !c.isDigit)

def isGroupName (cs : List Char) : Bool :=
  cs.head?.any isNameStart &&
    cs.all fun c => c == '_' || c == '.' || c == '[' || c == ']' || Text.isAlphanumeric c

/-- From behind the parenthesis: whether a group is opened, or only flags are set. -/
def readOpening (cs : List Char) : Option (Bool × List Char) :=
  let named (rest : List Char) : Option (Bool × List Char) :=
    let name := rest.takeWhile (· != '>')
    if isGroupName name && name.length < rest.length then some (true, rest.drop (name.length + 1))
    else none
  match cs with
  | '?' :: 'P' :: '<' :: rest => named rest
  | '?' :: '<' :: rest => named rest
  | '?' :: rest =>
      let flags := rest.takeWhile fun c => c != ')' && c != ':'
      if !areFlags flags then none
      else
        match rest.drop flags.length with
        | ':' :: rest => some (true, rest)
        | ')' :: rest => if flags.isEmpty then none else some (false, rest)
        | _ => none
  | _ => some (true, cs)

/-- `depth` groups are open; `operand` says whether there is something to repeat. -/
def isExpression : Nat → Nat → Bool → List Char → Bool
  | 0, _, _, _ => false
  | _ + 1, depth, _, [] => depth == 0
  | fuel + 1, depth, operand, c :: rest =>
      if c = '(' then
        match readOpening rest with
        | some (true, rest) => isExpression fuel (depth + 1) false rest
        | some (false, rest) => isExpression fuel depth false rest
        | none => false
      else if c = ')' then depth != 0 && isExpression fuel (depth - 1) true rest
      else if c = '|' then isExpression fuel depth false rest
      else if c = '*' || c = '+' || c = '?' then
        operand &&
          isExpression fuel depth true (if rest.head? = some '?' then rest.drop 1 else rest)
      else if c = '\x7b' then false
      else if c = '[' then
        match dropClass (rest.length + 1) 0 (dropClassStart rest) with
        | some rest => isExpression fuel depth true rest
        | none => false
      else if c = '\\' then
        match readEscape rest with
        | some (_, rest) => isExpression fuel depth true rest
        | none => false
      else isExpression fuel depth true rest

def dropDigits (cs : List Char) : List Char :=
  cs.dropWhile Char.isDigit

def isExponent : List Char → Bool
  | [] => true
  | c :: rest =>
      let digits := if rest.head?.any fun d => d == '+' || d == '-' then rest.drop 1 else rest
      c.toLower == 'e' && !digits.isEmpty && digits.all Char.isDigit

/-- A numeral with digits on one side of its point at least, infinity, or not a number. -/
def isUnsigned (cs : List Char) : Bool :=
  let whole := cs.takeWhile Char.isDigit
  let rest := dropDigits cs
  if rest.head? = some '.' then
    !(whole.isEmpty && !(rest.drop 1).head?.any Char.isDigit) && isExponent (dropDigits (rest.drop 1))
  else (!whole.isEmpty && isExponent rest) ||
    ["inf", "infinity", "nan"].contains (String.ofList (cs.map Char.toLower))

/-- Of the numbers only those with a plus sign are no expressions as well. -/
def isValue (cs : List Char) : Bool :=
  isExpression (cs.length + 1) 0 false cs || (cs.head? == some '+' && isUnsigned (cs.drop 1))

end ProjectDesk.Logging.ValuePattern
