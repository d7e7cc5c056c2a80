/-!
Pattern matching on text. In a pattern `%` stands for any run of characters, `_` for any one
character, and a backslash takes the next character as it is; letters A to Z match in either
case. A NUL ends a text or a pattern, and U+FFFE and U+FFFF are both read as U+FFFD. `escapeLike`
makes a fragment stand for itself alone.
-/

namespace ProjectDesk.Text

inductive PatternItem where
  | anyRun
  | anyOne
  | exactly (c : Char)
  deriving DecidableEq, Repr

/-- A backslash with nothing after it is no pattern. -/
def readPattern : List Char → Option (List PatternItem)
  | [] => some []
  | '%' :: rest => (readPattern rest).map (.anyRun :: ·)
  | '_' :: rest => (readPattern rest).map (.anyOne :: ·)
  | ['\\'] => none
  | '\\' :: c :: rest => (readPattern rest).map (.exactly c :: ·)
  | c :: rest => (readPattern rest).map (.exactly c :: ·)

/-- A character as it is read, the replacement character for what is none. -/
def asRead (c : Char) : Char :=
  if c = '\ufffe' || c = '\uffff' then '\ufffd' else c

def sameLetter (a b : Char) : Bool :=
  (asRead a).toLower == (asRead b).toLower

/-- Some tail of the text, the whole and the empty one included, passes the test. -/
def someTail (test : List Char → Bool) : List Char → Bool
  | [] => test []
  | c :: cs => test (c :: cs) || someTail test cs

def matchItems : List PatternItem → List Char → Bool
  | [], cs => cs.isEmpty
  | .anyRun :: items, cs => someTail (matchItems items) cs
  | .anyOne :: items, cs =>
      match cs with
      | [] => false
      | _ :: rest => matchItems items rest
  | .exactly a :: items, cs =>
      match cs with
      | [] => false
      | b :: rest => sameLetter a b && matchItems items rest

def upToNul (cs : List Char) : List Char :=
  cs.takeWhile (· != '\x00')

def like (text pattern : String) : Bool :=
  match readPattern (upToNul pattern.toList) with
  | none => false
  | some items => matchItems items (upToNul text.toList)

def escapeLike (cs : List Char) : List Char :=
  cs.flatMap fun c => if c = '%' || c = '_' || c = '\\' then ['\\', c] else [c]

/-- The pattern of the texts that hold `fragment`. -/
def holding (fragment : String) : String :=
  String.ofList ('%' :: escapeLike fragment.toList ++ ['%'])

end ProjectDesk.Text
