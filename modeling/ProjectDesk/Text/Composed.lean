import ProjectDesk.Text.CombiningClass
import ProjectDesk.Text.Composite

/-!
Composed text: marks stand in order of their classes, and each character has taken up all the
marks that it can.
-/

namespace ProjectDesk.Text

/-- No listed composite has more marks in it than these. -/
def mostMarks : Nat := 4

/-- Puts a character in front of the text, but behind the marks there of lower classes. -/
def settle (c : Char) : List Char → List Char
  | [] => [c]
  | d :: ds =>
      if 0 < combiningClass d && combiningClass d < combiningClass c then d :: settle c ds
      else c :: d :: ds

def decomposed (cs : List Char) : List Char :=
  (cs.flatMap (splitComposite mostMarks)).foldr settle []

/-- With the last of the marks that were not taken up first. -/
def isBlocked (marks : List Char) (c : Char) : Bool :=
  marks.head?.any fun mark => combiningClass c ≤ combiningClass mark

def takeUp (base : Char) (marks : List Char) : List Char → List Char
  | [] => base :: marks.reverse
  | c :: cs =>
      match if isBlocked marks c then none else composite? base c with
      | some taken => takeUp taken marks cs
      | none =>
          if combiningClass c = 0 then base :: marks.reverse ++ takeUp c [] cs
          else takeUp base (c :: marks) cs

def takeUpAll : List Char → List Char
  | [] => []
  | c :: cs => if combiningClass c = 0 then takeUp c [] cs else c :: takeUpAll cs

def composed (cs : List Char) : List Char :=
  takeUpAll (decomposed cs)

end ProjectDesk.Text
