/-!
Blank characters: Unicode White_Space. Trimming removes them at both ends; zero-width
characters such as U+200B are not among them.
-/

namespace ProjectDesk.Text

def isBlank (c : Char) : Bool :=
  (9 ≤ c.toNat && c.toNat ≤ 13) || c.toNat == 0x20 || c.toNat == 0x85 || c.toNat == 0xA0 ||
    c.toNat == 0x1680 || (0x2000 ≤ c.toNat && c.toNat ≤ 0x200A) || c.toNat == 0x2028 ||
    c.toNat == 0x2029 || c.toNat == 0x202F || c.toNat == 0x205F || c.toNat == 0x3000

def dropBlank (cs : List Char) : List Char :=
  cs.dropWhile isBlank

def trimChars (cs : List Char) : List Char :=
  (dropBlank (dropBlank cs).reverse).reverse

def trim (s : String) : String :=
  String.ofList (trimChars s.toList)

/-- Nothing is left of the text after trimming. -/
def isBlankText (s : String) : Bool :=
  s.toList.all isBlank

theorem dropBlank_eq_nil_iff {cs : List Char} : dropBlank cs = [] ↔ cs.all isBlank = true := by
  induction cs with
  | nil => simp [dropBlank]
  | cons c cs ih =>
      by_cases h : isBlank c <;> simp_all [dropBlank]

end ProjectDesk.Text
