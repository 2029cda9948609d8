/-!
# White space

The white space of Unicode: 25 characters, of which the ASCII ones are six.

## Main definitions

* `Text.isBlank`: the class of white space characters
* `Text.dropBlanks`: a text without the white space it starts with
* `Text.isAllBlank`: whether a text holds white space only
-/

namespace GradleScript.Text

/-- Whether a character is white space. -/
def isBlank (c : Char) : Bool :=
  let n := c.toNat
  (0x9 ≤ n && n ≤ 0xd) || n == 0x20 || n == 0x85 || n == 0xa0 || n == 0x1680 ||
    (0x2000 ≤ n && n ≤ 0x200a) || n == 0x2028 || n == 0x2029 || n == 0x202f || n == 0x205f ||
    n == 0x3000

/-- A text without the white space it starts with. -/
def dropBlanks (cs : List Char) : List Char :=
  cs.dropWhile isBlank

/-- Whether a text holds nothing but white space. -/
def isAllBlank (text : String) : Bool :=
  text.toList.all isBlank

@[simp] theorem dropBlanks_nil : dropBlanks [] = [] := rfl

theorem dropBlanks_eq_nil_iff {cs : List Char} :
    dropBlanks cs = [] ↔ ∀ c ∈ cs, isBlank c = true := by
  induction cs with
  | nil => simp
  | cons c cs ih => by_cases h : isBlank c = true <;> simp_all [dropBlanks]

theorem isAllBlank_iff {text : String} :
    isAllBlank text = true ↔ dropBlanks text.toList = [] := by
  simp [isAllBlank, dropBlanks_eq_nil_iff]

end GradleScript.Text
