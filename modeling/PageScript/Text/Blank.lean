/-
Blank characters and trimming.

Operands that hold a number may carry blanks around it. Which characters are blank is the Unicode
property of white space, so no-break and ideographic spaces count too.
-/

namespace PageScript.Text

def isBlank (c : Char) : Bool :=
  let n := c.toNat
  (0x09 ≤ n && n ≤ 0x0D) || n = 0x20 || n = 0x85 || n = 0xA0 || n = 0x1680 ||
    (0x2000 ≤ n && n ≤ 0x200A) || n = 0x2028 || n = 0x2029 || n = 0x202F || n = 0x205F ||
    n = 0x3000

def trimChars (cs : List Char) : List Char :=
  ((cs.dropWhile isBlank).reverse.dropWhile isBlank).reverse

def trim (s : String) : String :=
  String.ofList (trimChars s.toList)

/-- Equality of two texts where the case of ASCII letters does not count. -/
def eqIgnoringCase (a b : String) : Bool :=
  a.toList.map Char.toLower = b.toList.map Char.toLower

def lowered (s : String) : String :=
  String.ofList (s.toList.map Char.toLower)

end PageScript.Text
