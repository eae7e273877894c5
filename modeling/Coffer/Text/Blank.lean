/-!
White space between words and lines, and the cutting of a text at either.
-/

namespace Coffer.Text

/-- White space: the ASCII blanks and line ends, the four information separators, and the blank and
line-separating characters of other scripts. -/
def isBlank (c : Char) : Bool :=
  let n := c.toNat
  n == 0x20 || (0x09 ≤ n && n ≤ 0x0D) || (0x1C ≤ n && n ≤ 0x1F) || n == 0x85 || n == 0xA0 ||
    n == 0x1680 || (0x2000 ≤ n && n ≤ 0x200A) || n == 0x2028 || n == 0x2029 || n == 0x202F ||
    n == 0x205F || n == 0x3000

def trimLeft (cs : List Char) : List Char :=
  cs.dropWhile isBlank

def trimRight (cs : List Char) : List Char :=
  (cs.reverse.dropWhile isBlank).reverse

/-- A text without the white space at either end. -/
def trim (cs : List Char) : List Char :=
  trimRight (trimLeft cs)

end Coffer.Text
