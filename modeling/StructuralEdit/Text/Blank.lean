import StructuralEdit.Text.Basic
/-!
Blanks: the characters with the Unicode property White_Space.
-/

/-- Controls that move the cursor, spaces of any width, and line and paragraph separators. -/
def Char.isBlank (c : Char) : Bool :=
  let n := c.toNat
  (9 ≤ n && n ≤ 13) || n == 0x20 || n == 0x85 || n == 0xA0 || n == 0x1680 ||
    (0x2000 ≤ n && n ≤ 0x200A) || n == 0x2028 || n == 0x2029 || n == 0x202F || n == 0x205F ||
    n == 0x3000

namespace StructuralEdit.Text

def trimStart (t : Text) : Text := t.dropWhile Char.isBlank

def trimEnd (t : Text) : Text := (t.reverse.dropWhile Char.isBlank).reverse

def trim (t : Text) : Text := trimEnd (trimStart t)

end StructuralEdit.Text
