/-!
# Blank text

A character is blank if it has the Unicode property White_Space.
-/

namespace Plugboard.Text

/-- The characters with the property White_Space. -/
def isBlank (c : Char) : Bool :=
  let code := c.toNat
  (0x09 ≤ code && code ≤ 0x0d) || code == 0x20 || code == 0x85 || code == 0xa0 ||
    code == 0x1680 || (0x2000 ≤ code && code ≤ 0x200a) || code == 0x2028 || code == 0x2029 ||
    code == 0x202f || code == 0x205f || code == 0x3000

/-- Nothing is left of the text once blanks are taken off its ends. -/
def allBlank (text : String) : Bool := text.toList.all isBlank

/-- The text without blanks at either end. -/
def trimmed (text : String) : String :=
  String.ofList (((text.toList.dropWhile isBlank).reverse.dropWhile isBlank).reverse)

end Plugboard.Text
