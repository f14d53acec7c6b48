import Spreadsheet.Text.CodeRange

/-!
# Blanks

Blank characters are those with the property White_Space of Unicode. `trim` takes them off both ends
of a text and keeps them inside it.
-/

namespace Spreadsheet.Text

/-- The code points with the property White_Space. -/
def blankRanges : List CodeRange :=
  [(0x09, 0x0D), (0x20, 0x20), (0x85, 0x85), (0xA0, 0xA0), (0x1680, 0x1680), (0x2000, 0x200A),
   (0x2028, 0x2029), (0x202F, 0x202F), (0x205F, 0x205F), (0x3000, 0x3000)]

/-- Blank characters separate tokens and do not count at the ends of an entry. -/
def isBlank (char : Char) : Bool := CodeRange.enclose blankRanges char.toNat

/-- The characters without the blanks they begin with. -/
def trimStart (chars : List Char) : List Char := chars.dropWhile isBlank

/-- The characters without the blanks they end with. -/
def trimEnd (chars : List Char) : List Char := (chars.reverse.dropWhile isBlank).reverse

/-- The characters without blanks at either end. -/
def trimChars (chars : List Char) : List Char := trimEnd (trimStart chars)

/-- The text without blanks at either end. -/
def trim (text : String) : String := String.ofList (trimChars text.toList)

end Spreadsheet.Text
