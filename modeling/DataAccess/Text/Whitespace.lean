/-
This file holds the white space of Unicode and the trimming of texts.
-/

namespace DataAccess.Text

/-- The characters with the Unicode property `White_Space`. -/
def isWhitespace (character : Char) : Bool :=
  let point := character.toNat
  (0x09 ≤ point && point ≤ 0x0d) || point == 0x20 || point == 0x85 || point == 0xa0 ||
    point == 0x1680 || (0x2000 ≤ point && point ≤ 0x200a) || point == 0x2028 || point == 0x2029 ||
    point == 0x202f || point == 0x205f || point == 0x3000

/-- A text is blank when nothing is left of it after trimming. -/
def isBlank (text : String) : Bool :=
  text.toList.all isWhitespace

end DataAccess.Text
