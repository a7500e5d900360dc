import UpdatePipeline.Text.CodePoints
set_option autoImplicit false

/-!
# Text: blanks

Blank are the characters with the Unicode property `White_Space`.
-/

namespace UpdatePipeline.Text

/-- The code points with the property `White_Space`. -/
def whiteSpace : CodePoints :=
  [(0x09, 0x0D), (0x20, 0x20), (0x85, 0x85), (0xA0, 0xA0), (0x1680, 0x1680), (0x2000, 0x200A),
    (0x2028, 0x2029), (0x202F, 0x202F), (0x205F, 0x205F), (0x3000, 0x3000)]

/-- Whether a character is blank. -/
def isBlank (c : Char) : Bool := whiteSpace.has c

/-- The first run of characters that are not blank. -/
def firstWord? (cs : List Char) : Option (List Char) :=
  match (cs.dropWhile isBlank).takeWhile (!isBlank ·) with
  | [] => none
  | word => some word

/-- The characters without the blanks at either end. -/
def trim (cs : List Char) : List Char :=
  ((cs.dropWhile isBlank).reverse.dropWhile isBlank).reverse

end UpdatePipeline.Text
