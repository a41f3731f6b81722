/-!
# Blanks

The white space of Unicode, and texts without white space at their ends.
-/

namespace DocumentSearch

namespace Text

/-- Whether a character is white space. -/
def isBlank (c : Char) : Bool :=
  let code := c.toNat
  (decide (0x9 ≤ code ∧ code ≤ 0xD)) || code = 0x20 || code = 0x85 || code = 0xA0 ||
    code = 0x1680 || decide (0x2000 ≤ code ∧ code ≤ 0x200A) || code = 0x2028 || code = 0x2029 ||
    code = 0x202F || code = 0x205F || code = 0x3000

/-- The characters without those at the end that satisfy a test. -/
def dropEndWhile (test : Char → Bool) (text : List Char) : List Char :=
  (text.reverse.dropWhile test).reverse

/-- The characters without white space at either end. -/
def trimChars (text : List Char) : List Char :=
  dropEndWhile isBlank (text.dropWhile isBlank)

/-- The text without white space at either end. -/
def trim (text : String) : String := String.ofList (trimChars text.toList)

end Text

end DocumentSearch
