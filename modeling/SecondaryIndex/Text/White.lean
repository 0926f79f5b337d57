/-
**White space: the characters that Unicode gives this property.**
-/

namespace SecondaryIndex.Text

/-- The white space of Unicode, as inclusive ranges of code points. -/
def whiteRanges : List (Nat × Nat) :=
  [(0x09, 0x0D), (0x20, 0x20), (0x85, 0x85), (0xA0, 0xA0), (0x1680, 0x1680), (0x2000, 0x200A),
    (0x2028, 0x2029), (0x202F, 0x202F), (0x205F, 0x205F), (0x3000, 0x3000)]

/-- The character is white space. -/
def isWhite (char : Char) : Bool :=
  whiteRanges.any fun (first, last) => first ≤ char.toNat && char.toNat ≤ last

/-- A text without white space on either side. -/
def trimmed (text : List Char) : List Char :=
  ((text.dropWhile isWhite).reverse.dropWhile isWhite).reverse

end SecondaryIndex.Text
