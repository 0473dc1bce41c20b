import Concatenative.Text.Block

/-!
# Blanks

Two classes of blank characters that overlap without either containing the other. A *blank*
separates the tokens of program text. A *space* is removed from the ends of an interactive line and
from inside the text of a number. The Mongolian vowel separator `U+180E` is a blank and no space;
the four information separators `U+001C` to `U+001F` are spaces and no blanks.
-/

namespace Concatenative.Text

/-- The characters that may stand between tokens, in ascending order. -/
def blankBlocks : List Block :=
  [⟨0x9, 0xD⟩, ⟨0x20, 0x20⟩, ⟨0x85, 0x85⟩, ⟨0xA0, 0xA0⟩, ⟨0x1680, 0x1680⟩, ⟨0x180E, 0x180E⟩,
   ⟨0x2000, 0x200A⟩, ⟨0x2028, 0x2029⟩, ⟨0x202F, 0x202F⟩, ⟨0x205F, 0x205F⟩, ⟨0x3000, 0x3000⟩]

/-- The character may stand between tokens of program text. -/
def isBlank (c : Char) : Bool := inBlocks blankBlocks c.toNat

/-- The characters that are trimmed off a line and ignored inside a number, in ascending order. -/
def spaceBlocks : List Block :=
  [⟨0x9, 0xD⟩, ⟨0x1C, 0x20⟩, ⟨0x85, 0x85⟩, ⟨0xA0, 0xA0⟩, ⟨0x1680, 0x1680⟩, ⟨0x2000, 0x200A⟩,
   ⟨0x2028, 0x2029⟩, ⟨0x202F, 0x202F⟩, ⟨0x205F, 0x205F⟩, ⟨0x3000, 0x3000⟩]

/-- The character is trimmed off a line and ignored inside a number. -/
def isSpace (c : Char) : Bool := inBlocks spaceBlocks c.toNat

/-- Drops the longest tail all of whose characters satisfy `p`. -/
def dropTailWhile (p : Char → Bool) (cs : List Char) : List Char :=
  (cs.reverse.dropWhile p).reverse

/-- Removes the spaces at both ends. -/
def trim (cs : List Char) : List Char := dropTailWhile isSpace (cs.dropWhile isSpace)

/-- Removes all spaces, wherever they stand. -/
def withoutSpaces (cs : List Char) : List Char := cs.filter fun c => !isSpace c

end Concatenative.Text
