/-!
# Excerpts

A message that points into a text shows how the rest of the text begins: at most a fixed number of
bytes of its UTF-8 form, and no further than the end of the line. A character that the limit cuts in
two leaves one replacement character for each of its bytes that would still have fitted.
-/

namespace Concatenative.Text

/-- The replacement character `U+FFFD`. -/
def replacement : Char := Char.ofNat 0xFFFD

/-- The beginning of a text within a number of bytes and within its first line. -/
def excerpt : (bytes : Nat) → List Char → List Char
  | _, [] => []
  | bytes, c :: cs =>
    if c = '\n' then []
    else if c.utf8Size ≤ bytes then c :: excerpt (bytes - c.utf8Size) cs
    else List.replicate bytes replacement

end Concatenative.Text
