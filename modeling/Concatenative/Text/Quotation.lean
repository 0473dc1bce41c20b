import Concatenative.Text.Printable

/-!
# Quoted text

Text inside a message stands between quotation marks. The mark is the apostrophe, unless the text
holds an apostrophe and no double quote. Inside, the mark in use and the backslash are escaped by a
backslash, tabulator, line feed and carriage return have escapes of their own, and every other
character that is not printable is written by its code point in two, four or eight hexadecimal
digits.
-/

namespace Concatenative.Text

/-- The mark that encloses the text when it is quoted. -/
def quotationMark (cs : List Char) : Char :=
  if cs.contains '\'' && !cs.contains '"' then '"' else '\''

/-- The last `width` hexadecimal digits of a number, in lower case. -/
def hexDigits : (width : Nat) → Nat → List Char
  | 0, _ => []
  | w + 1, n => hexDigits w (n / 16) ++ [Nat.digitChar (n % 16)]

/-- A character by its code point. -/
def escapeByCode (n : Nat) : List Char :=
  if n ≤ 0xFF then '\\' :: 'x' :: hexDigits 2 n
  else if n ≤ 0xFFFF then '\\' :: 'u' :: hexDigits 4 n
  else '\\' :: 'U' :: hexDigits 8 n

/-- A character as it stands between quotation marks `mark`. -/
def escape (mark c : Char) : List Char :=
  if c = mark ∨ c = '\\' then ['\\', c]
  else if c = '\t' then ['\\', 't']
  else if c = '\n' then ['\\', 'n']
  else if c = '\r' then ['\\', 'r']
  else if isPrintable c then [c]
  else escapeByCode c.toNat

/-- The text between quotation marks, with its escapes. -/
def quoteChars (cs : List Char) : List Char :=
  let mark := quotationMark cs
  mark :: (cs.flatMap (escape mark) ++ [mark])

/-- The text between quotation marks, with its escapes. -/
def quote (s : String) : String := String.ofList (quoteChars s.toList)

end Concatenative.Text
