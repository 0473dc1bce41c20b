import Concatenative.Text.Blank
import Concatenative.Text.Digit
import Concatenative.Text.Quotation

/-!
# Decimal numbers

Integers of any size are written in decimal with a leading `-` when negative. Reading is more
generous: a sign `+` or `-`, decimal digits of any script taken by value, and single underscores
between digits. Both directions stop at numbers of more than `digitLimit` digits: such a number can
be computed with, but neither read nor written.
-/

namespace Concatenative.Decimal

open Concatenative.Text

/-- The greatest number of digits that is read or written. -/
def digitLimit : Nat := 4300

/-- Why a text could not be read as a number. -/
inductive ReadError where
  /-- The text is not an optional sign and digits with single underscores between them. -/
  | malformed (text : List Char)
  /-- The text has this many digits (leading zeros included), which is more than the limit. -/
  | tooLong (digits : Nat)
deriving DecidableEq

/-- The decimal digits of an integer, with its sign. -/
def spell : Int → List Char
  | .ofNat n => Nat.toDigits 10 n
  | .negSucc n => '-' :: Nat.toDigits 10 (n + 1)

/-- The integer has few enough digits to be written. -/
def Writable (n : Int) : Prop := n.natAbs < Nat.pow 10 digitLimit

instance (n : Int) : Decidable (Writable n) := inferInstanceAs (Decidable (_ < _))

/-- The decimal text of an integer, if it is not too long to be written. -/
def write? (n : Int) : Option String :=
  if Writable n then some (String.ofList (spell n)) else none

/-- The decimal text of a natural number of any size. -/
def count (n : Nat) : String := String.ofList (Nat.toDigits 10 n)

/-- How a message about the limit begins. -/
def limitNotice : String :=
  "Exceeds the limit (" ++ count digitLimit ++ " digits) for integer string conversion"

/-- How a message about the limit ends. -/
def limitAdvice : String := "; use sys.set_int_max_str_digits() to increase the limit"

/-- The message about an integer that is too long to be written. -/
def tooLongToWrite : String := limitNotice ++ limitAdvice

/-- The number that digit values stand for, the most significant first. -/
def positional (digits : List Nat) : Nat := digits.foldl (fun n d => n * 10 + d) 0

/-- A leading sign and what follows it; `true` stands for the minus sign. -/
def splitSign : List Char → Bool × List Char
  | '-' :: cs => (true, cs)
  | '+' :: cs => (false, cs)
  | cs => (false, cs)

/-- The text starts and ends with a digit and has no two underscores side by side. The flag tells
whether a digit stands right before the text. -/
def marksFit : (afterDigit : Bool) → List Char → Bool
  | afterDigit, [] => afterDigit
  | afterDigit, c :: cs => if c = '_' then afterDigit && marksFit false cs else marksFit true cs

/-- Reads a number from text without spaces. Underscores out of place are found first, then too many
digits, then anything that follows the digits. -/
def read (text : List Char) : Except ReadError Int :=
  let (negative, body) := splitSign text
  let run := body.takeWhile fun c => isDigit c || c = '_'
  let rest := body.dropWhile fun c => isDigit c || c = '_'
  let digits := run.filterMap digitValue?
  if !marksFit false run then .error (.malformed text)
  else if digitLimit < digits.length then .error (.tooLong digits.length)
  else if !rest.isEmpty then .error (.malformed text)
  else if negative then .ok (-(positional digits : Int))
  else .ok (positional digits)

/-- The greatest number of characters of a malformed text, with its quotation mark and escapes, that
a message shows. -/
def shownLimit : Nat := 200

/-- The message about a text that could not be read. -/
def ReadError.message : ReadError → String
  | .malformed text =>
    "invalid literal for int() with base 10: " ++
      String.ofList ((quoteChars text).take shownLimit)
  | .tooLong digits => limitNotice ++ ": value has " ++ count digits ++ " digits" ++ limitAdvice

end Concatenative.Decimal
