/-!
# Fractions

A number that is not given as an integer is held to 53 significant binary digits: it stands for the
nearest number that has no more of them, and the one with an even last digit if two are equally
near. It is written in decimal with the fewest digits that stand for the same number again; of the
numbers with so few digits the nearest is written.
-/

namespace Concatenative.Fraction

/-- The greatest number of significant binary digits. -/
def precision : Nat := 53

/-- The binary digits of the smallest numbers end at this place behind the point. -/
def places : Nat := 1074

/-- The greatest number of significant decimal digits that is ever needed. -/
def decimals : Nat := 17

/-- A power with any integer as exponent. -/
def power (base : Nat) : Int → Rat
  | .ofNat n => mkRat (base.pow n) 1
  | .negSucc n => mkRat 1 (base.pow (n + 1))

/-- The nearest integer, and the even one if two are equally near. -/
def nearestInt (x : Rat) : Int :=
  let low := x.floor
  let rest := x - Rat.ofInt low
  let half := mkRat 1 2
  if rest < half then low
  else if half < rest then low + 1
  else if low.emod 2 = 0 then low
  else low + 1

/-- The exponent of the last binary digit that is kept of a number. -/
def lastPlace (x : Rat) : Int :=
  let guess : Int := (x.num.natAbs.log2 : Int) - x.den.log2 - precision
  let fitted := if power 2 (guess + precision) ≤ x.abs then guess + 1 else guess
  max fitted (-places)

/-- The nearest number with few enough binary digits. -/
def nearest (x : Rat) : Rat :=
  let unit := power 2 (lastPlace x)
  Rat.ofInt (nearestInt (x / unit)) * unit

/-- The number of decimal digits of a natural number. -/
def width (n : Nat) : Nat := (Nat.toDigits 10 n).length

/-- The least exponent of a power of ten that is greater than a positive number. -/
def scale (x : Rat) : Int :=
  if mkRat 1 1 ≤ x then width x.floor.toNat
  else 1 - (width (x.inv.ceil - 1).toNat : Int)

/-- A decimal number: digits, and the exponent of the last of them. -/
structure Written where
  /-- The digits as one number. -/
  digits : Nat
  /-- The exponent of the last digit. -/
  exponent : Int

/-- The nearest way to write a positive number with the given count of digits, if one stands for the
number again. -/
def writtenWith? (x : Rat) (count : Nat) : Option Written :=
  let exponent := scale x - count
  let unit := power 10 exponent
  let low := (x / unit).floor
  let readsBack := fun n : Int => nearest (Rat.ofInt n * unit) = x
  if readsBack (nearestInt (x / unit)) then some ⟨(nearestInt (x / unit)).toNat, exponent⟩
  else if readsBack low then some ⟨low.toNat, exponent⟩
  else if readsBack (low + 1) then some ⟨(low + 1).toNat, exponent⟩
  else none

/-- The shortest way to write a positive number. -/
def written (x : Rat) : Written :=
  let exponent := scale x - decimals
  let longest : Written := ⟨(nearestInt (x / power 10 exponent)).toNat, exponent⟩
  ((List.range decimals).findSome? fun n => writtenWith? x (n + 1)).getD longest

/-- An exponent with its sign and at least two digits. -/
def exponentText (e : Int) : List Char :=
  let ds := Nat.toDigits 10 e.natAbs
  (if e < 0 then '-' else '+') :: if ds.length < 2 then '0' :: ds else ds

/-- Lays digits out, the first of which has the given exponent: around a point if the number is
neither very small nor very great, and otherwise with the exponent behind. -/
def layOut (ds : List Char) (e : Int) : List Char :=
  if e < -4 ∨ 16 ≤ e then
    ds.take 1 ++ (if ds.length ≤ 1 then [] else '.' :: ds.drop 1) ++ 'e' :: exponentText e
  else if e < 0 then '0' :: '.' :: (List.replicate (e.natAbs - 1) '0' ++ ds)
  else
    let count := e.toNat + 1
    let whole := ds.take count ++ List.replicate (count - ds.length) '0'
    whole ++ '.' :: if ds.length ≤ count then ['0'] else ds.drop count

/-- The text of a positive number. -/
def positiveText (x : Rat) : List Char :=
  let w := written x
  let all := Nat.toDigits 10 w.digits
  let ds := (all.reverse.dropWhile (· = '0')).reverse
  layOut ds (w.exponent + all.length - 1)

/-- The text of a number. -/
def text (x : Rat) : String :=
  if x.num = 0 then "0.0"
  else if x.num < 0 then String.ofList ('-' :: positiveText x.abs)
  else String.ofList (positiveText x)

end Concatenative.Fraction
