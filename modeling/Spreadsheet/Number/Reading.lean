/-!
# Reading numbers

The written form of a number: an optional sign, digits with at most one point among or around them,
and an optional exponent. Infinity and not-a-number have names. What is read is the float nearest to
the decimal.
-/

namespace Spreadsheet.Number

/-- The value of decimal digits, most significant first. -/
def digitsValue (digits : List Char) : Nat :=
  digits.foldl (fun value digit => value * 10 + (digit.toNat - '0'.toNat)) 0

/-- Splits off a leading sign and tells whether it was a minus. -/
def takeSign : List Char → Bool × List Char
  | '-' :: rest => (true, rest)
  | '+' :: rest => (false, rest)
  | chars => (false, chars)

/-- The exponent after the digits: nothing, or a mark with an optional sign and at least one
digit. -/
def readExponent : List Char → Option Int
  | [] => some 0
  | mark :: rest =>
    let (negative, digits) := takeSign rest
    if (mark = 'e' || mark = 'E') && !digits.isEmpty && digits.all Char.isDigit then
      some (if negative then -(digitsValue digits : Int) else digitsValue digits)
    else none

/-- The float nearest to `digits * 10 ^ exponent`. -/
def scaled (digits : Nat) (exponent : Int) : Float :=
  Float.ofScientific digits (exponent < 0) exponent.natAbs

/-- An unsigned decimal. -/
def readDecimal (chars : List Char) : Option Float :=
  let whole := chars.takeWhile Char.isDigit
  let afterWhole := chars.dropWhile Char.isDigit
  let afterPoint := match afterWhole with
    | '.' :: rest => some rest
    | _ => none
  let fraction := (afterPoint.getD []).takeWhile Char.isDigit
  let tail := match afterPoint with
    | some rest => rest.dropWhile Char.isDigit
    | none => afterWhole
  if whole.isEmpty && fraction.isEmpty then none
  else (readExponent tail).map fun exponent =>
    scaled (digitsValue (whole ++ fraction)) (exponent - fraction.length)

/-- An unsigned number: one of the names in any case of ASCII letters, or a decimal. -/
def readUnsigned (chars : List Char) : Option Float :=
  let name := String.ofList (chars.map Char.toLower)
  if name = "inf" || name = "infinity" then some (1.0 / 0.0)
  else if name = "nan" then some (0.0 / 0.0)
  else readDecimal chars

/-- The number a text spells, or nothing. -/
def read (chars : List Char) : Option Float :=
  let (negative, rest) := takeSign chars
  (readUnsigned rest).map fun number => if negative then -number else number

end Spreadsheet.Number
