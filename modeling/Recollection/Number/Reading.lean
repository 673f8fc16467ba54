import Recollection.Number.Rounding
/-!
# Reading numerals

The two grammars in which settings, cursors and thresholds are written: unsigned integers of a
given width, and decimal numbers. Neither allows blanks around the numeral.
-/

set_option autoImplicit false

namespace Recollection.Numeral

/-- The value of one ASCII digit. -/
def digitValue (c : Char) : Nat :=
  c.toNat - '0'.toNat

/-- The value of a run of ASCII digits. -/
def digitsValue (digits : List Char) : Nat :=
  digits.foldl (fun value c => 10 * value + digitValue c) 0

/-- An optional plus sign and one or more ASCII digits, below `bound`. -/
def readNat? (bound : Nat) (text : List Char) : Option Nat :=
  let digits := match text with
    | '+' :: rest => rest
    | other => other
  if digits.isEmpty || !digits.all Char.isDigit then none
  else
    let value := digitsValue digits
    if value < bound then some value else none

/-- An unsigned 32-bit integer. -/
def readUInt32? (text : String) : Option UInt32 :=
  (readNat? UInt32.size text.toList).map UInt32.ofNat

/-- An unsigned 64-bit integer. -/
def readUInt64? (text : String) : Option UInt64 :=
  (readNat? UInt64.size text.toList).map UInt64.ofNat

/-- An optional sign, and whether it is a minus. -/
def takeSign : List Char → Bool × List Char
  | '-' :: rest => (true, rest)
  | '+' :: rest => (false, rest)
  | other => (false, other)

/-- The exponent part of a decimal: nothing, or `e`, an optional sign and digits. -/
def readExponent? : List Char → Option Int
  | [] => some 0
  | mark :: rest =>
    if mark == 'e' || mark == 'E' then
      let (negative, digits) := takeSign rest
      if digits.isEmpty || !digits.all Char.isDigit then none
      else some (if negative then -(digitsValue digits : Int) else (digitsValue digits : Int))
    else none

/-- The unsigned part of a decimal: digits with an optional point and at least one digit on either
side of it, and an optional exponent. -/
def readMagnitude? (negative : Bool) (text : List Char) : Option Binary64 :=
  let whole := text.takeWhile Char.isDigit
  let (fraction, rest) := match text.dropWhile Char.isDigit with
    | '.' :: after => (after.takeWhile Char.isDigit, after.dropWhile Char.isDigit)
    | other => ([], other)
  if whole.isEmpty && fraction.isEmpty then none
  else (readExponent? rest).map fun exponent =>
    Binary64.ofDecimal negative (digitsValue (whole ++ fraction)) (exponent - fraction.length)

/-- A decimal number, an infinity or NaN; the words may be in any case. -/
def readBinary64? (text : String) : Option Binary64 :=
  let (negative, unsigned) := takeSign text.toList
  let word := String.ofList (unsigned.map Char.toLower)
  if word == "inf" || word == "infinity" then some (Binary64.infinity negative)
  else if word == "nan" then some Binary64.nan
  else readMagnitude? negative unsigned

end Recollection.Numeral
