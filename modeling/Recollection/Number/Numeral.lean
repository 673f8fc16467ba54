import Recollection.Number.Shortest
/-!
# Numerals

How a binary64 number is written. The digits are those of `Binary64.shortestDecimal`; a
`NumeralStyle` holds every other decision, and there are three styles: `wire` for documents,
`plain` for messages and tables, and `tagged` for values shown inside messages. `fixed` writes a
set number of decimal places of the exact value instead.
-/

set_option autoImplicit false

namespace Recollection

/-- The decisions that turn a shortest decimal into text. -/
structure NumeralStyle where
  /-- Which of two equally near decimals is written. -/
  middle : MiddleRule
  /-- The decimal exponents of the first digit that are written without an exponent; all of them
  if absent. -/
  positional : Option (Int × Int)
  /-- Whether a number without a fraction is still written with one. -/
  pointed : Bool
  /-- Whether a positive exponent has a sign. -/
  signedExponent : Bool
deriving DecidableEq, Repr

namespace NumeralStyle

/-- Numbers in a document: `1.0`, `0.00001`, `1e+16`, `1e-6`. -/
def wire : NumeralStyle := ⟨.toEven, some (-5, 15), true, true⟩

/-- Numbers in a sentence or a table: never an exponent, and no fraction where there is none. -/
def plain : NumeralStyle := ⟨.upward, none, false, false⟩

/-- Numbers inside a shown value: always a fraction or an exponent. -/
def tagged : NumeralStyle := ⟨.upward, some (-4, 15), true, false⟩

end NumeralStyle

namespace Decimal

/-- `n` zeros. -/
def zeros (n : Nat) : String :=
  String.ofList (List.replicate n '0')

/-- Digits with a decimal point after the first `whole` of them. -/
def pointAfter (whole : Nat) (digits : List Char) : String :=
  String.ofList (digits.take whole) ++ "." ++ String.ofList (digits.drop whole)

/-- The decimal in positional notation. -/
def positional (pointed : Bool) (d : Decimal) : String :=
  let digits := (toString d.digits).toList
  let whole : Int := digits.length + d.exponent
  if 0 ≤ d.exponent then
    String.ofList digits ++ zeros d.exponent.toNat ++ (if pointed then ".0" else "")
  else if 0 < whole then
    pointAfter whole.toNat digits
  else
    "0." ++ zeros (-whole).toNat ++ String.ofList digits

/-- The decimal with one digit before the point and an exponent. -/
def scientific (signedExponent : Bool) (d : Decimal) : String :=
  let digits := (toString d.digits).toList
  let exponent : Int := d.exponent + digits.length - 1
  let mantissa := if digits.length = 1 then String.ofList digits else pointAfter 1 digits
  let sign := if signedExponent && decide (0 ≤ exponent) then "+" else ""
  mantissa ++ "e" ++ sign ++ toString exponent

/-- The text of a decimal in a style. -/
def render (style : NumeralStyle) (d : Decimal) : String :=
  let first : Int := d.exponent + (toString d.digits).length - 1
  match style.positional with
  | none => d.positional style.pointed
  | some (low, high) =>
    if d.digits = 0 || (decide (low ≤ first) && decide (first ≤ high)) then
      d.positional style.pointed
    else
      d.scientific style.signedExponent

end Decimal

namespace Binary64

/-- The sign as written: a minus for every number with the sign bit, zero included. -/
def signText (x : Binary64) : String :=
  if x.isNegative then "-" else ""

/-- The text of a number in a style. -/
def render (style : NumeralStyle) (x : Binary64) : String :=
  if x.isNaN then "NaN"
  else if x.isFinite then x.signText ++ (x.shortestDecimal style.middle).render style
  else x.signText ++ "inf"

/-- The exact value rounded to `places` decimal places, from the middle to the even digit. -/
def fixed (places : Nat) (x : Binary64) : String :=
  if x.isNaN then "NaN"
  else if x.isFinite then
    let scaled := roundHalfEven (x.units * Nat.pow 10 places) unitsPerOne
    let digits := (toString scaled).toList
    let padded := List.replicate (places + 1 - digits.length) '0' ++ digits
    x.signText ++ Decimal.pointAfter (padded.length - places) padded
  else x.signText ++ "inf"

end Binary64

end Recollection
