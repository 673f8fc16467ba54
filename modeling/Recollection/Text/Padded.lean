/-!
# Padded numerals

Numerals of a set width, filled up with zeros in front.
-/

set_option autoImplicit false

namespace Recollection.Text

/-- Digits filled up with zeros to a width; longer ones stay as they are. -/
def padded (width : Nat) (digits : List Char) : String :=
  String.ofList (List.replicate (width - digits.length) '0' ++ digits)

/-- A decimal numeral of at least a width. -/
def decimal (width n : Nat) : String :=
  padded width (Nat.toDigits 10 n)

end Recollection.Text
