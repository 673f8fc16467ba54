import Recollection.Number.Binary64
/-!
# Rounding to binary64

`Binary64.ofRatio` is the one place where a real value becomes a binary64 number: to the nearest,
and from the middle to the one whose last bit is clear. Readers of decimals, counts and shares of
counts all go through it.

A magnitude of `t` units is rounded on the grid of `2 ^ s` units, where `s` leaves fifty-three
significant bits of `t`; the grid index `q` then fits the word as `s * 2 ^ 52 + q`, which holds for
subnormal magnitudes (`s = 0`) and for a `q` that was rounded up to the next power of two alike.
-/

set_option autoImplicit false

namespace Recollection

/-- `numerator / denominator` rounded to an integer, from the middle to the even neighbour. -/
def roundHalfEven (numerator denominator : Nat) : Nat :=
  let quotient := numerator / denominator
  let remainder := numerator % denominator
  if 2 * remainder < denominator then quotient
  else if denominator < 2 * remainder then quotient + 1
  else quotient + quotient % 2

namespace Binary64

/-- The magnitude nearest to `numerator / denominator` units, without an upper bound. -/
def roundUnits (numerator denominator : Nat) : Nat :=
  let shift := (numerator / denominator).log2 - 52
  shift * exponentWeight + roundHalfEven numerator (denominator * Nat.pow 2 shift)

/-- The number nearest to `± numerator / denominator`; an infinity beyond the largest. -/
def ofRatio (negative : Bool) (numerator denominator : Nat) : Binary64 :=
  ofMagnitude negative
    (min (roundUnits (numerator * unitsPerOne) denominator) infinityMagnitude)

/-- The number nearest to a natural number. -/
def ofNat (n : Nat) : Binary64 :=
  ofRatio false n 1

/-- The number nearest to an integer. -/
def ofInt (n : Int) : Binary64 :=
  ofRatio (decide (n < 0)) n.natAbs 1

/-- The share `part / whole`, and zero when there is no whole. -/
def share (part whole : Nat) : Binary64 :=
  if whole = 0 then zero else ofRatio false part whole

/-- The number nearest to `± digits * 10 ^ exponent`.

Beyond the two cut-offs the value is above every finite number or below half the least positive
one, whatever the digits are, so that no power of ten outgrows the number that it yields. -/
def ofDecimal (negative : Bool) (digits : Nat) (exponent : Int) : Binary64 :=
  if digits = 0 then ofMagnitude negative 0
  else if 400 < exponent then infinity negative
  else if exponent < -(digits.log2 : Int) - 1200 then ofMagnitude negative 0
  else if 0 ≤ exponent then ofRatio negative (digits * Nat.pow 10 exponent.toNat) 1
  else ofRatio negative digits (Nat.pow 10 (-exponent).toNat)

end Binary64

end Recollection
