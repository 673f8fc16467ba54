import Recollection.Number.Rounding
/-!
# Shortest decimals

The decimal written for a finite number has the fewest digits that read back as the number, and
among those it is the nearest to it.

The search walks the grids of multiples of `10 ^ p` from a power of ten above the number downwards.
Each grid holds the grids before it, so the first one with a point that reads back has the fewest
digits; if any point of a grid does, one of the two neighbours of the number does. The walk ends at
`p = -1074`, where the number itself is a point of the grid.
-/

set_option autoImplicit false

namespace Recollection

/-- The non-negative decimal `digits * 10 ^ exponent`. -/
structure Decimal where
  /-- The digits, read as one integer. -/
  digits : Nat
  /-- The power of ten that the last digit counts. -/
  exponent : Int
deriving DecidableEq, Repr

/-- Which of two equally near decimals is written. -/
inductive MiddleRule
  /-- The one whose last digit is even. -/
  | toEven
  /-- The larger one. -/
  | upward
deriving DecidableEq, Repr

namespace Binary64

/-- The two multiples of `10 ^ exponent` around a magnitude of `units` units, the nearer one
first. -/
def neighbours (rule : MiddleRule) (units : Nat) (exponent : Int) : List Nat :=
  let numerator := if 0 ≤ exponent then units else units * Nat.pow 10 (-exponent).toNat
  let denominator := if 0 ≤ exponent then unitsPerOne * Nat.pow 10 exponent.toNat
    else unitsPerOne
  let lower := numerator / denominator
  let remainder := numerator % denominator
  let lowerFirst :=
    decide (2 * remainder < denominator) ||
      (decide (2 * remainder = denominator) && rule == .toEven && lower % 2 == 0)
  if lowerFirst then [lower, lower + 1] else [lower + 1, lower]

/-- Whether the decimal `digits * 10 ^ exponent` reads back as a number of the given magnitude. -/
def readsBack (magnitude : Nat) (exponent : Int) (digits : Nat) : Bool :=
  (ofDecimal false digits exponent).magnitude == magnitude

/-- The first grid from `10 ^ exponent` downwards, in at most `steps` steps, with a neighbour that
reads back; the exact decimal on the last grid otherwise. -/
def searchDecimal (rule : MiddleRule) (x : Binary64) : Nat → Int → Decimal
  | 0, exponent => ⟨((neighbours rule x.units exponent).head?).getD 0, exponent⟩
  | steps + 1, exponent =>
    match (neighbours rule x.units exponent).find? (readsBack x.magnitude exponent) with
    | some digits => ⟨digits, exponent⟩
    | none => searchDecimal rule x steps (exponent - 1)

/-- An exponent whose power of ten is above the number: `30103 / 100000` is just above the decimal
logarithm of two. -/
def decimalCeiling (x : Binary64) : Int :=
  ((x.units.log2 : Int) - 1073) * 30103 / 100000 + 2

/-- The shortest decimal that reads back as the magnitude of a finite number. -/
def shortestDecimal (rule : MiddleRule) (x : Binary64) : Decimal :=
  if x.units = 0 then ⟨0, 0⟩
  else searchDecimal rule x (x.decimalCeiling + 1074).toNat x.decimalCeiling

end Binary64

end Recollection
