/-!
# Binary64 numbers

A binary64 number is its 64-bit word: a sign bit, eleven exponent bits and fifty-two fraction bits.
Everything here is exact integer arithmetic on that word, so every statement about a score, a
threshold or a latency is a statement about integers.

* `units` counts multiples of the least positive number, `2 ^ (-1074)`: every finite magnitude is a
  whole number of them.
* `key` places every number other than NaN on the number line; both zeros share a place.
* `rank` is the position in the total order, in which `-0.0` comes right before `0.0` and the NaNs
  lie outside the infinities.
-/

set_option autoImplicit false

namespace Recollection

/-- A binary64 number, held as its word. -/
structure Binary64 where
  /-- Sign bit, exponent bits and fraction bits, from the most significant. -/
  bits : UInt64
deriving DecidableEq, Repr

namespace Binary64

/-! ## The fields of the word -/

/-- What the sign bit counts. -/
def signWeight : Nat :=
  0x8000000000000000

/-- What the least exponent bit counts: how many fractions there are. -/
def exponentWeight : Nat :=
  0x10000000000000

/-- The word without its sign bit. -/
def magnitude (x : Binary64) : Nat :=
  x.bits.toNat % signWeight

/-- Whether the sign bit is set; it is for `-0.0`. -/
def isNegative (x : Binary64) : Bool :=
  decide (signWeight ≤ x.bits.toNat)

/-- The magnitude of the infinities: all exponent bits, no fraction bit. -/
def infinityMagnitude : Nat :=
  0x7FF0000000000000

/-- Whether the word encodes no number at all. -/
def isNaN (x : Binary64) : Bool :=
  decide (infinityMagnitude < x.magnitude)

/-- Whether the word encodes neither NaN nor an infinity. -/
def isFinite (x : Binary64) : Bool :=
  decide (x.magnitude < infinityMagnitude)

/-- The number with the given sign and magnitude. -/
def ofMagnitude (negative : Bool) (magnitude : Nat) : Binary64 :=
  ⟨UInt64.ofNat (if negative then signWeight + magnitude else magnitude)⟩

/-- Zero, without a sign. -/
def zero : Binary64 :=
  ⟨0⟩

/-- One. -/
def one : Binary64 :=
  ⟨0x3FF0000000000000⟩

/-- The number whose magnitude is beyond every finite one. -/
def infinity (negative : Bool) : Binary64 :=
  ofMagnitude negative infinityMagnitude

/-- A word that encodes no number. -/
def nan : Binary64 :=
  ⟨0x7FF8000000000000⟩

instance : Inhabited Binary64 := ⟨zero⟩

/-! ## The value -/

/-- How many times `2 ^ (-1074)` one is. -/
def unitsPerOne : Nat :=
  Nat.pow 2 1074

/-- How many times `2 ^ (-1074)` a finite number's magnitude is. -/
def units (x : Binary64) : Nat :=
  let exponent := x.magnitude / exponentWeight
  let fraction := x.magnitude % exponentWeight
  if exponent = 0 then fraction else (exponentWeight + fraction) * Nat.pow 2 (exponent - 1)

/-- The place on the number line of a number other than NaN: magnitudes grow with the value. -/
def key (x : Binary64) : Int :=
  if x.isNegative then -(x.magnitude : Int) else (x.magnitude : Int)

/-- The position in the total order of all words. -/
def rank (x : Binary64) : Int :=
  if x.isNegative then -(x.magnitude : Int) - 1 else (x.magnitude : Int)

/-- `x ≤ y` as numbers; false when either is NaN. -/
def le (x y : Binary64) : Bool :=
  !x.isNaN && !y.isNaN && decide (x.key ≤ y.key)

/-- `x < y` as numbers; false when either is NaN. -/
def lt (x y : Binary64) : Bool :=
  !x.isNaN && !y.isNaN && decide (x.key < y.key)

/-- Equality as numbers: the two zeros are equal, and NaN equals nothing. -/
def same (x y : Binary64) : Bool :=
  !x.isNaN && !y.isNaN && decide (x.key = y.key)

/-- The total order of all words. -/
def totalLe (x y : Binary64) : Bool :=
  decide (x.rank ≤ y.rank)

/-- Integers of at most this magnitude are all binary64 numbers. -/
def exactIntegerLimit : Nat :=
  0x20000000000000

/-- The integer a number is, if it is one of magnitude at most `2 ^ 53`. -/
def toInteger? (x : Binary64) : Option Int :=
  let whole := x.units / unitsPerOne
  if x.isFinite && x.units % unitsPerOne == 0 && decide (whole ≤ exactIntegerLimit) then
    some (if x.isNegative then -(whole : Int) else (whole : Int))
  else
    none

end Binary64

end Recollection
