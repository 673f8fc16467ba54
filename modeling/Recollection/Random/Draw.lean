import Recollection.Random.Stream
/-!
# Random choices

What is drawn from a stream: words, numbers below a bound without bias, and some elements of a list
without repetition.

A number below a bound is the high part of the product of a word and the bound. Words whose product
has too great a low part are drawn again; each attempt succeeds at least every other time, and after
`attempts` failures the choice is zero, so that every choice comes to an end.
-/

set_option autoImplicit false

namespace Recollection.Random

/-- Draws a value from a stream. -/
abbrev Draw (α : Type) : Type :=
  StateM Stream α

/-- A word of 32 bits. -/
def word32 : Draw UInt32 := fun stream =>
  stream.next

/-- A word of 64 bits, the low half first. -/
def word64 : Draw UInt64 := do
  let low ← word32
  let high ← word32
  return low.toUInt64 + (high.toUInt64 <<< 32)

/-- The number below a bound that a word of some width gives, if it gives one: the low part of the
product must be below the bound shifted to the width. -/
def scaled? (width bound word : Nat) : Option Nat :=
  let product := word * bound
  let words := Nat.pow 2 width
  if product % words < bound * Nat.pow 2 (width - (bound.log2 + 1)) then some (product / words)
  else none

/-- How often a choice is attempted. -/
def attempts : Nat := 1000

/-- A number below a bound, in at most some attempts, from words of some width. -/
def scaledWithin (width bound : Nat) (word : Draw Nat) : Nat → Draw Nat
  | 0 => return 0
  | attempts + 1 => do
    match scaled? width bound (← word) with
    | some value => return value
    | none => scaledWithin width bound word attempts

/-- A number below a bound of 32 bits. -/
def below32 (bound : Nat) : Draw Nat :=
  scaledWithin 32 bound (do return (← word32).toNat) attempts

/-- A number from `low` to `high`, from words of 64 bits. -/
def between64 (low high : Nat) : Draw Nat := do
  let distance ← scaledWithin 64 (high - low + 1) (do return (← word64).toNat) attempts
  return low + distance

/-- One more index for a choice among the first `top + 1` indices: an index drawn before stands for
`top` itself, which goes in front of it. -/
def chooseNext (chosen : List Nat) (top : Nat) : Draw (List Nat) := do
  let index ← below32 (top + 1)
  match chosen.idxOf? index with
  | some place => return chosen.insertIdx place top
  | none => return chosen ++ [index]

/-- Some different indices below a length, in random order. -/
def chooseIndices (length count : Nat) : Draw (List Nat) :=
  (List.range' (length - count) count).foldlM chooseNext []

/-- Some different elements of a list, in random order. -/
def choose {α : Type} (items : List α) (count : Nat) : Draw (List α) := do
  let indices ← chooseIndices items.length (min count items.length)
  return indices.filterMap fun index => items[index]?

end Recollection.Random
