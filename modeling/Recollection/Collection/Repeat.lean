/-!
# Repeats

Contracts list identifiers without repetition, and a violation points at the first element that
equals an earlier one. `firstRepeat?` finds it by walking the list with the elements seen so far.
-/

set_option autoImplicit false

namespace Recollection

variable {α : Type} [DecidableEq α]

/-- The first element of `rest` that is in `seen` or earlier in `rest`, with its index counted from
`index`. -/
def firstRepeatAfter? (seen : List α) (index : Nat) : (rest : List α) → Option (Nat × α)
  | [] => none
  | item :: rest =>
    if item ∈ seen then some (index, item)
    else firstRepeatAfter? (item :: seen) (index + 1) rest

/-- Index and value of the first element that equals an earlier one. -/
def firstRepeat? (items : List α) : Option (Nat × α) :=
  firstRepeatAfter? [] 0 items

end Recollection
