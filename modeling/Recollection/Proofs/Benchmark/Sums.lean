import Mathlib.Data.List.Forall2
/-!
# Sums over lists

Duplicates, tokens and bytes are summed up over lists of replies and of items.
-/

set_option autoImplicit false

namespace Recollection.Benchmark

section Sum

variable {α β : Type}

/-- The sum of a measure over a list. -/
def sumOver (measure : α → Nat) : List α → Nat
  | [] => 0
  | a :: rest => measure a + sumOver measure rest

theorem sumOver_append (measure : α → Nat) (items others : List α) :
    sumOver measure (items ++ others) = sumOver measure items + sumOver measure others := by
  induction items with
  | nil => exact (Nat.zero_add _).symm
  | cons item rest ih => rw [List.cons_append, sumOver, sumOver, ih, Nat.add_assoc]

theorem sumOver_map (measure : β → Nat) (f : α → β) (items : List α) :
    sumOver measure (items.map f) = sumOver (fun a => measure (f a)) items := by
  induction items with
  | nil => rfl
  | cons item rest ih => rw [List.map_cons, sumOver, sumOver, ih]

theorem sumOver_perm (measure : α → Nat) {items others : List α} (hperm : items.Perm others) :
    sumOver measure items = sumOver measure others := by
  induction hperm with
  | nil => rfl
  | cons item _ ih => rw [sumOver, sumOver, ih]
  | swap item other rest => exact Nat.add_left_comm _ _ _
  | trans _ _ ih ih' => exact ih.trans ih'

/-- Sums of which one is bounded by the other item by item are equal only where all items are. -/
theorem sumOver_eq_iff {measure : α → Nat} {other : β → Nat} {items : List α} {others : List β}
    (hle : List.Forall₂ (fun a b => measure a ≤ other b) items others) :
    sumOver measure items ≤ sumOver other others ∧
      (sumOver measure items = sumOver other others ↔
        List.Forall₂ (fun a b => other b ≤ measure a) items others) := by
  induction hle with
  | nil => exact ⟨Nat.le_refl _, iff_of_true rfl .nil⟩
  | @cons a b items others hfirst _ ih =>
    obtain ⟨hrest, hequal⟩ := ih
    rw [List.forall₂_cons, ← hequal, sumOver, sumOver]
    omega

end Sum

end Recollection.Benchmark
