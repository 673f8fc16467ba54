import Recollection.Benchmark.Summary
import Recollection.Proofs.Number.Order
/-!
# Percentiles as counts

A percentile of the nearest rank is at most a bound exactly if the share of the samples that are at
most the bound is no less than the percentile. Shares are counts, and the counts of samples taken
together are sums; so a bound on a percentile of every part is one on the percentile of the whole,
although the percentiles themselves do not add up.
-/

set_option autoImplicit false

namespace Recollection.Benchmark

/-! ## Ordered lists -/

/-- Where a property of an item passes on to all earlier ones, the items that have it come first. -/
theorem getElem_iff_lt_countP {α : Type} {holds : α → Bool} {items : List α}
    (hearlier : items.Pairwise fun earlier later => holds later = true → holds earlier = true)
    {index : Nat} (hindex : index < items.length) :
    holds items[index] = true ↔ index < items.countP holds := by
  induction items generalizing index with
  | nil => cases hindex
  | cons item rest ih =>
    obtain ⟨hfirst, hrest⟩ := List.pairwise_cons.1 hearlier
    cases hitem : holds item with
    | true =>
      rw [List.countP_cons_of_pos hitem]
      cases index with
      | zero => simp [hitem]
      | succ index =>
        rw [List.getElem_cons_succ, ih hrest, Nat.succ_lt_succ_iff]
    | false =>
      have hnone : ∀ later ∈ item :: rest, ¬ holds later = true := by
        rw [List.forall_mem_cons]
        refine ⟨by simp [hitem], fun later hlater hholds => ?_⟩
        rw [hfirst later hlater hholds] at hitem
        cases hitem
      rw [List.countP_eq_zero.2 hnone]
      simp [hnone _ (List.getElem_mem hindex)]

/-! ## Percentiles -/

theorem pairwise_sortSamples (samples : List Binary64) :
    (sortSamples samples).Pairwise fun x y => x.totalLe y = true := by
  apply List.pairwise_mergeSort
  · exact fun _ _ _ => Binary64.totalLe_trans
  · exact Binary64.totalLe_total

/-- Samples that are numbers and stand in the total order stand in the order of numbers. -/
theorem pairwise_le {samples : List Binary64}
    (hsorted : samples.Pairwise fun x y => x.totalLe y = true)
    (hnumbers : ∀ sample ∈ samples, sample.isNaN = false) :
    samples.Pairwise fun x y => x.le y = true :=
  hsorted.imp_of_mem fun hx hy => Binary64.le_of_totalLe (hnumbers _ hx) (hnumbers _ hy)

/-- The least rank at which a share of the samples, in percent, is reached. -/
theorem rankOf_le_iff {count : Nat} (hcount : 0 < count) {percentile : UInt32}
    (hlow : 1 ≤ percentile.toNat) (hhigh : percentile.toNat ≤ 100) (rank : Nat) :
    rankOf count percentile ≤ rank ↔ count * percentile.toNat ≤ 100 * rank := by
  have hpercentile : min (max percentile.toNat 1) 100 = percentile.toNat := by omega
  have hpos : 0 < count * percentile.toNat := Nat.mul_pos hcount hlow
  simp only [rankOf, hpercentile]
  omega

/-- Whatever the percentile, its rank is one of the samples. -/
theorem rankOf_le_count {count : Nat} (hcount : 0 < count) (percentile : UInt32) :
    rankOf count percentile ≤ count := by
  have hle : count * min (max percentile.toNat 1) 100 ≤ count * 100 :=
    Nat.mul_le_mul_left count (Nat.min_le_right _ _)
  simp only [rankOf]
  omega

theorem rankOf_sub_one_lt {count : Nat} (hcount : 0 < count) (percentile : UInt32) :
    rankOf count percentile - 1 < count := by
  have hrank := rankOf_le_count hcount percentile
  omega

section Ordered

variable (atMost : Binary64 → Binary64 → Bool)
  (htrans : ∀ x y z, atMost x y = true → atMost y z = true → atMost x z = true)
  {sorted : List Binary64} (hsorted : sorted.Pairwise fun x y => atMost x y = true)
  {percentile : UInt32} (hlow : 1 ≤ percentile.toNat) (hhigh : percentile.toNat ≤ 100)

include htrans hsorted hlow hhigh

/-- The sample at the rank of a percentile is at most a bound exactly if that share of the samples
is. -/
theorem getElem_rankOf_iff (hindex : rankOf sorted.length percentile - 1 < sorted.length)
    (bound : Binary64) :
    atMost sorted[rankOf sorted.length percentile - 1] bound = true ↔
      sorted.length * percentile.toNat ≤ 100 * sorted.countP (atMost · bound) := by
  have hearlier : sorted.Pairwise fun x y => atMost y bound = true → atMost x bound = true :=
    hsorted.imp fun {x y} hle hbound => htrans x y bound hle hbound
  have hcount := getElem_iff_lt_countP hearlier hindex
  have hrankPos : 1 ≤ rankOf sorted.length percentile := Nat.le_max_right _ _
  rw [hcount, ← rankOf_le_iff (Nat.zero_lt_of_lt hindex) hlow hhigh]
  omega

end Ordered

/-- Whether at least a share of the samples, in percent, is at most a bound. -/
def MostWithin (percent : Nat) (bound : Binary64) (samples : List Binary64) : Prop :=
  samples.length * percent ≤ 100 * samples.countP (·.le bound)

instance (percent : Nat) (bound : Binary64) (samples : List Binary64) :
    Decidable (MostWithin percent bound samples) :=
  inferInstanceAs (Decidable (_ ≤ _))

/-- A percentile is at most a bound exactly if that share of the samples is. Without samples it is
zero, which no bound may lie below. -/
theorem percentile_le_iff (percentile : UInt32) (hlow : 1 ≤ percentile.toNat)
    (hhigh : percentile.toNat ≤ 100) {samples : List Binary64}
    (hnumbers : ∀ sample ∈ samples, sample.isNaN = false) {bound : Binary64}
    (hbound : Binary64.zero.le bound = true) :
    ((nearestRank? (sortSamples samples) percentile).getD .zero).le bound = true ↔
      MostWithin percentile.toNat bound samples := by
  have hperm : (sortSamples samples).Perm samples := List.mergeSort_perm _ _
  have hsorted : (sortSamples samples).Pairwise fun x y => x.le y = true :=
    pairwise_le (pairwise_sortSamples samples) fun _ hmem => hnumbers _ (hperm.mem_iff.1 hmem)
  rw [MostWithin, ← hperm.length_eq, ← hperm.countP_eq]
  rcases Nat.eq_zero_or_pos (sortSamples samples).length with hempty | hpos
  · rw [List.length_eq_zero_iff.1 hempty]
    simpa [nearestRank?] using hbound
  · have hindex := rankOf_sub_one_lt hpos percentile
    rw [nearestRank?, List.getElem?_eq_getElem hindex, Option.getD_some]
    exact getElem_rankOf_iff Binary64.le (fun _ _ _ => Binary64.le_trans) hsorted hlow hhigh
      hindex bound

/-- What most samples of every part keep within, most samples of the whole do. -/
theorem MostWithin.flatten {percent : Nat} {bound : Binary64} {parts : List (List Binary64)}
    (hparts : ∀ part ∈ parts, MostWithin percent bound part) :
    MostWithin percent bound parts.flatten := by
  induction parts with
  | nil => simp [MostWithin]
  | cons part rest ih =>
    rw [List.forall_mem_cons] at hparts
    have hpart := hparts.1
    have hrest := ih hparts.2
    simp only [MostWithin, List.flatten_cons, List.length_append, List.countP_append] at *
    rw [Nat.add_mul, Nat.mul_add]
    exact Nat.add_le_add hpart hrest

end Recollection.Benchmark
