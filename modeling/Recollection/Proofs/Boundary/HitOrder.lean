import Mathlib.Data.List.Pairwise
import Recollection.Boundary.Retrieval
import Recollection.Proofs.Number.Order
/-!
# The order of hits

Hits are ordered by descending score and then by identifier, so the order tells hits of different
memories apart. There is exactly one way to put such hits in order, and hits are in order as soon as
neighbours are.

Scores are compared as words. As numbers they say the same, but for zero: a hit with the score zero
comes before one whose zero has a sign, whatever the identifiers are.
-/

set_option autoImplicit false

namespace Recollection.Retrieval

/-! ## Two hits -/

instance : Std.TransCmp Hit.compare :=
  inferInstanceAs (Std.TransCmp (compareLex
    (fun a b => compareOn (fun hit : Hit => hit.score.rank) b a) (compareOn Hit.memoryId)))

theorem Hit.memoryId_eq_of_compare_eq {first second : Hit}
    (hsame : first.compare second = .eq) : first.memoryId = second.memoryId := by
  rw [compare, Ordering.then_eq_eq] at hsame
  exact Std.LawfulEqOrd.eq_of_compare hsame.2

theorem Hit.compare_swap (first second : Hit) :
    second.compare first = (first.compare second).swap :=
  Std.OrientedCmp.eq_swap

theorem Hit.notAfter_total (first second : Hit) :
    (first.notAfter second || second.notAfter first) = true := by
  rw [notAfter, notAfter, compare_swap first second]
  cases first.compare second <;> rfl

theorem Hit.compare_eq_lt_asymm {first second : Hit} (hless : first.compare second = .lt) :
    ¬ second.compare first = .lt := by
  rw [compare_swap first second, hless]
  decide

/-- Whether a hit ranks before another one: its score is greater; or its score is zero, and that of
the other one is zero with a sign; or the scores are one and its identifier is less. -/
def Hit.Precedes (first second : Hit) : Prop :=
  second.score.lt first.score = true ∨
    (second.score = .negativeZero ∧ first.score = .zero) ∨
    (first.score = second.score ∧ Ord.compare first.memoryId second.memoryId = .lt)

/-- Whether a hit goes before another one by numbers alone: its score is greater, or the scores are
equal and its identifier is less. -/
def Hit.Leads (first second : Hit) : Prop :=
  second.score.lt first.score = true ∨
    (first.score.same second.score = true ∧ Ord.compare first.memoryId second.memoryId = .lt)

/-- Whether a hit with the score zero has a lesser identifier than another one whose zero has a
sign. -/
def Hit.ToldFrom (first second : Hit) : Prop :=
  first.score = .zero → second.score = .negativeZero →
    Ord.compare first.memoryId second.memoryId = .lt

/-- Whether the zeros among the scores of hits are told by the identifiers. -/
def ZerosTold (hits : List Hit) : Prop :=
  ∀ first ∈ hits, ∀ second ∈ hits, first.ToldFrom second

section Numbers

variable {first second : Hit} (hfirst : first.score.isNaN = false)
  (hsecond : second.score.isNaN = false)

include hfirst hsecond

theorem Hit.compare_eq_lt_iff : first.compare second = .lt ↔ first.Precedes second := by
  rw [compare, Ordering.then_eq_lt, Std.compare_eq_lt, Std.compare_eq_iff_eq,
    Binary64.rank_lt_rank_iff hsecond hfirst, Binary64.rank_inj, Precedes, or_assoc,
    eq_comm (a := second.score) (b := first.score)]

/-- Where the zeros are told by the identifiers, hits are ordered by numbers. -/
theorem Hit.precedes_iff_leads (hzeros : first.ToldFrom second)
    (hreverse : second.ToldFrom first) : first.Precedes second ↔ first.Leads second := by
  rw [Precedes, Leads, Binary64.same_iff hfirst hsecond]
  constructor
  · rintro (hgreater | ⟨hnegative, hzero⟩ | ⟨hsame, hless⟩)
    · exact .inl hgreater
    · exact .inr ⟨.inr (.inr ⟨hzero, hnegative⟩), hzeros hzero hnegative⟩
    · exact .inr ⟨.inl hsame, hless⟩
  · rintro (hgreater | ⟨hsame | ⟨hnegative, hzero⟩ | ⟨hzero, hnegative⟩, hless⟩)
    · exact .inl hgreater
    · exact .inr (.inr ⟨hsame, hless⟩)
    · rw [Std.OrientedOrd.eq_swap, hreverse hzero hnegative] at hless
      cases hless
    · exact .inr (.inl ⟨hnegative, hzero⟩)

end Numbers

/-- A hit with the score zero leads one whose zero has a sign only by its identifier. -/
theorem Hit.Leads.toldFrom {first second : Hit} (hleads : first.Leads second) :
    first.ToldFrom second := by
  intro hzero hnegative
  rcases hleads with hgreater | ⟨-, hless⟩
  · rw [hzero, hnegative] at hgreater
    exact absurd hgreater (by decide)
  · exact hless

/-! ## Lists of hits -/

theorem perm_rankHits (hits : List Hit) : (rankHits hits).Perm hits :=
  List.mergeSort_perm _ _

theorem pairwise_rankHits (hits : List Hit) :
    (rankHits hits).Pairwise fun first second => first.notAfter second = true := by
  apply List.pairwise_mergeSort
  · intro first second third
    exact Std.TransCmp.isLE_trans
  · exact Hit.notAfter_total

instance : Trans (fun first second : Hit => first.notAfter second = true)
    (fun first second => first.notAfter second = true)
    fun first second => first.notAfter second = true where
  trans := Std.TransCmp.isLE_trans

/-- Hits are in order as soon as neighbours are. -/
theorem isChain_iff_pairwise_notAfter (hits : List Hit) :
    (hits.IsChain fun first second => first.compare second ≠ .gt) ↔
      hits.Pairwise fun first second => first.notAfter second = true := by
  rw [← List.isChain_iff_pairwise]
  simp only [Hit.notAfter, Ordering.isLE_iff_ne_gt]

section Distinct

variable {hits : List Hit} (hnodup : (hits.map Hit.memoryId).Nodup)

include hnodup

/-- Hits of different memories that are in order are strictly ordered. -/
theorem pairwise_notAfter_iff_lt :
    (hits.Pairwise fun first second => first.notAfter second = true) ↔
      hits.Pairwise fun first second => first.compare second = .lt := by
  rw [List.Nodup, List.pairwise_map] at hnodup
  constructor
  · intro hordered
    refine (hordered.and hnodup).imp ?_
    rintro first second ⟨hle, hother⟩
    refine Ordering.isLE_iff_eq_lt_or_eq_eq.1 hle |>.resolve_right ?_
    intro hsame
    exact hother (Hit.memoryId_eq_of_compare_eq hsame)
  · intro hordered
    refine hordered.imp ?_
    intro first second hless
    rw [Hit.notAfter, hless]
    rfl

theorem nodup_rankHits : ((rankHits hits).map Hit.memoryId).Nodup :=
  ((perm_rankHits hits).map _).nodup_iff.2 hnodup

theorem pairwise_lt_rankHits :
    (rankHits hits).Pairwise fun first second => first.compare second = .lt :=
  (pairwise_notAfter_iff_lt (nodup_rankHits hnodup)).1 (pairwise_rankHits hits)

/-- There is one way to put hits of different memories in order. -/
theorem pairwise_lt_iff_eq_rankHits {others : List Hit} (hperm : others.Perm hits) :
    (others.Pairwise fun first second => first.compare second = .lt) ↔ others = rankHits hits := by
  constructor
  · intro hordered
    refine (hperm.trans (perm_rankHits hits).symm).eq_of_pairwise ?_ hordered
      (pairwise_lt_rankHits hnodup)
    intro first second _ _ hless hmore
    exact absurd hmore (Hit.compare_eq_lt_asymm hless)
  · rintro rfl
    exact pairwise_lt_rankHits hnodup

end Distinct

end Recollection.Retrieval
