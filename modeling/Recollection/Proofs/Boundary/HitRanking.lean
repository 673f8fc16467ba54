import Mathlib.Data.List.Pairwise
import Recollection.Proofs.Boundary.Language
import Recollection.Proofs.Service.Transcript
/-!
# Sorting hits and checking their order

Pages are sorted in one place and checked in another one, and the check looks at neighbours only.
Both go by one comparison, so that of all ways to list hits of different memories the check lets one
through, and this is what sorting makes of each of them.

By numbers, hits of one score are told by their identifiers. That comes to the same wherever the
identifiers tell the zeros with a sign from those without, and nowhere else.
-/

set_option autoImplicit false

namespace Recollection.Retrieval

section Distinct

variable {hits : List Hit} (hnodup : (hits.map Hit.memoryId).Nodup)

include hnodup

/-- The check of neighbours lets hits of different memories through if all of them are in order. -/
theorem requireRanked_eq_ok_iff_pairwise (path : Path) :
    requireRanked path hits = .ok () ↔
      hits.Pairwise fun first second => first.compare second = .lt := by
  rw [requireRanked_eq_ok_iff, isChain_iff_pairwise_notAfter, pairwise_notAfter_iff_lt hnodup]

/-- A page whose scores are in range and whose hits are counted is checked for their order. -/
theorem validate_eq_ok_iff_pairwise (hrange : ∀ hit ∈ hits, InUnitInterval hit.score)
    {response : Response} (hhits : response.hits = hits)
    (htotal : hits.length ≤ response.totalHits.toNat) :
    Response.contract.validate response = .ok () ↔
      hits.Pairwise fun first second => first.compare second = .lt := by
  rw [Response.validate_eq_ok_iff, hhits, isChain_iff_pairwise_notAfter,
    pairwise_notAfter_iff_lt hnodup]
  constructor
  · rintro ⟨-, -, hordered, -⟩
    exact hordered
  · intro hordered
    exact ⟨hrange, hnodup, hordered, htotal⟩

end Distinct

/-- A score in range is a number. -/
theorem isNaN_of_inUnitInterval {score : Binary64} (hrange : InUnitInterval score) :
    score.isNaN = false :=
  Binary64.isNaN_eq_false_of_isFinite (Binary64.isFinite_of_mem_unitInterval hrange.1 hrange.2)

/-! ## The order by words -/

/-- Of hits of different memories, sorting makes a list in which every earlier hit ranks before
every later one. It makes the same list of them however they are listed, and this is the only one
that the check of neighbours lets through. -/
theorem sorting_agrees_with_check {hits : List Hit} (hnodup : (hits.map Hit.memoryId).Nodup)
    (hnumbers : ∀ hit ∈ hits, hit.score.isNaN = false) :
    (∀ first ∈ hits, ∀ second ∈ hits,
      first.compare second = .lt ↔ first.Precedes second) ∧
    (rankHits hits).Perm hits ∧ (rankHits hits).Pairwise Hit.Precedes ∧
    ∀ others : List Hit, others.Perm hits → rankHits others = rankHits hits ∧
      ∀ path, requireRanked path others = .ok () ↔ others = rankHits hits := by
  have hcompare : ∀ first ∈ hits, ∀ second ∈ hits,
      first.compare second = .lt ↔ first.Precedes second := fun first hfirst second hsecond =>
    Hit.compare_eq_lt_iff (hnumbers first hfirst) (hnumbers second hsecond)
  have hperm := perm_rankHits hits
  refine ⟨hcompare, hperm, ?ordered, ?unique⟩
  case ordered =>
    refine (pairwise_lt_rankHits hnodup).imp_of_mem ?_
    intro first second hfirst hsecond
    exact (hcompare first (hperm.mem_iff.1 hfirst) second (hperm.mem_iff.1 hsecond)).1
  case unique =>
    intro others hothers
    have hdistinct : (others.map Hit.memoryId).Nodup := (hothers.map _).nodup_iff.2 hnodup
    constructor
    · rw [← pairwise_lt_iff_eq_rankHits hnodup ((perm_rankHits others).trans hothers)]
      exact pairwise_lt_rankHits hdistinct
    · intro path
      rw [requireRanked_eq_ok_iff_pairwise hdistinct]
      exact pairwise_lt_iff_eq_rankHits hnodup hothers

open InMemory (anvil bellows chisel village)

/-- Three hits in no order. -/
def scatteredHits : List Hit :=
  [⟨anvil, .episodic, .negativeZero⟩, ⟨bellows, .working, .zero⟩, ⟨chisel, .episodic, .one⟩]

theorem scatteredHits_sorted :
    (scatteredHits.map Hit.memoryId).Nodup ∧
      (∀ hit ∈ scatteredHits, hit.score.isNaN = false) ∧
      rankHits scatteredHits = scatteredHits.reverse := by
  have hnodup : (scatteredHits.map Hit.memoryId).Nodup := by decide
  have hnumbers : ∀ hit ∈ scatteredHits, hit.score.isNaN = false := by decide +kernel
  obtain ⟨-, -, -, hunique⟩ := sorting_agrees_with_check hnodup hnumbers
  have hchecked := (hunique _ (List.reverse_perm scatteredHits)).2 .root
  exact ⟨hnodup, hnumbers, (hchecked.1 (by decide +kernel)).symm⟩

/-! ## The order by numbers -/

instance : Std.Symm fun first second : Hit => first.ToldFrom second ∧ second.ToldFrom first where
  symm _ _ := And.symm

/-- In hits that are in order, both by words and by numbers, the identifiers tell the zeros. -/
theorem zerosTold_of_pairwise {hits : List Hit}
    (hordered : hits.Pairwise fun first second => first.compare second = .lt)
    (hleads : hits.Pairwise Hit.Leads) : ZerosTold hits := by
  have htold : hits.Pairwise fun first second =>
      first.ToldFrom second ∧ second.ToldFrom first := by
    refine (hordered.and hleads).imp ?_
    rintro first second ⟨hless, hnumbers⟩
    refine ⟨hnumbers.toldFrom, ?_⟩
    intro hzero hnegative
    -- a zero with a sign does not come before one without
    rw [Hit.compare, hzero, hnegative] at hless
    cases hless
  have hself : ∀ hit ∈ hits, hit.ToldFrom hit ∧ hit.ToldFrom hit := by
    intro hit _
    rw [and_self]
    intro hzero hnegative
    rw [hzero] at hnegative
    exact absurd hnegative (by decide)
  intro first hfirst second hsecond
  exact (htold.forall_of_forall hself hfirst hsecond).1

section Range

variable {hits : List Hit} (hrange : ∀ hit ∈ hits, InUnitInterval hit.score)

include hrange

/-- Where the identifiers tell the zeros, hits are in order if they are so by numbers. -/
theorem ZerosTold.pairwise_iff (hzeros : ZerosTold hits) {others : List Hit}
    (hsubset : others ⊆ hits) :
    (others.Pairwise fun first second => first.compare second = .lt) ↔
      others.Pairwise Hit.Leads := by
  apply List.Pairwise.iff_of_mem
  intro first second hfirst hsecond
  have hfirst := hsubset hfirst
  have hsecond := hsubset hsecond
  rw [Hit.compare_eq_lt_iff (isNaN_of_inUnitInterval (hrange first hfirst))
    (isNaN_of_inUnitInterval (hrange second hsecond))]
  exact Hit.precedes_iff_leads (isNaN_of_inUnitInterval (hrange first hfirst))
    (isNaN_of_inUnitInterval (hrange second hsecond)) (hzeros first hfirst second hsecond)
    (hzeros second hsecond first hfirst)

end Range

/-- Hits of different memories with scores in range are sorted by their scores as numbers, and those
of one score by their identifiers, exactly if the identifiers tell the zeros with a sign from those
without. If they do, a page of such hits is checked for that order. If they do not, no page passes
its check in that order. -/
theorem ties_break_by_identifier {hits : List Hit} (hnodup : (hits.map Hit.memoryId).Nodup)
    (hrange : ∀ hit ∈ hits, InUnitInterval hit.score) :
    ((rankHits hits).Pairwise Hit.Leads ↔ ZerosTold hits) ∧
    ∀ response : Response, response.hits = hits → hits.length ≤ response.totalHits.toNat →
      (ZerosTold hits →
        (Response.contract.validate response = .ok () ↔ hits.Pairwise Hit.Leads)) ∧
      (¬ ZerosTold hits →
        ¬ (Response.contract.validate response = .ok () ∧ hits.Pairwise Hit.Leads)) := by
  have hperm := perm_rankHits hits
  refine ⟨⟨?tells, ?sorts⟩, ?checks⟩
  case tells =>
    intro hleads first hfirst second hsecond
    exact zerosTold_of_pairwise (pairwise_lt_rankHits hnodup) hleads first
      (hperm.mem_iff.2 hfirst) second (hperm.mem_iff.2 hsecond)
  case sorts =>
    intro hzeros
    exact (hzeros.pairwise_iff hrange hperm.subset).1 (pairwise_lt_rankHits hnodup)
  case checks =>
    intro response hhits htotal
    rw [validate_eq_ok_iff_pairwise hnodup hrange hhits htotal]
    constructor
    · intro hzeros
      exact hzeros.pairwise_iff hrange (List.Subset.refl hits)
    · rintro hmixed ⟨hordered, hleads⟩
      exact hmixed (zerosTold_of_pairwise hordered hleads)

/-- Two hits of one score, and one of nothing. -/
def tiedHits : List Hit :=
  [⟨anvil, .episodic, .one⟩, ⟨bellows, .working, .one⟩, ⟨chisel, .episodic, .negativeZero⟩]

theorem tiedHits_broken :
    (tiedHits.map Hit.memoryId).Nodup ∧ (∀ hit ∈ tiedHits, InUnitInterval hit.score) ∧
      (rankHits tiedHits).Pairwise Hit.Leads ∧
      Response.contract.validate ⟨village, tiedHits, 3, none⟩ = .ok () := by
  have hnodup : (tiedHits.map Hit.memoryId).Nodup := by decide
  have hrange : ∀ hit ∈ tiedHits, InUnitInterval hit.score := by
    unfold InUnitInterval
    decide +kernel
  have hzeros : ZerosTold tiedHits := by
    unfold ZerosTold Hit.ToldFrom
    decide +kernel
  have hleads : tiedHits.Pairwise Hit.Leads := by
    unfold Hit.Leads
    decide +kernel
  obtain ⟨hsorted, hchecked⟩ := ties_break_by_identifier hnodup hrange
  exact ⟨hnodup, hrange, hsorted.2 hzeros, ((hchecked _ rfl (by decide)).1 hzeros).2 hleads⟩

/-- Two hits whose scores are zero as numbers. -/
def zeroHits : List Hit :=
  [⟨bellows, .episodic, .zero⟩, ⟨anvil, .episodic, .negativeZero⟩]

/-- A zero without a sign is put first, although its identifier is the greater one. A page in this
order passes its check, and one in the order of the identifiers does not. -/
theorem zeroHits_out_of_order :
    (zeroHits.map Hit.memoryId).Nodup ∧ (∀ hit ∈ zeroHits, InUnitInterval hit.score) ∧
      ¬ (rankHits zeroHits).Pairwise Hit.Leads ∧
      Response.contract.validate ⟨village, zeroHits, 2, none⟩ = .ok () ∧
      ¬ zeroHits.Pairwise Hit.Leads ∧
      Response.contract.validate ⟨village, zeroHits.reverse, 2, none⟩ ≠ .ok () ∧
      zeroHits.reverse.Pairwise Hit.Leads := by
  have hranked : rankHits zeroHits = zeroHits := by
    apply List.mergeSort_of_pairwise
    decide +kernel
  have hleads : ¬ zeroHits.Pairwise Hit.Leads := by
    unfold Hit.Leads
    decide +kernel
  refine ⟨by decide, ?_, ?_, by decide +kernel, hleads, by decide +kernel, ?_⟩
  · unfold InUnitInterval
    decide +kernel
  · rwa [hranked]
  · unfold Hit.Leads
    decide +kernel

end Recollection.Retrieval
