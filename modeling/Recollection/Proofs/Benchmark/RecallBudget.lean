import Recollection.Proofs.Benchmark.RecallBounds
import Recollection.Proofs.Benchmark.Sums
/-!
# The budget of a recall

A recall goes through the best hits and stops before the first one that would take it beyond its
budget. What it keeps is the longest front of them that the budget allows: hits behind that one are
left out even if they are smaller. A token stands for four bytes, so the tokens of an answer bound
its size up to the brackets and the commas of the list.
-/

set_option autoImplicit false

namespace Recollection.Benchmark

/-! ## The size of a list -/

/-- The items behind the first one come with a comma each, and a bracket at the end. -/
theorem utf8ByteSize_writeItems (items : List Json) :
    (String.ofList (Json.writeItems items)).utf8ByteSize =
      sumOver Json.compactSize items + items.length + 1 := by
  induction items with
  | nil => rfl
  | cons item rest ih =>
    have hcomma : String.utf8ByteSize (String.ofList [',']) = 1 := by decide
    have hwritten : Json.writeItems (item :: rest) =
        [','] ++ (item.write ++ Json.writeItems rest) := rfl
    rw [hwritten, String.ofList_append, String.ofList_append, String.utf8ByteSize_append,
      String.utf8ByteSize_append, ih, hcomma, sumOver, List.length_cons, Json.compactSize,
      Json.compact]
    omega

/-- The size of a list is that of its items, with a comma between any two and two brackets. -/
theorem compactSize_array (items : List Json) :
    (Json.array items).compactSize =
      sumOver Json.compactSize items + (items.length - 1) + 2 := by
  cases items with
  | nil => decide
  | cons item rest =>
    have hbracket : String.utf8ByteSize (String.ofList ['[']) = 1 := by decide
    have hwritten : (Json.array (item :: rest)).write =
        ['['] ++ (item.write ++ Json.writeItems rest) := rfl
    rw [Json.compactSize, Json.compact, hwritten, String.ofList_append, String.ofList_append,
      String.utf8ByteSize_append, String.utf8ByteSize_append, utf8ByteSize_writeItems, hbracket,
      sumOver, List.length_cons, Json.compactSize, Json.compact]
    omega

namespace ContractEngine

/-- The tokens of some items. -/
def totalTokens (items : List Json) : Nat :=
  sumOver tokens items

theorem compactSize_le_tokens (item : Json) : item.compactSize ≤ 4 * tokens item := by
  unfold tokens
  omega

theorem sumOver_compactSize_le (items : List Json) :
    sumOver Json.compactSize items ≤ 4 * totalTokens items := by
  induction items with
  | nil => exact Nat.le_refl 0
  | cons item rest ih =>
    have hitem := compactSize_le_tokens item
    rw [totalTokens, sumOver, sumOver, ← totalTokens]
    omega

/-- The size of a list of items by their tokens. -/
theorem compactSize_array_le (items : List Json) :
    (Json.array items).compactSize ≤ 4 * totalTokens items + items.length + 2 := by
  have hitems := sumOver_compactSize_le items
  rw [compactSize_array]
  omega

/-! ## The items within a budget -/

section Budget

variable (budget spent : Nat) (items : List Json)

/-- What is spent in the end is what the items that were kept make up. -/
theorem spent_withinBudget :
    (withinBudget budget spent items).2 =
      spent + totalTokens (withinBudget budget spent items).1 := by
  induction items generalizing spent with
  | nil => rfl
  | cons item rest ih =>
    rw [withinBudget]
    split
    · rfl
    · exact (ih _).trans (Nat.add_assoc _ _ _)

variable {budget spent}

/-- The budget is kept. -/
theorem spent_withinBudget_le (hspent : spent ≤ budget) :
    (withinBudget budget spent items).2 ≤ budget := by
  induction items generalizing spent with
  | nil => exact hspent
  | cons item rest ih =>
    rw [withinBudget]
    split
    · exact hspent
    · rename_i hfits
      exact ih (Nat.le_of_not_lt hfits)

variable {items}

/-- Whatever stands at the front of the items and is within the budget is kept. -/
theorem front_of_totalTokens_le {front : List Json} (hfront : front <+: items)
    (hwithin : spent + totalTokens front ≤ budget) :
    front <+: (withinBudget budget spent items).1 := by
  induction items generalizing spent front with
  | nil => exact hfront
  | cons item rest ih =>
    cases front with
    | nil => exact List.nil_prefix
    | cons first others =>
      obtain ⟨rfl, hothers⟩ := List.cons_prefix_cons.1 hfront
      rw [totalTokens, sumOver, ← totalTokens, ← Nat.add_assoc] at hwithin
      have hfits : ¬ budget < spent + tokens first :=
        Nat.not_lt_of_le (Nat.le_trans (Nat.le_add_right _ _) hwithin)
      rw [withinBudget, if_neg hfits]
      exact List.cons_prefix_cons.2 ⟨rfl, ih hothers hwithin⟩

end Budget

/-- Some items are all those at the front of a list that a budget allows. -/
structure IsLongestWithin (budget : Nat) (offered items : List Json) : Prop where
  /-- They stand at the front. -/
  front : items <+: offered
  /-- The budget allows them. -/
  within : totalTokens items ≤ budget
  /-- The budget allows no more of them. -/
  longest : ∀ other, other <+: offered → totalTokens other ≤ budget → other <+: items

theorem isLongestWithin_withinBudget (budget : Nat) (offered : List Json) :
    IsLongestWithin budget offered (withinBudget budget 0 offered).1 := by
  have hspent := spent_withinBudget budget 0 offered
  rw [Nat.zero_add] at hspent
  constructor
  case front => exact front_withinBudget budget 0 offered
  case within =>
    rw [← hspent]
    exact spent_withinBudget_le offered (Nat.zero_le budget)
  case longest =>
    intro other hfront hwithin
    refine front_of_totalTokens_le hfront ?_
    rwa [Nat.zero_add]

/-- There is only one such list. -/
theorem IsLongestWithin.unique {budget : Nat} {offered items others : List Json}
    (hitems : IsLongestWithin budget offered items)
    (hothers : IsLongestWithin budget offered others) : items = others := by
  have hfront := hothers.longest items hitems.front hitems.within
  have hbehind := hitems.longest others hothers.front hothers.within
  exact hfront.eq_of_length (Nat.le_antisymm hfront.length_le hbehind.length_le)

/-! ## Recalls -/

/-- What a recall answers with that finds some hits. -/
structure SpendsBudget (settings : Settings) (query : Query) (hits : List Retrieval.Hit)
    (items : List Json) (outcome : RecallOutcome) : Prop where
  /-- The items are listed. -/
  listed : outcome.items = some items
  /-- They are as many of the best hits as the budget allows, up to the bound on the items. -/
  chosen : IsLongestWithin query.tokenBudget.toNat
    ((hits.take (itemBound settings.maxLimit query)).map Retrieval.Hit.shape.encode) items
  /-- Their tokens are told. -/
  told : outcome.extra.lookup "tokens" = some (.integer (totalTokens items))
  /-- So is the number of all hits, if it is one of 64 bits. -/
  counted : hits.length < UInt64.size →
    outcome.extra.lookup "totalHits" = some (.integer hits.length)
  /-- As long as the size of an item is a number of 64 bits, so is every sum on the way. -/
  bounded : ∀ kept item, kept <+: items → item.compactSize < UInt64.size →
    totalTokens (kept ++ [item]) < UInt64.size
  /-- The size of the answer is bounded by its tokens. -/
  measured : outcome.measuredBytes ≤ 4 * totalTokens items + items.length + 2

/-- The sum that is compared with a budget stays far below the bound of a word. -/
theorem totalTokens_add_lt {budget : UInt32} {kept items : List Json} {item : Json}
    (hkept : kept <+: items) (hwithin : totalTokens items ≤ budget.toNat)
    (hitem : item.compactSize < UInt64.size) : totalTokens (kept ++ [item]) < UInt64.size := by
  obtain ⟨rest, rfl⟩ := hkept
  have hbudget := budget.toNat_lt
  have hlast : tokens item ≤ 2 ^ 62 := by
    unfold tokens
    simp only [UInt64.size] at hitem
    omega
  rw [totalTokens, sumOver_append] at hwithin ⊢
  simp only [sumOver, UInt64.size]
  omega

theorem spendsBudget_recallOutcome (settings : Settings) (spaceId : SpaceId) (query : Query)
    (hits : List Retrieval.Hit) :
    ∃ items, SpendsBudget settings query hits items (recallOutcome query (InMemory.cut spaceId 0
      (min (0 + itemBound settings.maxLimit query) hits.length) hits)) := by
  unfold recallOutcome
  rw [hits_cut_zero]
  generalize hoffered :
    (hits.take (itemBound settings.maxLimit query)).map Retrieval.Hit.shape.encode = offered
  have hchosen := isLongestWithin_withinBudget query.tokenBudget.toNat offered
  have hspent := spent_withinBudget query.tokenBudget.toNat 0 offered
  rw [Nat.zero_add] at hspent
  refine ⟨(withinBudget query.tokenBudget.toNat 0 offered).1, rfl, ?chosen, ?told, ?counted,
    ?bounded, ?measured⟩
  case chosen =>
    rw [hoffered]
    exact hchosen
  case told =>
    rw [← hspent]
    rfl
  case counted =>
    intro hcount
    show some (Json.ofUInt64 (.ofNat hits.length)) = _
    rw [Json.ofUInt64, UInt64.toNat_ofNat_of_lt' hcount]
  case bounded =>
    intro kept item hkept hitem
    exact totalTokens_add_lt hkept hchosen.within hitem
  case measured => exact compactSize_array_le _

/-- On settings that can be worked with, every visible query is answered. The answer has as many of
its best hits as both bounds allow and tells what they cost and how many hits there are; no sum on
the way overflows, and the answer is not much larger than its tokens say. -/
theorem recall_spends_budget {settings : Settings} (hsettings : settings.validate = .ok ())
    (clock : Clock) (timeOfDay : EpochMillis) (state : InMemory.State) {query : Query}
    (hquery : query.Sendable) :
    1 ≤ settings.maxLimit.toNat ∧ ∃ spaceId hits outcome items,
      Identifier.ofText .space query.storeId = .ok spaceId ∧
      InMemory.IsHitList state.store spaceId query.query hits ∧
      recollect (.inMemory settings clock) timeOfDay query state = (.ok outcome, state) ∧
      SpendsBudget settings query hits items outcome := by
  obtain ⟨-, -, hlimit⟩ := settings.validate_eq_ok_iff.1 hsettings
  have hpositive := ((Settings.isPageLimit_eq_true_iff _).1 hlimit).1
  refine ⟨UInt32.le_iff_toNat_le.1 hpositive, ?_⟩
  obtain ⟨outcome, houtcome⟩ := recollect_of_sendable settings clock timeOfDay hlimit hquery state
  rcases recollect_cases settings clock timeOfDay query state with
    ⟨fault, hfailed⟩ | ⟨spaceId, response, hspace, hanswer, hanswered⟩
  · cases hfailed.symm.trans houtcome
  · obtain ⟨offset, hoffset, -, rfl⟩ := InMemory.exists_cut_of_query hanswer
    -- a recall has no cursor, so the page starts with the best hit
    obtain rfl : 0 = offset := Except.ok.inj hoffset
    rw [toNat_limit] at hanswered
    obtain ⟨items, hspends⟩ := spendsBudget_recallOutcome settings spaceId query
      (InMemory.allHits state.store spaceId query.query)
    exact ⟨spaceId, _, _, items, hspace, InMemory.isHitList_allHits _ _ _, hanswered, hspends⟩

open InMemory (anvil bellows chisel village)

/-- Of three notes, which make up forty tokens, a query with a budget of thirty gets the first
two. -/
theorem heavyQuery_spends_budget :
    Settings.deterministic.validate = .ok () ∧ (heavyQuery 3 30).Sendable ∧
      ∃ outcome, recollect (.inMemory .deterministic .deterministic) 0 (heavyQuery 3 30)
          threeNotes = (.ok outcome, threeNotes) ∧
        SpendsBudget .deterministic (heavyQuery 3 30)
          [⟨anvil, .episodic, .one⟩, ⟨bellows, .episodic, .one⟩, ⟨chisel, .episodic, .one⟩]
          [heavyItem "anvil", heavyItem "bellows"] outcome ∧
        outcome.items = some [heavyItem "anvil", heavyItem "bellows"] ∧
        outcome.extra.lookup "tokens" = some (.integer 27) ∧
        outcome.extra.lookup "totalHits" = some (.integer 3) ∧ outcome.measuredBytes ≤ 112 := by
  have hsettings : Settings.deterministic.validate = .ok () := by decide +kernel
  have hsendable : (heavyQuery 3 30).Sendable := ⟨by decide +kernel, by decide +kernel⟩
  obtain ⟨-, spaceId, hits, outcome, items, hspace, hlist, hanswered, hspends⟩ :=
    recall_spends_budget hsettings .deterministic 0 threeNotes hsendable
  obtain rfl : village = spaceId := by
    have hvillage : Identifier.ofText .space "village" = .ok village := by decide +kernel
    exact Except.ok.inj (hvillage.symm.trans hspace)
  obtain rfl := hlist.eq_allHits.trans allHits_threeNotes
  have hlongest : IsLongestWithin 30 [heavyItem "anvil", heavyItem "bellows", heavyItem "chisel"]
      [heavyItem "anvil", heavyItem "bellows"] := by
    have hkept : (withinBudget 30 0 [heavyItem "anvil", heavyItem "bellows",
        heavyItem "chisel"]).1 = [heavyItem "anvil", heavyItem "bellows"] := by
      decide +kernel
    rw [← hkept]
    exact isLongestWithin_withinBudget 30 _
  obtain rfl := hspends.chosen.unique hlongest
  have htokens : totalTokens [heavyItem "anvil", heavyItem "bellows"] = 27 := by decide +kernel
  have htold := hspends.told
  have hmeasured := hspends.measured
  rw [htokens] at htold hmeasured
  exact ⟨hsettings, hsendable, outcome, hanswered, hspends, hspends.listed, htold,
    hspends.counted (by decide), hmeasured⟩

end ContractEngine

end Recollection.Benchmark
