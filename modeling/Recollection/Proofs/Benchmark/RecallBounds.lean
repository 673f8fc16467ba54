import Recollection.Proofs.Benchmark.Capture
/-!
# The bounds of a recall

A recall cuts the best hits twice: at the limit of its retrieval, and where the budget is spent. The
limit is what the query asks for, fitted to what a retrieval may ask for. As no retrieval may ask
for nothing, a query for no items is answered like one for a single item.
-/

set_option autoImplicit false

namespace Recollection.Benchmark

namespace ContractEngine

/-! ## The two cuts -/

/-- The items within a budget are those at the front. -/
theorem front_withinBudget (budget spent : Nat) (items : List Json) :
    (withinBudget budget spent items).1 <+: items := by
  induction items generalizing spent with
  | nil => exact List.nil_prefix
  | cons item rest ih =>
    rw [withinBudget]
    split
    · exact List.nil_prefix
    · exact List.cons_prefix_cons.2 ⟨rfl, ih _⟩

/-- A single item is within a budget if its tokens are. -/
theorem withinBudget_toList (budget : Nat) (item? : Option Json) :
    (withinBudget budget 0 item?.toList).1 =
      (item?.filter fun item => tokens item ≤ budget).toList := by
  cases item? with
  | none => rfl
  | some item =>
    show (withinBudget budget 0 [item]).1 = _
    rw [withinBudget, withinBudget, Nat.zero_add, Option.filter_some]
    by_cases hfits : tokens item ≤ budget
    · simp [hfits, Nat.not_lt_of_le hfits]
    · simp [hfits, Nat.lt_of_not_le hfits]

/-- The greatest number of hits that a query is answered from. -/
def itemBound (maxLimit : UInt32) (query : Query) : Nat :=
  min (max query.maxItems.toNat 1) maxLimit.toNat

theorem toNat_limit (maxLimit : UInt32) (spaceId : SpaceId) (query : Query) :
    (retrieval maxLimit spaceId query).limit.toNat = itemBound maxLimit query := by
  show (min (max query.maxItems 1) maxLimit).toNat = _
  rw [UInt32.toNat_min, UInt32.toNat_max]
  rfl

/-- A page that starts with the best hit has as many of the best hits as it is large. -/
theorem hits_cut_zero (spaceId : SpaceId) (limit : Nat) (hits : List Retrieval.Hit) :
    (InMemory.cut spaceId 0 (min (0 + limit) hits.length) hits).hits = hits.take limit := by
  show List.extract hits 0 _ = _
  rw [List.extract_eq_take_drop, List.drop_zero, Nat.sub_zero, Nat.zero_add,
    ← List.take_eq_take_min]

/-- The items that a query can be answered with, the best first. -/
def candidates (store : Store) (query : Query) : List Json :=
  match Identifier.ofText .space query.storeId with
  | .error _ => []
  | .ok spaceId =>
    (InMemory.allHits store spaceId query.query).map Retrieval.Hit.shape.encode

section Recall

variable {settings : Settings} {clock : Clock} {timeOfDay : EpochMillis} {query : Query}
  {state after : InMemory.State} {outcome : RecallOutcome}

/-- What a recall answers with. -/
theorem items_of_recollect
    (hok : recollect (.inMemory settings clock) timeOfDay query state = (.ok outcome, after)) :
    outcome.items = some (withinBudget query.tokenBudget.toNat 0
      ((candidates state.store query).take (itemBound settings.maxLimit query))).1 := by
  rcases recollect_cases settings clock timeOfDay query state with
    ⟨fault, hfailed⟩ | ⟨spaceId, response, hspace, hanswer, hanswered⟩
  · rw [hfailed] at hok
    cases hok
  · rw [hanswered] at hok
    obtain rfl := Except.ok.inj (congrArg Prod.fst hok)
    obtain ⟨offset, hoffset, -, rfl⟩ := InMemory.exists_cut_of_query hanswer
    -- a recall has no cursor, so the page starts with the best hit
    obtain rfl : 0 = offset := Except.ok.inj hoffset
    rw [candidates, hspace, toNat_limit, ← List.map_take, ← hits_cut_zero]
    rfl

/-- What is to be said of the items that a query is answered with. -/
structure WithinBounds (settings : Settings) (store : Store) (query : Query) (items : List Json) :
    Prop where
  /-- They are the best there are. -/
  best : items <+: candidates store query
  /-- They fit on a page. -/
  page : items.length ≤ settings.maxLimit.toNat
  /-- If any were asked for, they are no more than that. -/
  asked : query.maxItems ≠ 0 → items.length ≤ query.maxItems.toNat
  /-- If none were asked for, there is still the best one, provided that it is within the budget. -/
  unasked : query.maxItems = 0 → items =
    ((candidates store query).head?.filter fun item =>
      tokens item ≤ query.tokenBudget.toNat).toList

theorem withinBounds_of_recollect (hlimit : Settings.isPageLimit settings.maxLimit = true)
    (hok : recollect (.inMemory settings clock) timeOfDay query state = (.ok outcome, after)) :
    ∃ items, outcome.items = some items ∧ WithinBounds settings state.store query items := by
  refine ⟨_, items_of_recollect hok, ?_⟩
  have hfront := front_withinBudget query.tokenBudget.toNat 0
    ((candidates state.store query).take (itemBound settings.maxLimit query))
  have hlength : _ ≤ itemBound settings.maxLimit query :=
    Nat.le_trans hfront.length_le (List.length_take_le _ _)
  constructor
  case best => exact hfront.trans (List.take_prefix _ _)
  case page => exact Nat.le_trans hlength (Nat.min_le_right _ _)
  case asked =>
    intro hasked
    have hpositive : 1 ≤ query.maxItems.toNat :=
      Nat.one_le_iff_ne_zero.2 fun hzero => hasked (UInt32.toNat_inj.1 hzero)
    have hbound : itemBound settings.maxLimit query ≤ max query.maxItems.toNat 1 :=
      Nat.min_le_left _ _
    rw [Nat.max_eq_left hpositive] at hbound
    exact Nat.le_trans hlength hbound
  case unasked =>
    intro hunasked
    have hone : itemBound settings.maxLimit query = 1 := by
      have hpositive := ((Settings.isPageLimit_eq_true_iff _).1 hlimit).1
      rw [itemBound, hunasked]
      exact Nat.min_eq_left (UInt32.le_iff_toNat_le.1 hpositive)
    rw [hone, List.take_one]
    exact withinBudget_toList _ _

end Recall

/-- On settings that can be worked with, a visible query is answered. The items of an answer are no
more than the query asks for, if it asks for any, and they fit on a page; where it asks for none, it
may still get the best one. -/
theorem recall_within_bounds {settings : Settings} (hsettings : settings.validate = .ok ())
    (clock : Clock) (timeOfDay : EpochMillis) (query : Query) (state : InMemory.State) :
    (query.Sendable → ∃ outcome, recollect (.inMemory settings clock) timeOfDay query state =
      (.ok outcome, state)) ∧
    ∀ outcome after,
      recollect (.inMemory settings clock) timeOfDay query state = (.ok outcome, after) →
        ∃ items, outcome.items = some items ∧ WithinBounds settings state.store query items := by
  obtain ⟨-, -, hlimit⟩ := settings.validate_eq_ok_iff.1 hsettings
  constructor
  · intro hquery
    exact recollect_of_sendable settings clock timeOfDay hlimit hquery state
  · intro outcome after
    exact withinBounds_of_recollect hlimit

/-- A note of one word. -/
def heavyNote (eventId : String) : Event :=
  ⟨"village", eventId, .episodic, 0, "heavy"⟩

/-- The state of the services once some notes were taken in. -/
def heavyState (eventIds : List String) : InMemory.State :=
  Run.final (overMemory .deterministic .deterministic 0).perform
    (eventIds.map fun eventId => .ingest (heavyNote eventId)) .empty

/-- A query for them, with bounds on the items and on the tokens. -/
def heavyQuery (maxItems tokenBudget : UInt32) : Query :=
  ⟨"village", "heavy", maxItems, tokenBudget⟩

/-- The state with three notes. -/
def threeNotes : InMemory.State :=
  heavyState ["anvil", "bellows", "chisel"]

/-- What a note is recalled as. -/
def heavyItem (eventId : String) : Json :=
  .object [("memoryId", .string eventId), ("layer", .string "episodic"), ("score", .double .one)]

open InMemory (anvil bellows chisel village)

/-- Three notes answer the query, equally well. -/
theorem allHits_threeNotes :
    InMemory.allHits threeNotes.store village "heavy" =
      [⟨anvil, .episodic, .one⟩, ⟨bellows, .episodic, .one⟩, ⟨chisel, .episodic, .one⟩] := by
  have hfound : ((threeNotes.store.inSpace village).filterMap fun entry =>
      InMemory.hit? (.ofText "heavy") entry.1 entry.2) =
        [⟨anvil, .episodic, .one⟩, ⟨bellows, .episodic, .one⟩, ⟨chisel, .episodic, .one⟩] := by
    decide +kernel
  refine (congrArg Retrieval.rankHits hfound).trans ?_
  rw [Retrieval.rankHits, List.mergeSort_of_pairwise]
  decide +kernel

/-- The items that the query can be answered with. -/
theorem candidates_threeNotes (maxItems tokenBudget : UInt32) :
    candidates threeNotes.store (heavyQuery maxItems tokenBudget) =
      [heavyItem "anvil", heavyItem "bellows", heavyItem "chisel"] := by
  have hspace : Identifier.ofText .space "village" = .ok village := by decide +kernel
  rw [candidates, heavyQuery, hspace]
  dsimp only
  rw [allHits_threeNotes]
  rfl

/-- Of three notes a query for two items gets the first two. -/
theorem heavyQuery_within_bounds :
    ∃ outcome, recollect (.inMemory .deterministic .deterministic) 0 (heavyQuery 2 512)
        threeNotes = (.ok outcome, threeNotes) ∧
      candidates threeNotes.store (heavyQuery 2 512) =
        [heavyItem "anvil", heavyItem "bellows", heavyItem "chisel"] ∧
      outcome.items = some [heavyItem "anvil", heavyItem "bellows"] ∧
      WithinBounds .deterministic threeNotes.store (heavyQuery 2 512)
        [heavyItem "anvil", heavyItem "bellows"] := by
  have hsettings : Settings.deterministic.validate = .ok () := by decide +kernel
  have hcandidates := candidates_threeNotes 2 512
  obtain ⟨hanswered, hbounds⟩ :=
    recall_within_bounds hsettings .deterministic 0 (heavyQuery 2 512) threeNotes
  obtain ⟨outcome, houtcome⟩ := hanswered ⟨by decide +kernel, by decide +kernel⟩
  have htwo : outcome.items = some [heavyItem "anvil", heavyItem "bellows"] := by
    rw [items_of_recollect houtcome, hcandidates]
    decide +kernel
  obtain ⟨items, hitems, hwithin⟩ := hbounds outcome _ houtcome
  obtain rfl := Option.some.inj (htwo.symm.trans hitems)
  exact ⟨outcome, houtcome, hcandidates, htwo, hwithin⟩

/-- A query for no items gets one. -/
theorem heavyQuery_beyond_bound :
    Settings.deterministic.validate = .ok () ∧
      ∃ outcome items, recollect (.inMemory .deterministic .deterministic) 0 (heavyQuery 0 512)
          (heavyState ["anvil"]) = (.ok outcome, heavyState ["anvil"]) ∧
        outcome.items = some items ∧ ¬ items.length ≤ (heavyQuery 0 512).maxItems.toNat := by
  refine ⟨by decide +kernel, ?_⟩
  have hcount : ((recollect (.inMemory .deterministic .deterministic) 0 (heavyQuery 0 512)
      (heavyState ["anvil"])).1.toOption.bind RecallOutcome.items).map List.length = some 1 := by
    decide +kernel
  have hsendable : (heavyQuery 0 512).Sendable := ⟨by decide +kernel, by decide +kernel⟩
  obtain ⟨outcome, houtcome⟩ := recollect_of_sendable .deterministic .deterministic 0 (by decide)
    hsendable (heavyState ["anvil"])
  rw [houtcome] at hcount
  obtain ⟨items, hitems, hone⟩ := Option.map_eq_some_iff.1 hcount
  refine ⟨outcome, items, houtcome, hitems, ?_⟩
  rw [hone]
  decide

end ContractEngine

end Recollection.Benchmark
