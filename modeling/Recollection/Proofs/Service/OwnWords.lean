import Recollection.Proofs.Service.Ranking
import Recollection.Proofs.Text.StableWords
/-!
# Finding a memory by its own words

The words that a memory was indexed with are read again when they are used as a query. Words without
a dot above are read as they are, so a memory is found by them with a score of one; so it is by any
text in its payload. A word with such a dot falls into pieces when it is read, and the memory is
found in full only if it was indexed with them too.
-/

set_option autoImplicit false

namespace Recollection.InMemory

open Retrieval (Hit)

/-! ## Scores of one -/

/-- A memory is among some hits, and its score is one. -/
structure FoundInFull (id : MemoryId) (hits : List Hit) : Prop where
  /-- It is among the hits. -/
  found : ∃ hit ∈ hits, hit.memoryId = id
  /-- Its score is one. -/
  full : ∀ hit ∈ hits, hit.memoryId = id → hit.score = .one

section Score

variable {store : Store} {spaceId : SpaceId} {id : MemoryId} {memory : StoredMemory}
  (hcurrent : TermsCurrent store) (hlive : store.get? ⟨spaceId, id⟩ = some memory)

include hlive

/-- The hit of a memory is the one that it makes. -/
theorem hit?_of_mem_allHits {text : String} {hit : Hit} (hmem : hit ∈ allHits store spaceId text)
    (hid : hit.memoryId = id) : hit? (.ofText text) id memory = some hit := by
  subst hid
  obtain ⟨found, hfound, hmade⟩ := (mem_allHits_iff _ _ _ _).1 hmem
  obtain rfl := Option.some.inj (hfound.symm.trans hlive)
  exact hmade

include hcurrent

/-- The words that a memory is indexed with are those of its payload. -/
theorem elements_terms : memory.terms.elements = memory.payload.wordSet := by
  rw [hcurrent _ _ hlive, Terms.elements_ofDocument]

variable {text : String} (hwords : Text.words text ≠ [])

include hwords

theorem foundInFull_of_subset (hsubset : Text.wordSet text ⊆ memory.payload.wordSet) :
    FoundInFull id (allHits store spaceId text) := by
  have hscore : (Terms.ofText text).overlap memory.terms = .one := by
    rw [overlap_eq_sharedWords hcurrent hlive, (Terms.sharedWords_eq_iff _ _).2 hsubset,
      Binary64.share_whole ((Terms.ncard_wordSet_pos_iff text).2 hwords)]
  have hmade : hit? (.ofText text) id memory = some ⟨id, memory.layer, .one⟩ := by
    rw [hit?_eq_some_iff, hscore]
    exact ⟨by decide, rfl⟩
  constructor
  case found =>
    exact ⟨⟨id, memory.layer, .one⟩, (mem_allHits_iff _ _ _ _).2 ⟨memory, hlive, hmade⟩, rfl⟩
  case full =>
    intro hit hmem hid
    obtain rfl := Option.some.inj (hmade.symm.trans (hit?_of_mem_allHits hlive hmem hid))
    rfl

/-- A memory is found in full exactly when it has all words of the query, as long as they are not
too many for scores to tell. -/
theorem foundInFull_iff (hfew : (Text.wordSet text).ncard < 2 ^ 52) :
    FoundInFull id (allHits store spaceId text) ↔
      Text.wordSet text ⊆ memory.payload.wordSet := by
  constructor
  · rintro ⟨⟨hit, hmem, hid⟩, hfull⟩
    obtain ⟨-, hhit⟩ := (hit?_eq_some_iff _ _ _ _).1 (hit?_of_mem_allHits hlive hmem hid)
    have hscore : (Terms.ofText text).overlap memory.terms = .one := by
      rw [← hfull hit hmem hid, hhit]
    rw [overlap_eq_sharedWords hcurrent hlive, Binary64.share_eq_one_iff
      ((Terms.ncard_wordSet_pos_iff text).2 hwords) hfew (Terms.sharedWords_le _ _)] at hscore
    exact (Terms.sharedWords_eq_iff _ _).1 hscore
  · exact foundInFull_of_subset hcurrent hlive hwords

end Score

/-! ## Own words as a query -/

/-- Limits that the contract and the service allow. -/
def Allowed (maxLimit : UInt32) (limits : Nat → UInt32) : Prop :=
  ∀ index, 1 ≤ limits index ∧ limits index ≤ maxLimit ∧ limits index ≤ Retrieval.maxLimit

/-- The hits that a client finds that reads all pages of a query. -/
def Finds (maxLimit : UInt32) (store : Store) (spaceId : SpaceId) (text : String)
    (limits : Nat → UInt32) (hits : List Hit) : Prop :=
  ∃ pages, Walk (askPage maxLimit store spaceId text limits) 0 none pages ∧
    pages.flatMap Retrieval.Response.hits = hits

theorem finds_allHits {maxLimit : UInt32} {store : Store} (spaceId : SpaceId) {text : String}
    {limits : Nat → UInt32} (hallowed : Allowed maxLimit limits)
    (hsize : store.size < UInt64.size) (hwords : Text.words text ≠ []) :
    Finds maxLimit store spaceId text limits (allHits store spaceId text) := by
  have haskable : Askable maxLimit text limits := ⟨Text.isBlankText_of_words hwords, hallowed⟩
  have hpoints := pointsAt_none (allHits store spaceId text).length
  obtain ⟨pages, hwalk⟩ := exists_walk haskable hsize 0 hpoints
  exact ⟨pages, hwalk, flatMap_hits_of_walk haskable hsize hpoints hwalk⟩

/-- What is read of some words with dots above is indexed with a memory. -/
def PiecesIndexed (memory : StoredMemory) (chosen : List String) : Prop :=
  ∀ word ∈ chosen, Text.dotAbove ∈ word.toList →
    ∀ piece ∈ Text.words word, piece ∈ memory.terms.toList

section Chosen

variable {memory : StoredMemory} {chosen : List String}
  (hindexed : ∀ word ∈ chosen, word ∈ memory.payload.wordSet)

include hindexed

/-- A word of a payload is a word of one of its texts. -/
theorem isIndexWord_of_chosen {word : String} (hmem : word ∈ chosen) :
    ∃ text, Text.IsIndexWord text word := by
  obtain ⟨text, -, hword⟩ := hindexed word hmem
  exact ⟨text, Text.isIndexWord_of_mem_words ((Text.mem_words_iff text word).2 hword)⟩

theorem words_chosen_ne_nil (hchosen : chosen ≠ []) :
    Text.words (" ".intercalate chosen) ≠ [] := by
  obtain ⟨first, rest, rfl⟩ := List.exists_cons_of_ne_nil hchosen
  obtain ⟨text, hfirst⟩ := isIndexWord_of_chosen hindexed List.mem_cons_self
  rw [Text.words_intercalate, List.flatMap_cons]
  exact List.append_ne_nil_of_left_ne_nil hfirst.readable _

/-- What is read of indexed words in a row is indexed as soon as the pieces of those with dots
are. -/
theorem wordSet_chosen_subset_iff :
    Text.wordSet (" ".intercalate chosen) ⊆ memory.payload.wordSet ↔
      ∀ word ∈ chosen, Text.dotAbove ∈ word.toList →
        ∀ piece ∈ Text.words word, piece ∈ memory.payload.wordSet := by
  have hread : ∀ piece, piece ∈ Text.wordSet (" ".intercalate chosen) ↔
      ∃ word ∈ chosen, piece ∈ Text.words word := by
    intro piece
    rw [← Text.mem_words_iff, Text.words_intercalate, List.mem_flatMap]
  constructor
  · intro hsubset word hmem _ piece hpiece
    exact hsubset ((hread piece).2 ⟨word, hmem, hpiece⟩)
  · intro hpieces piece hpiece
    obtain ⟨word, hmem, hword⟩ := (hread piece).1 hpiece
    by_cases hdot : Text.dotAbove ∈ word.toList
    · exact hpieces word hmem hdot piece hword
    · obtain ⟨text, hindex⟩ := isIndexWord_of_chosen hindexed hmem
      rw [hindex.stable.2 hdot, List.mem_singleton] at hword
      rw [hword]
      exact hindexed word hmem

end Chosen

/-- How a memory is found by its own words. -/
structure FoundByOwnWords (maxLimit : UInt32) (store : Store) (limits : Nat → UInt32)
    (spaceId : SpaceId) (id : MemoryId) (memory : StoredMemory) : Prop where
  /-- By words that it is indexed with, it is found in full if the pieces of those with dots are
  indexed too, and only then if the words are not too many for scores to tell. -/
  indexed : ∀ chosen, chosen ≠ [] → (∀ word ∈ chosen, word ∈ memory.terms.toList) →
    ∃ hits, Finds maxLimit store spaceId (" ".intercalate chosen) limits hits ∧
      (PiecesIndexed memory chosen → FoundInFull id hits) ∧
      ((Text.wordSet (" ".intercalate chosen)).ncard < 2 ^ 52 → FoundInFull id hits →
        PiecesIndexed memory chosen)
  /-- By a text in its payload that has a word, it is found in full. -/
  payload : ∀ text, Json.Holds text memory.payload → Text.words text ≠ [] →
    ∃ hits, Finds maxLimit store spaceId text limits hits ∧ FoundInFull id hits

theorem foundByOwnWords {maxLimit : UInt32} {store : Store} {limits : Nat → UInt32}
    (hallowed : Allowed maxLimit limits) (hsize : store.size < UInt64.size)
    (hcurrent : TermsCurrent store) {spaceId : SpaceId} {id : MemoryId} {memory : StoredMemory}
    (hlive : store.get? ⟨spaceId, id⟩ = some memory) :
    FoundByOwnWords maxLimit store limits spaceId id memory := by
  have hterms : ∀ word, word ∈ memory.terms.toList ↔ word ∈ memory.payload.wordSet := by
    intro word
    rw [SortedSet.mem_toList_iff, elements_terms hcurrent hlive]
  constructor
  case indexed =>
    intro chosen hchosen hmem
    simp only [hterms] at hmem
    have hwords := words_chosen_ne_nil hmem hchosen
    have hpieces : PiecesIndexed memory chosen ↔
        Text.wordSet (" ".intercalate chosen) ⊆ memory.payload.wordSet := by
      rw [wordSet_chosen_subset_iff hmem]
      simp only [PiecesIndexed, hterms]
    refine ⟨_, finds_allHits spaceId hallowed hsize hwords, ?_, ?_⟩
    · intro hindexed
      exact foundInFull_of_subset hcurrent hlive hwords (hpieces.1 hindexed)
    · intro hfew hfull
      exact hpieces.2 ((foundInFull_iff hcurrent hlive hwords hfew).1 hfull)
  case payload =>
    intro text hholds hwords
    have hsubset : Text.wordSet text ⊆ memory.payload.wordSet :=
      fun word hword => ⟨text, hholds, hword⟩
    exact ⟨_, finds_allHits spaceId hallowed hsize hwords,
      foundInFull_of_subset hcurrent hlive hwords hsubset⟩

/-- Every word of a text is an alphanumeric text that is read as the same word again, up to the dots
above that come from dotted capitals. So in every state that can be reached, a memory is found in
full by words that it is indexed with, as long as what is read of words with dots is indexed too;
and it is found in full by every text in its payload that has a word. -/
theorem own_words_find_memory :
    (∀ text, ∀ word ∈ Text.words text, Text.IsIndexWord text word) ∧
    ∀ (settings : Settings) (clock : Clock) (moves : List Move) (limits : Nat → UInt32),
      Allowed settings.maxLimit limits →
      (systemAfter settings clock moves).state.store.size < UInt64.size →
      ∀ spaceId id memory,
        (systemAfter settings clock moves).state.store.get? ⟨spaceId, id⟩ = some memory →
        FoundByOwnWords settings.maxLimit (systemAfter settings clock moves).state.store limits
          spaceId id memory := by
  constructor
  · intro text word hmem
    exact Text.isIndexWord_of_mem_words hmem
  · intro settings clock moves limits hallowed hsize spaceId id memory hlive
    exact foundByOwnWords hallowed hsize
      (termsCurrent_of_follows (follows_schedule settings clock moves)) hlive

/-- A memory of the small run is found by the word that it is indexed with. -/
theorem anvil_found_by_word :
    ∃ memory,
      (systemAfter .deterministic .deterministic smithyIntake).state.store.get? ⟨village, anvil⟩ =
        some memory ∧ memory.terms.toList = ["heavy"] ∧
      ∃ hits, Finds Settings.deterministic.maxLimit
          (systemAfter .deterministic .deterministic smithyIntake).state.store village "heavy"
          (fun _ => 1) hits ∧ FoundInFull anvil hits := by
  have hone : (1 : UInt32) ≤ 1 ∧ 1 ≤ Settings.deterministic.maxLimit ∧ 1 ≤ Retrieval.maxLimit := by
    decide
  have hallowed : Allowed Settings.deterministic.maxLimit fun _ => 1 := fun _ => hone
  have hsize : (systemAfter .deterministic .deterministic smithyIntake).state.store.size <
      UInt64.size := by
    decide +kernel
  have hindexed : ((systemAfter .deterministic .deterministic smithyIntake).state.store.get?
      ⟨village, anvil⟩).map (fun memory => memory.terms.toList) = some ["heavy"] := by
    decide +kernel
  obtain ⟨memory, hlive, hterms⟩ := Option.map_eq_some_iff.1 hindexed
  obtain ⟨hits, hfinds, hfull, -⟩ := (own_words_find_memory.2 .deterministic .deterministic
    smithyIntake (fun _ => 1) hallowed hsize village anvil memory hlive).indexed ["heavy"]
    (by decide) (by simp [hterms])
  refine ⟨memory, hlive, hterms, hits, hfinds, hfull ?_⟩
  intro word hword hdot
  rw [List.mem_singleton.1 hword] at hdot
  exact absurd hdot (by decide)

/-- The state after a text that is a single dotted capital was written. -/
def dottedState : State :=
  (systemAfter .deterministic .deterministic
    [.call ⟨0, .upsert ⟨village, anvil, .episodic, .string "\u0130", none⟩⟩]).state

/-- Its word has a dot above, so it is not alphanumeric and read as another word. A query with the
word that the memory is indexed with does not find it. -/
theorem dottedCapital_not_found :
    Text.words "\u0130" = ["i\u0307"] ∧ (∃ c ∈ "i\u0307".toList, Text.isAlphanumeric c = false) ∧
      Text.words "i\u0307" = ["i"] ∧
    ∃ memory, dottedState.store.get? ⟨village, anvil⟩ = some memory ∧
      memory.terms.toList = ["i\u0307"] ∧
      Finds Settings.deterministic.maxLimit dottedState.store village (" ".intercalate ["i\u0307"])
        (fun _ => 1) [] ∧ ¬ FoundInFull anvil [] := by
  have hindexed : (dottedState.store.get? ⟨village, anvil⟩).map
      (fun memory => memory.terms.toList) = some ["i\u0307"] := by
    decide +kernel
  obtain ⟨memory, hlive, hterms⟩ := Option.map_eq_some_iff.1 hindexed
  have hpage : askPage Settings.deterministic.maxLimit dottedState.store village
      (" ".intercalate ["i\u0307"]) (fun _ => 1) 0 none = .ok ⟨village, [], 0, none⟩ := by
    decide +kernel
  refine ⟨by decide +kernel, ⟨'\u0307', by decide, by decide +kernel⟩, by decide +kernel, memory,
    hlive, hterms, ⟨_, .last hpage rfl, rfl⟩, ?_⟩
  rintro ⟨⟨hit, hmem, -⟩, -⟩
  cases hmem

end Recollection.InMemory
