import Recollection.Proofs.Memory.Terms
import Recollection.Proofs.Service.Paging
import Recollection.Proofs.Service.Schedule
/-!
# Ranking

A memory answers a query if a string in its payload has a word of the query. The more words they
share, the better the memory ranks, and of memories that share equally many the one with the lesser
identifier is first. Scores are shares of the words of the query, rounded; for fewer words than a
score has digits, rounding keeps them apart.
-/

set_option autoImplicit false

namespace Recollection.InMemory

open Retrieval (Hit)

/-! ## Ranks -/

/-- The hit that a memory makes, by the words that it shares with a text. -/
noncomputable def hitOf (text : String) (found : MemoryId × StoredMemory) : Hit :=
  ⟨found.1, found.2.layer,
    .share (Text.sharedWords text found.2.payload) (Text.wordSet text).ncard⟩

/-- Whether a memory ranks before another one: it shares more words with the text, or as many and
its identifier is less. -/
def RanksBefore (text : String) (first second : MemoryId × StoredMemory) : Prop :=
  Text.sharedWords text second.2.payload < Text.sharedWords text first.2.payload ∨
    Text.sharedWords text first.2.payload = Text.sharedWords text second.2.payload ∧
      compare first.1 second.1 = .lt

theorem compare_hitOf_eq_lt_iff {text : String} (hwords : (Text.wordSet text).ncard < 2 ^ 52)
    (first second : MemoryId × StoredMemory) :
    (hitOf text first).compare (hitOf text second) = .lt ↔ RanksBefore text first second := by
  have hfirst := Terms.sharedWords_le text first.2.payload
  have hsecond := Terms.sharedWords_le text second.2.payload
  have hless := Binary64.rank_share_lt_iff hwords hsecond hfirst
  have hgreater := Binary64.rank_share_lt_iff hwords hfirst hsecond
  rw [Hit.compare, Ordering.then_eq_lt, RanksBefore]
  refine or_congr ?_ (and_congr_left' ?_)
  · rw [Std.compare_eq_lt]
    exact hless
  · rw [Std.compare_eq_iff_eq]
    show (Binary64.share _ _).rank = (Binary64.share _ _).rank ↔ _
    constructor
    · intro hsame
      omega
    · intro hsame
      rw [hsame]

/-- The memories of a space that share a word with a text, each of them once, by their ranks. -/
structure IsRanking (store : Store) (spaceId : SpaceId) (text : String)
    (ranking : List (MemoryId × StoredMemory)) : Prop where
  /-- They are the live memories of the space in whose payload there is a word of the text. -/
  mem_iff : ∀ id memory, (id, memory) ∈ ranking ↔
    store.get? ⟨spaceId, id⟩ = some memory ∧
      (Text.wordSet text ∩ memory.payload.wordSet).Nonempty
  /-- Each one ranks before those that come after it. -/
  ordered : ranking.Pairwise (RanksBefore text)

/-! ## Hits by rank -/

/-- The memories of a space that answer a text, by their ranks. -/
noncomputable def rankingOf (store : Store) (spaceId : SpaceId) (text : String) :
    List (MemoryId × StoredMemory) :=
  ((store.inSpace spaceId).filter fun found =>
    (hit? (.ofText text) found.1 found.2).isSome).mergeSort
      fun first second => (hitOf text first).notAfter (hitOf text second)

/-- Whether every live memory of a store carries the words of its payload. -/
def TermsCurrent (store : Store) : Prop :=
  ∀ key memory, store.get? key = some memory → memory.terms = .ofDocument memory.payload

/-- Terms are made with the write that makes the memory, so they are never out of date. -/
theorem termsCurrent_of_follows {store : Store} {history : History}
    (hfollows : store.Follows history) : TermsCurrent store := by
  intro key memory hlive
  rw [hfollows.get?_eq] at hlive
  obtain ⟨write, -, rfl⟩ := History.live?_eq_some_iff.1 hlive
  rfl

section Ranking

variable {store : Store} {text : String} (hcurrent : TermsCurrent store)
  (hwords : (Text.wordSet text).ncard < 2 ^ 52)

include hcurrent in
theorem overlap_eq_sharedWords {key : MemoryKey} {memory : StoredMemory}
    (hlive : store.get? key = some memory) :
    (Terms.ofText text).overlap memory.terms =
      .share (Text.sharedWords text memory.payload) (Text.wordSet text).ncard := by
  rw [hcurrent key memory hlive, Terms.overlap_eq_share, Terms.sharedSize_eq_sharedWords,
    Terms.size_ofText]

include hcurrent hwords

theorem hit?_eq_some_iff_shares {key : MemoryKey} {memory : StoredMemory}
    (hlive : store.get? key = some memory) (id : MemoryId) (hit : Hit) :
    hit? (.ofText text) id memory = some hit ↔
      (Text.wordSet text ∩ memory.payload.wordSet).Nonempty ∧ hit = hitOf text (id, memory) := by
  rw [hit?_eq_some_iff, overlap_eq_sharedWords hcurrent hlive,
    Binary64.zero_lt_share_iff hwords (Terms.sharedWords_le _ _), Terms.sharedWords_pos_iff]
  rfl

/-- All hits of a query, in order, are those of the memories that answer it, by their ranks. -/
theorem map_hitOf_rankingOf (spaceId : SpaceId) :
    (rankingOf store spaceId text).map (hitOf text) = allHits store spaceId text := by
  rw [rankingOf, List.map_mergeSort, allHits, Retrieval.rankHits]
  · congr 1
    rw [← List.filterMap_eq_map, List.filterMap_filter]
    apply List.filterMap_congr
    rintro ⟨id, memory⟩ hmem
    have hlive := (store.mem_inSpace_iff _ _ _).1 hmem
    have hmade := hit?_eq_some_iff_shares hcurrent hwords hlive id
    rcases Option.eq_none_or_eq_some (hit? (.ofText text) id memory) with hnone | ⟨hit, hsome⟩
    · simp [hnone]
    · obtain ⟨-, rfl⟩ := (hmade hit).1 hsome
      simp [hsome]
  · intro _ _ _ _
    rfl

theorem isRanking_rankingOf (spaceId : SpaceId) :
    IsRanking store spaceId text (rankingOf store spaceId text) := by
  constructor
  case mem_iff =>
    intro id memory
    rw [rankingOf, List.mem_mergeSort, List.mem_filter, Store.mem_inSpace_iff,
      Option.isSome_iff_exists]
    refine and_congr_right ?_
    intro hlive
    simp only [hit?_eq_some_iff_shares hcurrent hwords hlive, exists_and_left, exists_eq, and_true]
  case ordered =>
    have hordered := pairwise_allHits store spaceId text
    rw [← map_hitOf_rankingOf hcurrent hwords, List.pairwise_map] at hordered
    exact hordered.imp (compare_hitOf_eq_lt_iff hwords _ _).1

end Ranking

/-! ## Queries by rank -/

/-- Whether a cursor asks for the hits from a position on: it is a numeral of the position, and
without a cursor the hits are asked for from the first one on. -/
def AsksFor (cursor : Option String) (position : Nat) : Prop :=
  match cursor with
  | none => position = 0
  | some text => Numeral.IsNumeral text.toList position

theorem offset?_eq_ok_iff {cursor : Option String} {position : Nat} :
    offset? cursor = .ok position ↔ AsksFor cursor position ∧ position < UInt64.size := by
  cases cursor with
  | none =>
    simp only [offset?, AsksFor, Except.ok.injEq]
    constructor
    · rintro rfl
      exact ⟨rfl, by decide⟩
    · rintro ⟨rfl, -⟩
      rfl
  | some text =>
    constructor
    · intro hoffset
      unfold offset? at hoffset
      dsimp only at hoffset
      split at hoffset
      · rename_i number hread
        obtain rfl := Except.ok.inj hoffset
        exact ⟨Numeral.readUInt64?_eq_some_iff.1 hread, number.toNat_lt⟩
      · cases hoffset
    · rintro ⟨hnumeral, hless⟩
      have hposition := UInt64.toNat_ofNat_of_lt' hless
      have hread : Numeral.readUInt64? text = some (.ofNat position) := by
        rw [Numeral.readUInt64?_eq_some_iff, hposition]
        exact hnumeral
      rw [offset?, hread]
      exact congrArg _ hposition

/-- How a query is answered from a ranking. -/
structure AnswersRanking (request : Retrieval.Request) (ranking : List (MemoryId × StoredMemory))
    (answer : Except Retrieval.Fault Retrieval.Response) : Prop where
  /-- It is refused exactly when its cursor asks for no position up to the end. -/
  refused_iff : (∃ refusal, answer = .error (.refused refusal)) ↔
    ∀ position, AsksFor request.cursor position → ranking.length < position
  /-- From such a position on, it is answered with as many memories as there are up to its limit,
  and with a cursor to the memories behind them. -/
  answered : ∀ position, AsksFor request.cursor position → position ≤ ranking.length →
    ∃ stop page, stop = min (position + request.limit.toNat) ranking.length ∧
      answer = .ok page ∧ page.spaceId = request.spaceId ∧
      page.hits = (ranking.extract position stop).map (hitOf request.query) ∧
      page.totalHits.toNat = ranking.length ∧
      page.nextCursor = if stop < ranking.length then some (toString stop) else none

section Query

variable {maxLimit : UInt32} {store : Store} {request : Retrieval.Request}
  (hvalid : Retrieval.Request.contract.validate request = .ok ())
  (hlimit : request.limit ≤ maxLimit)

include hvalid hlimit

theorem query_refused (hpast : ∀ position, AsksFor request.cursor position →
      (allHits store request.spaceId request.query).length < position) :
    ∃ refusal, query maxLimit store request = .error (.refused refusal) := by
  rw [query_eq hvalid hlimit]
  cases hoffset : offset? request.cursor with
  | error reason => exact ⟨_, rfl⟩
  | ok position =>
    obtain ⟨reason, hpage⟩ := page_eq_error request.spaceId request.limit.toNat
      (hpast position (offset?_eq_ok_iff.1 hoffset).1)
    refine ⟨⟨request.spaceId, reason⟩, ?_⟩
    show Except.mapError _ (page _ _ _ _) = _
    rw [hpage]
    rfl

theorem query_answers_rankingOf (hcurrent : TermsCurrent store)
    (hwords : (Text.wordSet request.query).ncard < 2 ^ 52) (hsize : store.size < UInt64.size) :
    AnswersRanking request (rankingOf store request.spaceId request.query)
      (query maxLimit store request) := by
  have hmap := map_hitOf_rankingOf hcurrent hwords request.spaceId
  have hlength := congrArg List.length hmap
  rw [List.length_map] at hlength
  have htotal := Nat.lt_of_le_of_lt (length_allHits_le store request.spaceId request.query) hsize
  have hanswered : ∀ position, AsksFor request.cursor position →
      position ≤ (allHits store request.spaceId request.query).length →
      query maxLimit store request = .ok (cut request.spaceId position
        (min (position + request.limit.toNat) (allHits store request.spaceId request.query).length)
        (allHits store request.spaceId request.query)) := by
    intro position hasks hle
    exact query_eq_cut hvalid hlimit
      (offset?_eq_ok_iff.2 ⟨hasks, Nat.lt_of_le_of_lt hle htotal⟩) hle
  constructor
  case refused_iff =>
    rw [hlength]
    constructor
    · rintro ⟨refusal, hrefused⟩ position hasks
      by_contra hnot
      rw [hanswered position hasks (Nat.le_of_not_lt hnot)] at hrefused
      cases hrefused
    · exact query_refused hvalid hlimit
  case answered =>
    rw [hlength]
    intro position hasks hle
    refine ⟨_, _, rfl, hanswered position hasks hle, rfl, ?_, UInt64.toNat_ofNat_of_lt' htotal, rfl⟩
    rw [cut, ← hmap, List.extract_eq_take_drop, List.extract_eq_take_drop, List.map_take,
      List.map_drop]

end Query

/-- In every state that can be reached, a query that keeps its contract and its limit is answered
from the ranking of the memories that share a word with it: it is refused exactly when its cursor is
no position in the ranking, and gets its part of it otherwise. -/
theorem query_answers_ranking (settings : Settings) (clock : Clock) (moves : List Move)
    (timeOfDay : EpochMillis) (request : Retrieval.Request)
    (hvalid : Retrieval.Request.contract.validate request = .ok ())
    (hlimit : request.limit ≤ settings.maxLimit)
    (hwords : (Text.wordSet request.query).ncard < 2 ^ 52)
    (hsize : (systemAfter settings clock moves).state.store.size < UInt64.size) :
    ∃ ranking, IsRanking (systemAfter settings clock moves).state.store request.spaceId
        request.query ranking ∧
      AnswersRanking request ranking ((services settings clock).retrieval.query timeOfDay request
        (systemAfter settings clock moves).state).1 := by
  have hcurrent := termsCurrent_of_follows (follows_schedule settings clock moves)
  exact ⟨_, isRanking_rankingOf hcurrent hwords request.spaceId,
    query_answers_rankingOf hvalid hlimit hcurrent hwords hsize⟩

/-- The schedule that takes in the first batch of the small run. -/
def smithyIntake : List Move :=
  .call ⟨0, .ingest firstBatch⟩ :: List.replicate 3 .proceed

/-- The second page of a query after that. -/
def secondPage : Retrieval.Request :=
  ⟨village, "Heavy, old!", 1, some "+1"⟩

/-- It is cut from the ranking of the two memories. -/
theorem secondPage_answered :
    Retrieval.Request.contract.validate secondPage = .ok () ∧
      secondPage.limit ≤ Settings.deterministic.maxLimit ∧
      (Text.wordSet secondPage.query).ncard < 2 ^ 52 ∧
      (systemAfter .deterministic .deterministic smithyIntake).state.store.size < UInt64.size ∧
      ∃ ranking, IsRanking (systemAfter .deterministic .deterministic smithyIntake).state.store
          village "Heavy, old!" ranking ∧
        AnswersRanking secondPage ranking
          ((services .deterministic .deterministic).retrieval.query 0 secondPage
            (systemAfter .deterministic .deterministic smithyIntake).state).1 := by
  have hvalid : Retrieval.Request.contract.validate secondPage = .ok () := by decide +kernel
  have hlimit : secondPage.limit ≤ Settings.deterministic.maxLimit := by decide
  have hwords : (Text.wordSet secondPage.query).ncard < 2 ^ 52 := by
    rw [← Terms.size_ofText]
    decide +kernel
  have hsize : (systemAfter .deterministic .deterministic smithyIntake).state.store.size <
      UInt64.size := by
    decide +kernel
  exact ⟨hvalid, hlimit, hwords, hsize,
    query_answers_ranking .deterministic .deterministic smithyIntake 0 secondPage hvalid hlimit
      hwords hsize⟩

end Recollection.InMemory
