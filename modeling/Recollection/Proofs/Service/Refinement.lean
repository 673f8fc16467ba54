import Recollection.Proofs.Service.StoreHistory
/-!
# The store refines the transcript

What the store shows, after any run of calls, can be told from the transcript: which version a write
was stamped with, what is live under a key, what a removal finds, and how many memories there are.
No version is used twice, not even after a removal.

The only thing that is asked for is that versions do not overflow: no key is written as often as a
machine word can count.
-/

set_option autoImplicit false

namespace Recollection.InMemory

variable {settings : Settings} {clock : Clock}

/-- What the store shows during a run is what the transcript says. -/
structure RefinesTranscript (settings : Settings) (clock : Clock) (calls : List Invocation) :
    Prop where
  /-- The answer to an accepted upsert numbers the write. -/
  answered : ∀ earlier call later now request response, calls = earlier ++ call :: later →
    (perform settings clock call (stateAfter settings clock earlier)).1 =
      .upsert now request (.ok response) →
    response.version.toNat =
      (changes (transcript settings clock earlier)).writesTo request.key + 1
  /-- A write is stamped with the number of writes before it and itself: that of an accepted upsert
  and that of an accepted record alike. -/
  stamped : ∀ earlier call later write, calls = earlier ++ call :: later →
    .write write ∈ (perform settings clock call (stateAfter settings clock earlier)).1.changes →
    ∃ version, version.toNat =
        (changes (transcript settings clock earlier)).writesTo write.key + 1 ∧
      (stateAfter settings clock (earlier ++ [call])).store.get? write.key =
        some (write.stamped version)
  /-- Nothing but writes uses up versions, and removals keep them. -/
  counted : ∀ earlier key, earlier <+: calls →
    (((stateAfter settings clock earlier).store.slot? key).getD .fresh).version.toNat =
      (changes (transcript settings clock earlier)).writesTo key
  /-- What is live is the last write to its key, if no removal came later. -/
  live_iff : ∀ earlier key memory, earlier <+: calls →
    ((stateAfter settings clock earlier).store.get? key = some memory ↔
      ∃ before write since,
        changes (transcript settings clock earlier) = before ++ .write write :: since ∧
        write.key = key ∧ (∀ change ∈ since, change.key ≠ key) ∧
        memory = write.stamped memory.version ∧
        memory.version.toNat = History.writesTo before key + 1)
  /-- A deletion always answers, and says whether the memory was live. -/
  deleted : ∀ earlier call later request answer, calls = earlier ++ call :: later →
    (perform settings clock call (stateAfter settings clock earlier)).1 = .delete request answer →
    ∃ response, answer = .ok response ∧ response.deleted =
      ((stateAfter settings clock earlier).store.get? request.key).isSome
  /-- The size is the number of keys with a live memory. -/
  size : ∀ earlier, earlier <+: calls →
    ((stateAfter settings clock earlier).store.size : ENat) =
      {key | ((stateAfter settings clock earlier).store.get? key).isSome}.encard
  /-- Whenever a key is read at one version, the same memory is read. -/
  same_version : ∀ earlier later key first second, earlier <+: calls → later <+: calls →
    (stateAfter settings clock earlier).store.get? key = some first →
    (stateAfter settings clock later).store.get? key = some second →
    first.version = second.version → first = second

/-! ## Calls -/

/-- An accepted upsert answers with the version of the key after it. -/
theorem version_of_upsert {state : State} {history : History}
    (hfollows : state.store.Follows history) {timeOfDay : EpochMillis}
    {request : Storage.UpsertRequest} {response : Storage.UpsertResponse}
    (hok : (upsert clock timeOfDay request state).1 = .ok response) :
    response.version = History.version
      (history ++ [.write (request.write (clock.read timeOfDay))]) request.key := by
  rcases upsert_cases clock timeOfDay request state with ⟨_, _, hupsert⟩ | ⟨_, hupsert⟩
  · rw [hupsert] at hok
    cases hok
  · rw [hupsert] at hok
    obtain rfl := Except.ok.inj hok
    have hput := hfollows.put_fst (request.write (clock.read timeOfDay))
    exact congrArg StoredMemory.version hput

/-- A call changes every key at most once: a batch holds no record twice. -/
theorem nodup_changes_keys (call : Invocation) (state : State) :
    ((perform settings clock call state).1.changes.map Change.key).Nodup := by
  obtain ⟨timeOfDay, command⟩ := call
  cases command with
  | upsert request =>
    show ((Turn.upsert _ request (upsert clock timeOfDay request state).1).changes.map _).Nodup
    cases (upsert clock timeOfDay request state).1 with
    | error fault => exact List.nodup_nil
    | ok response => exact List.nodup_singleton _
  | delete request => exact List.nodup_singleton _
  | query request => exact List.nodup_nil
  | evaluate request => exact List.nodup_nil
  | decide request => exact List.nodup_nil
  | ingest request =>
    show ((Turn.ingest _ request (ingest clock timeOfDay request state).1).changes.map _).Nodup
    rcases ingest_cases clock timeOfDay request state with
      ⟨_, _, hingest⟩ | ⟨_, _, hingest⟩ | ⟨hvalid, _, hingest⟩
    · rw [hingest]
      exact List.nodup_nil
    · rw [hingest]
      exact List.nodup_nil
    · rw [hingest, Turn.changes, acceptedRecords_eq, List.map_map]
      have hids : ((recordsOf .new state.ledger request).map Ingestion.Record.recordId).Nodup :=
        (List.filter_sublist.map _).nodup
          ((Ingestion.Request.validate_eq_ok_iff request).1 hvalid).2.2
      rw [List.Nodup, List.pairwise_map] at hids ⊢
      exact hids.imp fun hne hkey => hne (congrArg MemoryKey.memoryId hkey)

/-! ## Runs -/

/-- Read at one version before and after some calls, a memory is the same. -/
theorem eq_of_get?_of_version_eq {earlier later : List Invocation} {key : MemoryKey}
    (hearly : earlier <+: later)
    (hfew : (changes (transcript settings clock later)).writesTo key < UInt64.size)
    {first second : StoredMemory}
    (hfirst : (stateAfter settings clock earlier).store.get? key = some first)
    (hsecond : (stateAfter settings clock later).store.get? key = some second)
    (hversion : first.version = second.version) : first = second := by
  rw [(follows_run settings clock _).get?_eq] at hfirst hsecond
  obtain ⟨more, hmore⟩ := changes_mono settings clock hearly
  rw [← hmore] at hsecond hfew
  exact History.eq_of_live?_of_version_eq hfew hfirst hsecond hversion

/-- After any run of calls, and at any time in it, the store shows what the transcript says. -/
theorem store_refines_transcript (settings : Settings) (clock : Clock) (calls : List Invocation)
    (hfew : ∀ key, (changes (transcript settings clock calls)).writesTo key < UInt64.size) :
    RefinesTranscript settings clock calls := by
  have hfewer : ∀ earlier key, earlier <+: calls →
      (changes (transcript settings clock earlier)).writesTo key < UInt64.size := by
    intro earlier key hearly
    exact Nat.lt_of_le_of_lt (History.writesTo_mono (changes_mono settings clock hearly) key)
      (hfew key)
  have hfollows := follows_run settings clock
  constructor
  · intro earlier call later now request response hcalls hturn
    have hearly : earlier ++ [call] <+: calls := ⟨later, by simp [hcalls]⟩
    obtain ⟨rfl, hupsert⟩ := perform_eq_upsert hturn
    have hchanges := changes_transcript_concat settings clock earlier call
    rw [hturn, Turn.changes] at hchanges
    have hversion := version_of_upsert (hfollows earlier) (congrArg Prod.fst hupsert)
    rw [hversion, ← hchanges, History.toNat_version (hfewer _ _ hearly), hchanges,
      History.writesTo_concat_write, Storage.UpsertRequest.key_write, if_pos rfl]
  · intro earlier call later write hcalls hwrite
    have hearly : earlier ++ [call] <+: calls := ⟨later, by simp [hcalls]⟩
    obtain ⟨hwrites, hlive⟩ := History.live?_append_of_nodup
      (changes (transcript settings clock earlier)) (nodup_changes_keys _ _) hwrite
    rw [← changes_transcript_concat] at hwrites hlive
    refine ⟨_, ?_, ((hfollows _).get?_eq _).trans hlive⟩
    rw [History.toNat_version (hfewer _ _ hearly), hwrites]
  · intro earlier key hearly
    rw [hfollows, History.slot?_getD_version, History.toNat_version (hfewer _ _ hearly)]
  · intro earlier key memory hearly
    rw [(hfollows earlier).get?_eq]
    exact History.live?_eq_some_iff_split (hfewer _ _ hearly)
  · intro earlier call later request answer hcalls hturn
    have hdelete := perform_eq_delete hturn
    rw [delete_eq] at hdelete
    exact ⟨_, (congrArg Prod.fst hdelete).symm, Store.remove_eq_isSome _ _⟩
  · intro earlier hearly
    exact Store.size_eq_encard _
  · intro earlier later key first second hearlier hlater hfirst hsecond hversion
    -- of two times in a run, one comes first
    rcases List.prefix_or_prefix_of_prefix hearlier hlater with hearly | hearly
    · exact eq_of_get?_of_version_eq hearly (hfewer later key hlater) hfirst hsecond hversion
    · exact (eq_of_get?_of_version_eq hearly (hfewer earlier key hearlier) hsecond hfirst
        hversion.symm).symm

example : (changes (transcript .deterministic .deterministic smithyRun)).writesTo
    ⟨village, anvil⟩ = 3 := by
  decide +kernel

/-- The small run writes few memories, so its store shows what its transcript says. -/
theorem smithyRun_refines_transcript :
    (∀ key, (changes (transcript .deterministic .deterministic smithyRun)).writesTo key <
        UInt64.size) ∧
      RefinesTranscript .deterministic .deterministic smithyRun := by
  have hfew : ∀ key, (changes (transcript .deterministic .deterministic smithyRun)).writesTo key <
      UInt64.size := by
    intro key
    exact Nat.lt_of_le_of_lt List.countP_le_length (by decide +kernel)
  exact ⟨hfew, store_refines_transcript _ _ _ hfew⟩

end Recollection.InMemory
