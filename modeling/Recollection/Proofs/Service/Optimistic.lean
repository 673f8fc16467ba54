import Recollection.Proofs.Service.Schedule
/-!
# No update is lost

A caller that sends the version it last saw replaces exactly what it saw, or is refused, whatever
others do at the same time. A version is good for one write only: the write that it allows uses it
up, and neither a removal nor writing the memory anew brings it back.

The version that survives a removal is what this rests on. It keeps the versions of a key growing
(`Store.Follows`), so that a version that was passed is never live again (`SpentOnce`).
-/

set_option autoImplicit false

namespace Recollection.InMemory

/-! ## Conditional writes and removals -/

/-- Whether a step is an accepted upsert that expected a version of a key. -/
def Event.accepts (key : MemoryKey) (expected : UInt64) : Event → Bool
  | .answered (.upsert _ request (.ok _)) =>
    request.key = key ∧ request.expectedVersion = some expected
  | _ => false

/-- Whether a step is a removal that has removed the memory with a key. -/
def Event.removes (key : MemoryKey) : Event → Bool
  | .answered (.delete request (.ok response)) => request.key = key ∧ response.deleted = true
  | _ => false

theorem Event.exists_of_accepts {event : Event} {key : MemoryKey} {expected : UInt64}
    (haccepts : event.accepts key expected = true) :
    ∃ now request response, event = .answered (.upsert now request (.ok response)) ∧
      request.key = key ∧ request.expectedVersion = some expected := by
  unfold accepts at haccepts
  split at haccepts
  · rename_i now request response
    obtain ⟨hkey, hexpected⟩ := of_decide_eq_true haccepts
    exact ⟨now, request, response, rfl, hkey, hexpected⟩
  · cases haccepts

namespace StoreStep

variable {store after : Store} {event : Event} {key : MemoryKey}

/-- An accepted upsert writes its key, and had the live version, or version zero where nothing was
live. -/
theorem accepts_cases (hstep : StoreStep store event after) {expected : UInt64}
    (haccepts : event.accepts key expected = true) :
    (∃ write : Write, write.key = key ∧ event.changes = [.write write]) ∧
      (after.get? key).isSome ∧
      (store.liveVersion? key = some expected ∨
        (expected = 0 ∧ store.liveVersion? key = none)) := by
  obtain ⟨now, request, response, rfl, rfl, hexpected⟩ := Event.exists_of_accepts haccepts
  cases hstep with
  | idle hchanges => cases hchanges
  | written _ _ _ hallowed =>
    refine ⟨⟨request.write now, rfl, rfl⟩, ?_, ?_⟩
    · rw [Store.get?_put, if_pos rfl]
      rfl
    · rwa [hexpected, Store.checkVersion_eq_ok_iff] at hallowed

/-- What is live stays so, unless it is removed. -/
theorem isSome_get? (hstep : StoreStep store event after) (hlive : (store.get? key).isSome)
    (hkept : event.removes key = false) : (after.get? key).isSome := by
  cases hstep with
  | idle hchanges => exact hlive
  | stored now record =>
    rw [Store.get?_put]
    split
    · rfl
    · exact hlive
  | written now request response hallowed =>
    rw [Store.get?_put]
    split
    · rfl
    · exact hlive
  | removed request =>
    rw [Store.get?_remove, if_neg]
    · exact hlive
    · rintro rfl
      simp [Event.removes, Store.remove_eq_isSome, hlive] at hkept

end StoreStep

/-! ## Versions are used up -/

/-- A version of a key was not used yet; or it was used once, and the key was written since the
version was live. -/
def SpentOnce (key : MemoryKey) (version : UInt64) (history : List Event) : Prop :=
  history.countP (Event.accepts key version) = 0 ∨
    (history.countP (Event.accepts key version) = 1 ∧
      version.toNat < (changesOf history).writesTo key)

/-- A step may use a version only if it was not used yet. -/
theorem SpentOnce.concat {key : MemoryKey} {version : UInt64} {history : List Event}
    (hspent : SpentOnce key version history) {store after : Store}
    (hfollows : store.Follows (changesOf history)) {event : Event}
    (hstep : StoreStep store event after)
    (hfew : (changesOf history).writesTo key < UInt64.size) (hpositive : version ≠ 0) :
    SpentOnce key version (history ++ [event]) := by
  have hmore : (changesOf history).writesTo key ≤
      (changesOf (history ++ [event])).writesTo key := by
    rw [changesOf_concat, History.writesTo_append]
    exact Nat.le_add_right _ _
  unfold SpentOnce at hspent ⊢
  rw [List.countP_append, List.countP_singleton]
  by_cases haccepts : event.accepts key version = true
  · obtain ⟨⟨write, hkey, hchanges⟩, -, hlive | ⟨hzero, -⟩⟩ := hstep.accepts_cases haccepts
    · -- the version is live, so it was not passed yet
      obtain ⟨hcount, -⟩ := hfollows.toNat_liveVersion? hfew hlive
      have hwrites : (changesOf (history ++ [event])).writesTo key =
          (changesOf history).writesTo key + 1 := by
        rw [changesOf_concat, hchanges, History.writesTo_concat_write, if_pos hkey]
      rw [if_pos haccepts]
      omega
    · exact absurd hzero hpositive
  · rw [if_neg haccepts]
    omega

section Schedule

variable (settings : Settings) (clock : Clock)

/-- In a schedule, no version of a key is used twice. -/
theorem spentOnce_events {moves : List Move} {key : MemoryKey} {version : UInt64}
    (hpositive : version ≠ 0)
    (hfew : (changesOf (events settings clock moves)).writesTo key < UInt64.size) :
    SpentOnce key version (events settings clock moves) := by
  suffices hrun : (systemAfter settings clock moves).state.store.Follows
      (changesOf (events settings clock moves)) ∧
        ((changesOf (events settings clock moves)).writesTo key < UInt64.size →
          SpentOnce key version (events settings clock moves)) from
    hrun.2 hfew
  clear hfew
  apply Run.induction (fun history (system : System) =>
    system.state.store.Follows (changesOf history) ∧
      ((changesOf history).writesTo key < UInt64.size → SpentOnce key version history))
  · exact ⟨Store.Follows.empty, fun _ => .inl rfl⟩
  · rintro history system move ⟨hfollows, hspent⟩
    have hstep := storeStep_step settings clock move system
    refine ⟨changesOf_concat history _ ▸ hstep.follows hfollows, fun hfew => ?_⟩
    have hfewer : (changesOf history).writesTo key < UInt64.size := by
      rw [changesOf_concat, History.writesTo_append] at hfew
      omega
    exact (hspent hfewer).concat hfollows hstep hfewer hpositive

/-- What is live stays so, as long as nobody removes it. -/
theorem isSome_get?_final {moves : List Move} {system : System} {key : MemoryKey}
    (hlive : (system.state.store.get? key).isSome)
    (hkept : ∀ event ∈ Run.reports (System.step settings clock) moves system,
      event.removes key = false) :
    ((Run.final (System.step settings clock) moves system).state.store.get? key).isSome := by
  induction moves generalizing system with
  | nil => exact hlive
  | cons move rest ih =>
    have hfirst := hkept _ List.mem_cons_self
    have hrest := fun event hevent => hkept event (List.mem_cons_of_mem _ hevent)
    exact ih ((storeStep_step settings clock move system).isSome_get? hlive hfirst) hrest

/-- What is replaced under a version is the write that was stamped with it, and nothing happened
under the key since. -/
theorem exists_write_of_accepts {earlier : List Move} {move : Move} {key : MemoryKey}
    {version : UInt64}
    (hfew : (changesOf (events settings clock earlier)).writesTo key < UInt64.size)
    (hpositive : version ≠ 0)
    (haccepts : (System.step settings clock move
      (systemAfter settings clock earlier)).1.accepts key version = true) :
    ∃ before write since,
      changesOf (events settings clock earlier) = before ++ .write write :: since ∧
      write.key = key ∧ (∀ change ∈ since, change.key ≠ key) ∧
      version.toNat = History.writesTo before key + 1 ∧
      (systemAfter settings clock earlier).state.store.get? key = some (write.stamped version) := by
  have hstep := storeStep_step settings clock move (systemAfter settings clock earlier)
  obtain ⟨-, -, hlive | ⟨hzero, -⟩⟩ := hstep.accepts_cases haccepts
  · obtain ⟨memory, hmemory, rfl⟩ := Option.map_eq_some_iff.1 hlive
    have hhistory := hmemory
    rw [(follows_schedule settings clock earlier).get?_eq] at hhistory
    obtain ⟨before, write, since, hchanges, hkey, hothers, hstamped, hcount⟩ :=
      (History.live?_eq_some_iff_split hfew).1 hhistory
    exact ⟨before, write, since, hchanges, hkey, hothers, hcount, hstamped ▸ hmemory⟩
  · exact absurd hzero hpositive

/-- Where a memory was created and is created anew, it was removed in between. -/
theorem exists_removes_between {earlier middle : List Move} {move next : Move} {key : MemoryKey}
    (hfew : (changesOf (events settings clock (earlier ++ move :: middle))).writesTo key <
      UInt64.size)
    (hfirst : (System.step settings clock move
      (systemAfter settings clock earlier)).1.accepts key 0 = true)
    (hsecond : (System.step settings clock next
      (systemAfter settings clock (earlier ++ move :: middle))).1.accepts key 0 = true) :
    ∃ event ∈ Run.reports (System.step settings clock) middle
        (System.step settings clock move (systemAfter settings clock earlier)).2,
      event.removes key = true := by
  by_contra hnone
  have hkept : ∀ event ∈ Run.reports (System.step settings clock) middle
      (System.step settings clock move (systemAfter settings clock earlier)).2,
      event.removes key = false := by
    intro event hevent
    by_contra hremoves
    exact hnone ⟨event, hevent, Bool.eq_true_of_not_eq_false hremoves⟩
  obtain ⟨-, hlive, -⟩ := (storeStep_step settings clock move _).accepts_cases hfirst
  have hstill := isSome_get?_final settings clock hlive hkept
  have hsystem : systemAfter settings clock (earlier ++ move :: middle) =
      Run.final (System.step settings clock) middle
        (System.step settings clock move (systemAfter settings clock earlier)).2 :=
    Run.final_append _ _ _
  rw [← hsystem] at hstill
  obtain ⟨-, -, hzero | ⟨-, habsent⟩⟩ :=
    (storeStep_step settings clock next _).accepts_cases hsecond
  · exact ((follows_schedule settings clock _).toNat_liveVersion? hfew hzero).2 rfl
  · rw [Option.map_eq_none_iff.1 habsent] at hstill
    cases hstill

/-! ## What is promised -/

section Answer

variable {timeOfDay : EpochMillis} {request : Storage.UpsertRequest} {state : State}
  {expected : UInt64}

/-- An upsert that expects a version goes ahead when that version is live, and when none is and none
was expected. -/
theorem upsert_isOk_iff (hexpected : request.expectedVersion = some expected) :
    (upsert clock timeOfDay request state).1.isOk = true ↔
      state.store.liveVersion? request.key = some expected ∨
        (expected = 0 ∧ state.store.liveVersion? request.key = none) := by
  rw [← Store.checkVersion_eq_ok_iff request.key, ← hexpected]
  rcases upsert_cases clock timeOfDay request state with
    ⟨_, hrefused, hupsert⟩ | ⟨hallowed, hupsert⟩
  · rw [hupsert, hrefused]
    simp [Except.isOk, Except.toBool]
  · rw [hupsert, hallowed]
    simp [Except.isOk, Except.toBool]

/-- An upsert that expects a version is refused as the live version says. -/
theorem upsert_eq_error_iff (hexpected : request.expectedVersion = some expected)
    (fault : Storage.Fault) :
    (upsert clock timeOfDay request state).1 = .error fault ↔
      (state.store.liveVersion? request.key = none ∧ expected ≠ 0 ∧
        fault = .notFound ⟨request.spaceId, request.memoryId⟩) ∨
      ∃ actual, state.store.liveVersion? request.key = some actual ∧ expected ≠ actual ∧
        fault = .conflict ⟨request.spaceId, request.memoryId, expected, actual⟩ := by
  have hcheck := Store.checkVersion_eq_error_iff request.key expected
    (state.store.liveVersion? request.key) fault
  rw [← hexpected] at hcheck
  refine Iff.trans ?_ hcheck
  rcases upsert_cases clock timeOfDay request state with
    ⟨_, hrefused, hupsert⟩ | ⟨hallowed, hupsert⟩
  · rw [hupsert, hrefused, Except.error.injEq, Except.error.injEq]
  · rw [hupsert, hallowed]
    simp only [reduceCtorEq]

end Answer

/-- What optimistic concurrency promises of a schedule. -/
structure NoLostUpdate (moves : List Move) : Prop where
  /-- At most one upsert that expects a version of a key is accepted. -/
  once : ∀ key version, version ≠ 0 →
    (events settings clock moves).countP (Event.accepts key version) ≤ 1
  /-- When it is accepted, it replaces the write that was stamped with the version, and nothing was
  written or removed under the key since. -/
  replaces : ∀ earlier move later key version, moves = earlier ++ move :: later → version ≠ 0 →
    (System.step settings clock move (systemAfter settings clock earlier)).1.accepts key version →
    ∃ before write since,
      changesOf (events settings clock earlier) = before ++ .write write :: since ∧
      write.key = key ∧ (∀ change ∈ since, change.key ≠ key) ∧
      version.toNat = History.writesTo before key + 1 ∧
      (systemAfter settings clock earlier).state.store.get? key = some (write.stamped version)
  /-- Between two accepted upserts that expect nothing to be there, the memory was removed. -/
  created : ∀ before first between second after key,
    events settings clock moves = before ++ first :: (between ++ second :: after) →
    first.accepts key 0 → second.accepts key 0 → ∃ event ∈ between, event.removes key
  /-- An upsert that expects a version is answered at once. It goes ahead exactly when that version
  is live, or none is and none was expected; it conflicts exactly when another version is live; and
  it misses the memory exactly when none is and one was expected. -/
  answered : ∀ earlier timeOfDay request expected, earlier <+: moves →
    request.expectedVersion = some expected →
    ∃ answer, (System.step settings clock (.call ⟨timeOfDay, .upsert request⟩)
        (systemAfter settings clock earlier)).1 =
          .answered (.upsert (clock.read timeOfDay) request answer) ∧
      (answer.isOk = true ↔
        (systemAfter settings clock earlier).state.store.liveVersion? request.key = some expected ∨
        (expected = 0 ∧
          (systemAfter settings clock earlier).state.store.liveVersion? request.key = none)) ∧
      (∀ conflict, answer = .error (.conflict conflict) ↔ ∃ actual,
        (systemAfter settings clock earlier).state.store.liveVersion? request.key = some actual ∧
        actual ≠ expected ∧ conflict = ⟨request.spaceId, request.memoryId, expected, actual⟩) ∧
      (∀ missing, answer = .error (.notFound missing) ↔
        (systemAfter settings clock earlier).state.store.liveVersion? request.key = none ∧
        expected ≠ 0 ∧ missing = ⟨request.spaceId, request.memoryId⟩)

/-- No schedule loses an update, as long as no key is written as often as a machine word can
count. -/
theorem no_lost_update (moves : List Move)
    (hfew : ∀ key, (changesOf (events settings clock moves)).writesTo key < UInt64.size) :
    NoLostUpdate settings clock moves := by
  have hfewer : ∀ earlier key, earlier <+: moves →
      (changesOf (events settings clock earlier)).writesTo key < UInt64.size := by
    intro earlier key hearly
    exact Nat.lt_of_le_of_lt (History.writesTo_mono (changesOf_mono hearly) key)
      (hfew key)
  constructor
  · intro key version hpositive
    rcases spentOnce_events settings clock hpositive (hfew key) with hnever | ⟨honce, -⟩
    · omega
    · omega
  · intro earlier move later key version hmoves hpositive haccepts
    exact exists_write_of_accepts settings clock (hfewer earlier key ⟨_, hmoves.symm⟩) hpositive
      haccepts
  · intro before first between second after key hsplit hfirst hsecond
    obtain ⟨earlier, move, later, hmoves, -, rfl, hlater⟩ := Run.split hsplit
    obtain ⟨middle, next, rest, rfl, rfl, rfl, -⟩ := Run.split hlater.symm
    have hearly : earlier ++ move :: middle <+: moves := ⟨next :: rest, by simp [hmoves]⟩
    rw [← Run.final_cons, ← Run.final_append] at hsecond
    exact exists_removes_between settings clock (hfewer _ key hearly) hfirst hsecond
  · intro earlier timeOfDay request expected hearly hexpected
    refine ⟨(upsert clock timeOfDay request (systemAfter settings clock earlier).state).1, rfl,
      upsert_isOk_iff clock hexpected, ?_, ?_⟩
    · intro conflict
      rw [upsert_eq_error_iff clock hexpected]
      simp [eq_comm]
    · intro missing
      rw [upsert_eq_error_iff clock hexpected]
      simp

end Schedule

/-- Two clients write what they have both seen, and the memory is removed and written anew while a
batch is being stored. -/
def smithySchedule : List Move :=
  [.call ⟨0, .upsert (writeAnvil (some 0))⟩, .call ⟨0, .upsert (writeAnvil (some 1))⟩,
    .call ⟨0, .upsert (writeAnvil (some 1))⟩, .call ⟨0, .ingest firstBatch⟩,
    .call ⟨0, .delete removeAnvil⟩, .proceed, .call ⟨0, .upsert (writeAnvil (some 3))⟩, .proceed,
    .call ⟨0, .delete removeAnvil⟩, .call ⟨0, .upsert (writeAnvil (some 0))⟩, .proceed]

/-- The schedule writes few memories, so it loses no update. -/
theorem smithySchedule_loses_no_update :
    (∀ key, (changesOf (events .deterministic .deterministic smithySchedule)).writesTo key <
        UInt64.size) ∧
      NoLostUpdate .deterministic .deterministic smithySchedule := by
  have hfew : ∀ key, (changesOf (events .deterministic .deterministic smithySchedule)).writesTo
      key < UInt64.size := by
    intro key
    exact Nat.lt_of_le_of_lt List.countP_le_length (by decide +kernel)
  exact ⟨hfew, no_lost_update _ _ _ hfew⟩

example : [0, 1, 2, 3].map (fun version =>
    (events .deterministic .deterministic smithySchedule).countP
      (Event.accepts ⟨village, anvil⟩ version)) = [2, 1, 0, 1] := by
  decide +kernel

end Recollection.InMemory
