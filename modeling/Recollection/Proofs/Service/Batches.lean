import Recollection.Proofs.Service.Idempotence
/-!
# Independent batches

What a batch is answered, and what it adds to the state, depends on the ledger only through the
standings of its own records. Taking in another batch without a record in common leaves those as
they are, whatever key it comes with, and what two such batches add can be added in either order.

So batches without common records commute; and under one key, a batch can be sent in parts.
-/

set_option autoImplicit false

namespace Recollection

/-- The batch of the records of two batches of one source and one key. -/
def Ingestion.Request.join (first second : Request) (occurredAtMillis : EpochMillis) : Request where
  source := first.source
  idempotencyKey := first.idempotencyKey
  occurredAtMillis := occurredAtMillis
  records := first.records ++ second.records

namespace InMemory

/-! ## What a batch adds -/

/-- The ledger with the accepted records of one key altered. -/
def alterEntry (ledger : Ledger) (idempotencyKey : String) (alter : Accepted → Accepted) : Ledger :=
  ledger.insert idempotencyKey (alter ((ledger.get? idempotencyKey).getD .empty))

/-- Two alterations can be made in either order if they are made under different keys, or commute
themselves. -/
theorem alterEntry_comm (ledger : Ledger) {key other : String} {first second : Accepted → Accepted}
    (hcommute : key = other → ∀ accepted, second (first accepted) = first (second accepted)) :
    alterEntry (alterEntry ledger key first) other second =
      alterEntry (alterEntry ledger other second) key first := by
  unfold alterEntry
  by_cases hkey : key = other
  · subst hkey
    simp only [SortedMap.get?_insert, if_true, Option.getD_some, SortedMap.insert_insert,
      hcommute rfl]
  · simp only [SortedMap.get?_insert, if_neg hkey, if_neg (Ne.symm hkey)]
    exact SortedMap.insert_comm _ _ hkey _ _

theorem openEntry_eq (state : State) (idempotencyKey : String) :
    openEntry state idempotencyKey = ⟨state.store, alterEntry state.ledger idempotencyKey id⟩ :=
  rfl

theorem acceptRecord_eq (idempotencyKey : String) (now : EpochMillis) (state : State)
    (entry : Ingestion.Record × String) :
    acceptRecord idempotencyKey now state entry =
      ⟨(state.store.put entry.1.key entry.1.layer entry.1.payload now).2,
        alterEntry state.ledger idempotencyKey fun accepted =>
          accepted.insert entry.1.recordId entry.2⟩ :=
  rfl

section Commute

variable (key other : String) (now later : EpochMillis) (state : State)
  (entry present : Ingestion.Record × String)

theorem openEntry_comm :
    openEntry (openEntry state key) other = openEntry (openEntry state other) key := by
  simp only [openEntry_eq]
  exact congrArg (State.mk _) (alterEntry_comm _ fun _ _ => rfl)

theorem acceptRecord_openEntry :
    acceptRecord key now (openEntry state other) entry =
      openEntry (acceptRecord key now state entry) other := by
  simp only [openEntry_eq, acceptRecord_eq]
  exact congrArg (State.mk _) (alterEntry_comm _ fun _ _ => rfl)

variable {entry present}

/-- Different records may be accepted in either order, under one key or two. -/
theorem acceptRecord_comm (hids : entry.1.recordId ≠ present.1.recordId) :
    acceptRecord other later (acceptRecord key now state entry) present =
      acceptRecord key now (acceptRecord other later state present) entry := by
  have hkeys : entry.1.key ≠ present.1.key := fun hsame => hids (congrArg MemoryKey.memoryId hsame)
  simp only [acceptRecord_eq]
  rw [Store.put_comm _ hkeys,
    alterEntry_comm _ fun _ accepted => SortedMap.insert_comm accepted _ hids _ _]

end Commute

/-- A move that commutes with every step of a fold commutes with the fold. -/
theorem foldl_comm_of_mem {σ α : Type} (move : σ → σ) {step : σ → α → σ} {items : List α}
    (hstep : ∀ item ∈ items, ∀ state, move (step state item) = step (move state) item) (state : σ) :
    move (items.foldl step state) = items.foldl step (move state) := by
  induction items generalizing state with
  | nil => rfl
  | cons item rest ih =>
    rw [List.foldl_cons, List.foldl_cons, ih fun later hlater => hstep later (.tail _ hlater),
      hstep item List.mem_cons_self]

/-- Opens the entry of a key and accepts records under it. -/
def addRecords (now : EpochMillis) (idempotencyKey : String)
    (entries : List (Ingestion.Record × String)) (state : State) : State :=
  entries.foldl (acceptRecord idempotencyKey now) (openEntry state idempotencyKey)

section AddRecords

variable (now later : EpochMillis) (key other : String)
  (entries others : List (Ingestion.Record × String)) (state : State)

theorem addRecords_openEntry :
    addRecords now key entries (openEntry state other) =
      openEntry (addRecords now key entries state) other := by
  unfold addRecords
  rw [openEntry_comm]
  refine (foldl_comm_of_mem (fun state => openEntry state other) ?_ _).symm
  intro entry _ state
  exact (acceptRecord_openEntry key other now state entry).symm

theorem addRecords_acceptRecord {present : Ingestion.Record × String}
    (hids : ∀ entry ∈ entries, entry.1.recordId ≠ present.1.recordId) :
    addRecords now key entries (acceptRecord other later state present) =
      acceptRecord other later (addRecords now key entries state) present := by
  unfold addRecords
  rw [← acceptRecord_openEntry]
  refine (foldl_comm_of_mem (fun state => acceptRecord other later state present) ?_ _).symm
  intro entry hentry state
  exact acceptRecord_comm key other now later state (hids entry hentry)

/-- Records without a common identifier may be added in either order. -/
theorem addRecords_comm
    (hids : ∀ entry ∈ entries, ∀ present ∈ others, entry.1.recordId ≠ present.1.recordId) :
    addRecords now key entries (addRecords later other others state) =
      addRecords later other others (addRecords now key entries state) := by
  refine (foldl_comm_of_mem _ ?_ _).trans ?_
  · intro present hpresent state
    exact addRecords_acceptRecord now later key other entries state fun entry hentry =>
      hids entry hentry present hpresent
  · rw [addRecords_openEntry]
    rfl

/-- Adding records leaves what is remembered of others. -/
theorem remembered_addRecords {id : MemoryId} (hid : ∀ entry ∈ entries, entry.1.recordId ≠ id) :
    remembered (addRecords now key entries state).ledger other id =
      remembered state.ledger other id := by
  unfold addRecords
  induction entries using List.reverseRecOn with
  | nil => exact remembered_openEntry state key other id
  | append_singleton rest entry ih =>
    rw [List.forall_mem_append, List.forall_mem_singleton] at hid
    rw [List.foldl_append, List.foldl_cons, List.foldl_nil, remembered_acceptRecord,
      if_neg fun hboth => hid.2 hboth.2.symm, ih hid.1]

/-- Records may be added under one key in parts. -/
theorem addRecords_append :
    addRecords now key (entries ++ others) state =
      addRecords now key others (addRecords now key entries state) := by
  have hopen : openEntry (openEntry state key) key = openEntry state key := by
    simp only [openEntry_eq, alterEntry, SortedMap.get?_insert, if_true, Option.getD_some, id_eq,
      SortedMap.insert_insert]
  have hentry : openEntry (addRecords now key entries state) key =
      addRecords now key entries state := by
    rw [← addRecords_openEntry, addRecords, hopen]
    rfl
  calc addRecords now key (entries ++ others) state
      = others.foldl (acceptRecord key now) (addRecords now key entries state) :=
        List.foldl_append
    _ = others.foldl (acceptRecord key now) (openEntry (addRecords now key entries state) key) := by
        rw [hentry]

end AddRecords

/-! ## What becomes of a batch -/

/-- The records of a batch that are new, with their fingerprints. -/
def newEntries (ledger : Ledger) (request : Ingestion.Request) :
    List (Ingestion.Record × String) :=
  (recordsOf .new ledger request).map fun record => (record, fingerprint record)

/-- Whether a batch keeps its contract and none of its records has changed. -/
def goesThrough (ledger : Ledger) (request : Ingestion.Request) : Bool :=
  (Ingestion.Request.contract.validate request).isOk && (recordsOf .changed ledger request).isEmpty

/-- What a batch adds to a state, as a ledger decides. -/
def effect (now : EpochMillis) (ledger : Ledger) (request : Ingestion.Request) (state : State) :
    State :=
  if goesThrough ledger request then
    addRecords now request.idempotencyKey (newEntries ledger request) state
  else state

/-- What a batch is answered, as a ledger decides. -/
def answer (now : EpochMillis) (ledger : Ledger) (request : Ingestion.Request) :
    Except Ingestion.Fault Ingestion.Response :=
  match Ingestion.Request.contract.validate request with
  | .error rejection => .error (.rejected rejection)
  | .ok () =>
    if (recordsOf .changed ledger request).isEmpty then
      .ok ⟨(recordsOf .new ledger request).map Ingestion.Record.recordId,
        (recordsOf .duplicate ledger request).map Ingestion.Record.recordId, now⟩
    else
      .error (.diverged ⟨request.idempotencyKey,
        (recordsOf .changed ledger request).map Ingestion.Record.recordId⟩)

theorem goesThrough_eq_true_iff {ledger : Ledger} {request : Ingestion.Request} :
    goesThrough ledger request = true ↔
      Ingestion.Request.contract.validate request = .ok () ∧
        recordsOf .changed ledger request = [] := by
  rw [goesThrough, Bool.and_eq_true, List.isEmpty_iff]
  refine and_congr_left fun _ => ?_
  cases Ingestion.Request.contract.validate request <;> simp [Except.isOk, Except.toBool]

/-- A batch that goes through is split into its new records and its duplicates; no other batch is
answered so. -/
theorem answer_eq_ok_iff {now : EpochMillis} {ledger : Ledger} {request : Ingestion.Request}
    {response : Ingestion.Response} :
    answer now ledger request = .ok response ↔
      goesThrough ledger request = true ∧
        response = ⟨(recordsOf .new ledger request).map Ingestion.Record.recordId,
          (recordsOf .duplicate ledger request).map Ingestion.Record.recordId, now⟩ := by
  rw [goesThrough_eq_true_iff, answer]
  cases Ingestion.Request.contract.validate request with
  | error rejection => simp
  | ok _ =>
    cases recordsOf .changed ledger request with
    | nil => simp [eq_comm]
    | cons record rest => simp

theorem isOk_answer (now : EpochMillis) (ledger : Ledger) (request : Ingestion.Request) :
    (answer now ledger request).isOk = true ↔ goesThrough ledger request = true := by
  constructor
  · intro hok
    cases hanswer : answer now ledger request with
    | error fault =>
      rw [hanswer] at hok
      cases hok
    | ok response => exact (answer_eq_ok_iff.1 hanswer).1
  · intro hgoes
    rw [answer_eq_ok_iff.2 ⟨hgoes, rfl⟩]
    rfl

theorem ingest_eq (clock : Clock) (timeOfDay : EpochMillis) (request : Ingestion.Request)
    (state : State) :
    ingest clock timeOfDay request state =
      (answer (clock.read timeOfDay) state.ledger request,
        effect (clock.read timeOfDay) state.ledger request state) := by
  unfold answer effect goesThrough
  rcases ingest_cases clock timeOfDay request state with
    ⟨rejection, hinvalid, hingest⟩ | ⟨hvalid, hchanged, hingest⟩ | ⟨hvalid, hchanged, hingest⟩
  · rw [hingest, hinvalid]
    rfl
  · have hsome : (recordsOf .changed state.ledger request).isEmpty = false :=
      List.isEmpty_eq_false_iff.2 hchanged
    rw [hingest, hvalid, hsome, Bool.and_false]
    rfl
  · rw [hingest, hvalid, hchanged]
    rfl

section Unaffected

variable {ledger other : Ledger} {request : Ingestion.Request}

/-- What is new and what has changed in a batch follows from what is remembered of its records. -/
theorem recordsOf_congr (kind : Standing)
    (hsame : ∀ id ∈ request.recordIds, remembered ledger request.idempotencyKey id =
      remembered other request.idempotencyKey id) :
    recordsOf kind ledger request = recordsOf kind other request := by
  refine List.filter_congr fun record hrecord => ?_
  rw [standingUnder_eq_remembered, standingUnder_eq_remembered,
    hsame _ (List.mem_map_of_mem hrecord)]

/-- Ledgers that decide alike what becomes of a batch. -/
def DecideAlike (request : Ingestion.Request) (ledger other : Ledger) : Prop :=
  ∀ kind, recordsOf kind ledger request = recordsOf kind other request

theorem DecideAlike.answer_eq (halike : DecideAlike request ledger other) (now : EpochMillis) :
    answer now ledger request = answer now other request := by
  simp only [answer, halike .new, halike .duplicate, halike .changed]

theorem DecideAlike.effect_eq (halike : DecideAlike request ledger other) (now : EpochMillis)
    (state : State) : effect now ledger request state = effect now other request state := by
  have hgoes : goesThrough ledger request = goesThrough other request := by
    simp only [goesThrough, halike .changed]
  rw [effect, effect, hgoes, newEntries, newEntries, halike .new]

theorem mem_recordIds_of_mem_newEntries {entry : Ingestion.Record × String}
    (hentry : entry ∈ newEntries ledger request) : entry.1.recordId ∈ request.recordIds := by
  obtain ⟨record, hrecord, rfl⟩ := List.mem_map.1 hentry
  exact List.mem_map_of_mem (mem_recordsOf.1 hrecord).1

end Unaffected

section Disjoint

variable {first second : Ingestion.Request}
  (hdisjoint : first.recordIds.Disjoint second.recordIds)

include hdisjoint

/-- A batch does not change what becomes of one without a record in common. -/
theorem decideAlike_effect (now : EpochMillis) (ledger : Ledger) (state : State) :
    DecideAlike second (effect now ledger first state).ledger state.ledger := by
  intro kind
  refine recordsOf_congr kind fun id hid => ?_
  unfold effect
  split
  · refine remembered_addRecords now _ _ _ state fun entry hentry hsame => ?_
    exact hdisjoint (hsame ▸ mem_recordIds_of_mem_newEntries hentry) hid
  · rfl

/-- What two batches without a record in common add can be added in either order. -/
theorem effect_comm (now later : EpochMillis) (ledger other : Ledger) (state : State) :
    effect later other second (effect now ledger first state) =
      effect now ledger first (effect later other second state) := by
  unfold effect
  split
  · split
    · refine addRecords_comm later now _ _ _ _ state fun entry hentry present hpresent hsame => ?_
      exact hdisjoint (mem_recordIds_of_mem_newEntries hpresent)
        (hsame ▸ mem_recordIds_of_mem_newEntries hentry)
    · rfl
  · rfl

end Disjoint

/-! ## Batches under one key -/

section Join

variable {first second : Ingestion.Request} (hkey : first.idempotencyKey = second.idempotencyKey)
  (ledger : Ledger) (occurredAtMillis : EpochMillis)

include hkey

theorem recordsOf_join (kind : Standing) :
    recordsOf kind ledger (first.join second occurredAtMillis) =
      recordsOf kind ledger first ++ recordsOf kind ledger second := by
  simp only [recordsOf, Ingestion.Request.join, List.filter_append, hkey]

theorem newEntries_join :
    newEntries ledger (first.join second occurredAtMillis) =
      newEntries ledger first ++ newEntries ledger second := by
  rw [newEntries, recordsOf_join hkey, List.map_append, newEntries, newEntries]

/-- Two batches make one that goes through exactly when both of them do. -/
theorem goesThrough_join (hdisjoint : first.recordIds.Disjoint second.recordIds)
    (hsource : first.source = second.source) :
    goesThrough ledger (first.join second occurredAtMillis) = true ↔
      goesThrough ledger first = true ∧ goesThrough ledger second = true := by
  have hids : (first.join second occurredAtMillis).recordIds.Nodup ↔
      first.recordIds.Nodup ∧ second.recordIds.Nodup := by
    rw [Ingestion.Request.recordIds, Ingestion.Request.join, List.map_append, List.nodup_append']
    exact ⟨fun hall => ⟨hall.1, hall.2.1⟩, fun hboth => ⟨hboth.1, hboth.2, hdisjoint⟩⟩
  simp only [goesThrough_eq_true_iff, Ingestion.Request.validate_eq_ok_iff, hids,
    recordsOf_join hkey, List.append_eq_nil_iff]
  simp only [Ingestion.Request.join, hsource, hkey]
  tauto

/-- Where the two batches go through, the one adds what they add one after the other. -/
theorem effect_join (now : EpochMillis) (hfirst : goesThrough ledger first = true)
    (hsecond : goesThrough ledger second = true)
    (hjoin : goesThrough ledger (first.join second occurredAtMillis) = true) (state : State) :
    effect now ledger (first.join second occurredAtMillis) state =
      effect now ledger second (effect now ledger first state) := by
  rw [effect, if_pos hjoin, effect, if_pos hsecond, effect, if_pos hfirst, newEntries_join hkey,
    ← hkey]
  exact addRecords_append now first.idempotencyKey _ _ state

end Join

/-! ## Independence -/

/-- In a state, two batches are taken in alike whichever comes first. -/
structure Interchangeable (clock : Clock) (state : State) (first second : Ingestion.Request) :
    Prop where
  /-- The first one is answered as if the second one had not come before it. -/
  first_answer : ∀ early late,
    (ingest clock late first (ingest clock early second state).2).1 =
      (ingest clock early first state).1
  /-- So is the second one. -/
  second_answer : ∀ early late,
    (ingest clock late second (ingest clock early first state).2).1 =
      (ingest clock early second state).1
  /-- The state that they leave is the same. -/
  state_eq : ∀ early late,
    (ingest clock late second (ingest clock early first state).2).2 =
      (ingest clock late first (ingest clock early second state).2).2

/-- In a state, a batch comes down to its two parts, one after the other. -/
structure SplitInto (clock : Clock) (state : State) (whole first second : Ingestion.Request) :
    Prop where
  /-- The batch succeeds exactly when each part does on its own. -/
  isOk_iff : ∀ timeOfDay, (ingest clock timeOfDay whole state).1.isOk = true ↔
    (ingest clock timeOfDay first state).1.isOk = true ∧
      (ingest clock timeOfDay second state).1.isOk = true
  /-- Its answer lists what the answers to the parts list. -/
  answer_eq : ∀ timeOfDay response, (ingest clock timeOfDay whole state).1 = .ok response →
    ∃ one other, (ingest clock timeOfDay first state).1 = .ok one ∧
      (ingest clock timeOfDay second state).1 = .ok other ∧
      response.acceptedRecordIds = one.acceptedRecordIds ++ other.acceptedRecordIds ∧
      response.duplicateRecordIds = one.duplicateRecordIds ++ other.duplicateRecordIds
  /-- It leaves the state that the parts leave. -/
  state_eq : ∀ early late, (ingest clock early whole state).1.isOk = true →
    (ingest clock early whole state).2 =
      (ingest clock late second (ingest clock early first state).2).2

/-- While the clock stands still, batches without a record in common can be sent in either order,
whatever the state is: the answers, failures among them, and the ledger and the store at the end are
the same. If they come from one source under one key, they can be sent as one batch as well. -/
theorem independent_batches (instant : EpochMillis) (state : State)
    {first second : Ingestion.Request} (hdisjoint : first.recordIds.Disjoint second.recordIds) :
    Interchangeable (.frozen instant) state first second ∧
      (first.idempotencyKey = second.idempotencyKey → first.source = second.source →
        ∀ occurredAtMillis, SplitInto (.frozen instant) state
          (first.join second occurredAtMillis) first second) := by
  have hfirst := decideAlike_effect hdisjoint.symm instant state.ledger state
  have hsecond := decideAlike_effect hdisjoint instant state.ledger state
  refine ⟨⟨?_, ?_, ?_⟩, fun hkey hsource occurredAtMillis => ⟨?_, ?_, ?_⟩⟩
  · intro early late
    simp only [ingest_eq, Clock.read]
    exact hfirst.answer_eq instant
  · intro early late
    simp only [ingest_eq, Clock.read]
    exact hsecond.answer_eq instant
  · intro early late
    simp only [ingest_eq, Clock.read]
    rw [hsecond.effect_eq, hfirst.effect_eq]
    exact effect_comm hdisjoint instant instant _ _ state
  · intro timeOfDay
    simp only [ingest_eq, isOk_answer]
    exact goesThrough_join hkey _ _ hdisjoint hsource
  · intro timeOfDay response hanswer
    simp only [ingest_eq] at hanswer ⊢
    obtain ⟨hwhole, rfl⟩ := answer_eq_ok_iff.1 hanswer
    obtain ⟨hone, hother⟩ := (goesThrough_join hkey _ _ hdisjoint hsource).1 hwhole
    refine ⟨_, _, answer_eq_ok_iff.2 ⟨hone, rfl⟩, answer_eq_ok_iff.2 ⟨hother, rfl⟩, ?_⟩
    simp only [recordsOf_join hkey, List.map_append, and_self]
  · intro early late hok
    simp only [ingest_eq, Clock.read, isOk_answer] at hok ⊢
    obtain ⟨hone, hother⟩ := (goesThrough_join hkey _ _ hdisjoint hsource).1 hok
    rw [hsecond.effect_eq]
    exact effect_join hkey _ _ instant hone hother hok state

/-- A part of a delivery that repeats one record and brings a new one. -/
def mixedBatch : Ingestion.Request :=
  batchOf [(anvil, "heavy"), (chisel, "sharp")]

/-- The part of a delivery that repeats the other record. -/
def repeatedBatch : Ingestion.Request :=
  batchOf [(bellows, "old")]

/-- After the first batch of the small run, two parts of a delivery can be sent in either order, and
as one batch, which succeeds. -/
theorem delivery_in_parts :
    mixedBatch.recordIds.Disjoint repeatedBatch.recordIds ∧
      mixedBatch.idempotencyKey = repeatedBatch.idempotencyKey ∧
      mixedBatch.source = repeatedBatch.source ∧
      Interchangeable .deterministic
        (stateAfter .deterministic .deterministic [⟨0, .ingest firstBatch⟩])
        mixedBatch repeatedBatch ∧
      SplitInto .deterministic (stateAfter .deterministic .deterministic [⟨0, .ingest firstBatch⟩])
        (mixedBatch.join repeatedBatch 0) mixedBatch repeatedBatch ∧
      (ingest .deterministic 0 (mixedBatch.join repeatedBatch 0)
        (stateAfter .deterministic .deterministic [⟨0, .ingest firstBatch⟩])).1.isOk = true := by
  have hdisjoint : mixedBatch.recordIds.Disjoint repeatedBatch.recordIds := by
    rw [List.disjoint_left]
    decide
  obtain ⟨hinterchangeable, hsplit⟩ := independent_batches Clock.deterministicInstant
    (stateAfter .deterministic .deterministic [⟨0, .ingest firstBatch⟩]) hdisjoint
  refine ⟨hdisjoint, rfl, rfl, hinterchangeable, hsplit rfl rfl 0, ?_⟩
  decide +kernel

end InMemory

end Recollection
