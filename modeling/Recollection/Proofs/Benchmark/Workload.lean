import Mathlib.Data.List.Forall2
import Mathlib.Data.List.Nodup
import Recollection.Benchmark.Workload
import Recollection.Proofs.Number.Reading
import Recollection.Proofs.Random.Draw
import Recollection.Proofs.Text.Blank
/-!
# What workloads are made of

The workload of a store has one event for each index, under an identifier that no other index and no
other store has, and queries that are visible; this is all that a workload depends on, whatever was
drawn for its words and keys.
-/

set_option autoImplicit false

namespace Recollection.Benchmark

/-! ## The identifiers of events -/

/-- The identifier of the event at an index. -/
def eventIdAt (storeId : String) (index : Nat) : String :=
  storeId ++ "-evt-" ++ Text.decimal 6 index

theorem make_eventId (storeId : String) (index : Nat) (words : List String) (key : UInt64) :
    (Event.make storeId index words key).eventId = eventIdAt storeId index :=
  rfl

theorem toList_eventIdAt (storeId : String) (index : Nat) :
    (eventIdAt storeId index).toList =
      storeId.toList ++ ['-', 'e', 'v', 't'] ++ '-' :: (Text.decimal 6 index).toList := by
  have hmark : "-evt-".toList = ['-', 'e', 'v', 't', '-'] := rfl
  rw [eventIdAt, String.toList_append, String.toList_append, hmark]
  simp

/-- A text is split at the last occurrence of a character in one way. -/
theorem eq_of_append_cons_eq {mark : Char} {front other back more : List Char}
    (hback : mark ∉ back) (hmore : mark ∉ more)
    (heq : front ++ mark :: back = other ++ mark :: more) : front = other ∧ back = more := by
  rcases List.append_eq_append_iff.1 heq with ⟨gap, rfl, hgap⟩ | ⟨gap, rfl, hgap⟩
  · cases gap with
    | nil => simpa using hgap
    | cons c gap =>
      obtain ⟨-, rfl⟩ := List.cons.inj hgap
      simp at hback
  · cases gap with
    | nil => simpa [eq_comm] using hgap
    | cons c gap =>
      obtain ⟨-, rfl⟩ := List.cons.inj hgap
      simp at hmore

/-- An identifier tells the store and the index, whatever the name of the store looks like. -/
theorem eventIdAt_injective {storeId other : String} {index position : Nat}
    (heq : eventIdAt storeId index = eventIdAt other position) :
    storeId = other ∧ index = position := by
  have hdash : ∀ n, '-' ∉ (Text.decimal 6 n).toList := fun n hmem =>
    absurd (Numeral.isDigit_of_mem_decimal hmem) (by decide)
  have htext := congrArg String.toList heq
  rw [toList_eventIdAt, toList_eventIdAt] at htext
  obtain ⟨hstore, hdigits⟩ := eq_of_append_cons_eq (hdash index) (hdash position) htext
  constructor
  · exact String.toList_inj.1 (List.append_cancel_right hstore)
  · rw [← Numeral.digitsValue_decimal 6 index, hdigits, Numeral.digitsValue_decimal]

theorem isBlankText_eventIdAt (storeId : String) (index : Nat) :
    Text.isBlankText (eventIdAt storeId index) = false := by
  rw [Text.isBlankText_eq_false_iff, toList_eventIdAt]
  exact ⟨'-', by simp, by decide⟩

/-! ## Events and queries that can be sent -/

/-- An event that can be sent: its identifier and its store are visible. -/
structure Event.Sendable (event : Event) : Prop where
  /-- The identifier. -/
  eventId : Text.isBlankText event.eventId = false
  /-- The store. -/
  storeId : Text.isBlankText event.storeId = false

/-- A query that can be sent: its text and its store are visible. -/
structure Query.Sendable (query : Query) : Prop where
  /-- The text. -/
  text : Text.isBlankText query.query = false
  /-- The store. -/
  storeId : Text.isBlankText query.storeId = false

theorem isBlankText_of_mem_vocabulary {word : String} (hword : word ∈ vocabulary) :
    Text.isBlankText word = false := by
  have hall : ∀ word ∈ vocabulary, Text.isBlankText word = false := by decide
  exact hall word hword

/-! ## Workloads that may be drawn -/

/-- An event that may be drawn at an index: the words and the key may be any. -/
def DrawnEvent (storeId : String) (index : Nat) (event : Event) : Prop :=
  ∃ words key, event = .make storeId index words key

/-- A query that may be drawn: it is for some words of the vocabulary. -/
def DrawnQuery (plan : WorkloadPlan) (storeId : String) (query : Query) : Prop :=
  ∃ words, words ≠ [] ∧ (∀ word ∈ words, word ∈ vocabulary) ∧ query = .make plan storeId words

/-- The workload of a store, whatever was drawn for its events and queries. -/
structure Drawn (plan : WorkloadPlan) (storeId : String) (workload : StoreWorkload) : Prop where
  /-- The workload is for the store. -/
  store : workload.storeId = storeId
  /-- There is an event for each index. -/
  events : List.Forall₂ (DrawnEvent storeId) (List.range plan.events.toNat) workload.events
  /-- There are as many queries as planned. -/
  queryCount : workload.queries.length = plan.queries.toNat
  /-- Each of them may be drawn. -/
  queries : ∀ query ∈ workload.queries, DrawnQuery plan storeId query

theorem drawEvent_gives (storeId : String) (index : Nat) :
    (drawEvent storeId index).Gives (DrawnEvent storeId index) := by
  unfold drawEvent
  refine .ofBind (.any _) fun count _ => .ofBind (.any _) fun words _ => ?_
  split
  · exact .ofBind (.any _) fun key _ => .ofPure ⟨words, key, rfl⟩
  · exact .ofPure ⟨words, 0, rfl⟩

theorem drawQuery_gives (plan : WorkloadPlan) (storeId : String) :
    (drawQuery plan storeId).Gives (DrawnQuery plan storeId) := by
  refine .ofBind (Random.choose_gives vocabulary 2) fun words hwords => .ofPure ?_
  have hlength : words.length = 2 := hwords.1
  exact ⟨words, List.ne_nil_of_length_pos (by omega), hwords.2, rfl⟩

/-- A workload that is generated from a seed is one that may be drawn. -/
theorem drawn_generate (plan : WorkloadPlan) (storeId : String) (position : UInt64) :
    Drawn plan storeId (.generate plan storeId position) := by
  have hgives : (drawWorkload plan storeId).Gives (Drawn plan storeId) := by
    refine .ofBind (.ofMapM fun index _ => drawEvent_gives storeId index) fun events hevents => ?_
    refine .ofBind (.ofMapM fun _ _ => drawQuery_gives plan storeId) fun queries hqueries => ?_
    refine .ofPure ⟨rfl, hevents, ?_, ?_⟩
    · rw [← hqueries.length_eq, List.length_range]
    · intro query hquery
      obtain ⟨position, hposition, rfl⟩ := List.getElem_of_mem hquery
      exact hqueries.get (by rwa [hqueries.length_eq]) hposition
  exact hgives _

namespace Drawn

variable {plan : WorkloadPlan} {storeId : String} {workload : StoreWorkload}

theorem map_eventId (hdrawn : Drawn plan storeId workload) :
    workload.events.map Event.eventId =
      (List.range plan.events.toNat).map (eventIdAt storeId) := by
  rw [← List.forall₂_eq_eq_eq, List.forall₂_map_left_iff, List.forall₂_map_right_iff]
  refine List.Forall₂.flip (hdrawn.events.imp ?_)
  rintro index _ ⟨words, key, rfl⟩
  exact make_eventId storeId index words key

theorem exists_eventIdAt (hdrawn : Drawn plan storeId workload) {eventId : String}
    (hmem : eventId ∈ workload.events.map Event.eventId) :
    ∃ index, eventId = eventIdAt storeId index := by
  rw [hdrawn.map_eventId] at hmem
  obtain ⟨index, -, rfl⟩ := List.mem_map.1 hmem
  exact ⟨index, rfl⟩

theorem length_events (hdrawn : Drawn plan storeId workload) :
    workload.events.length = plan.events.toNat := by
  rw [← hdrawn.events.length_eq, List.length_range]

theorem event_sendable (hdrawn : Drawn plan storeId workload)
    (hstore : Text.isBlankText storeId = false) {event : Event}
    (hevent : event ∈ workload.events) : event.Sendable := by
  obtain ⟨position, hposition, rfl⟩ := List.getElem_of_mem hevent
  obtain ⟨words, key, hmake⟩ :=
    hdrawn.events.get (by rwa [hdrawn.events.length_eq]) hposition
  rw [List.get_eq_getElem] at hmake
  rw [hmake]
  exact ⟨isBlankText_eventIdAt storeId _, hstore⟩

theorem query_sendable (hdrawn : Drawn plan storeId workload)
    (hstore : Text.isBlankText storeId = false) {query : Query}
    (hquery : query ∈ workload.queries) : query.Sendable := by
  obtain ⟨words, hne, hwords, rfl⟩ := hdrawn.queries query hquery
  obtain ⟨first, rest, rfl⟩ := List.exists_cons_of_ne_nil hne
  have hfirst := isBlankText_of_mem_vocabulary (hwords first List.mem_cons_self)
  exact ⟨Text.isBlankText_intercalate rest hfirst, hstore⟩

/-- No identifier is used twice. -/
theorem nodup_eventId (hdrawn : Drawn plan storeId workload) :
    (workload.events.map Event.eventId).Nodup := by
  rw [hdrawn.map_eventId]
  exact List.Nodup.map (fun _ _ heq => (eventIdAt_injective heq).2) List.nodup_range

end Drawn

end Recollection.Benchmark
