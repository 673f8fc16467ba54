import Recollection.Benchmark.Plan
import Recollection.Benchmark.Sanitized
import Recollection.Memory.Layer
import Recollection.Random.Draw
import Recollection.Service.Clock
import Recollection.Text.Hexadecimal
import Recollection.Text.Padded
/-!
# Workloads

A workload is made up for every store from the seed of the plan and the position of the store, so a
further store leaves the workloads of the others as they are. Events are a few words of a small
vocabulary; every seventh carries a key and every eleventh a script block, which an engine has to
keep out of its memories.
-/

set_option autoImplicit false

namespace Recollection.Benchmark

/-- Something to remember. -/
structure Event where
  /-- The store it belongs to. -/
  storeId : String
  /-- Its identifier; sent again, it has the same one. -/
  eventId : String
  /-- The layer it goes to. -/
  layer : MemoryLayer
  /-- When it happened. -/
  occurredAtMillis : EpochMillis
  /-- What happened. -/
  text : String
deriving DecidableEq, Repr

/-- Something to recall. -/
structure Query where
  /-- The store to search. -/
  storeId : String
  /-- The words to look for. -/
  query : String
  /-- The greatest number of items. -/
  maxItems : UInt32
  /-- The greatest number of tokens that the items may make up. -/
  tokenBudget : UInt32
deriving DecidableEq, Repr

/-- Everything that is asked of one store. -/
structure StoreWorkload where
  /-- The store. -/
  storeId : String
  /-- The events, which are sent twice. -/
  events : List Event
  /-- The queries. -/
  queries : List Query
deriving DecidableEq, Repr

/-! ## Events -/

/-- The words that events are made of. -/
def vocabulary : List String :=
  ["forge", "harvest", "market", "river", "lantern", "council", "caravan", "orchard", "archive",
    "bridge", "festival", "storm", "mill", "ledger", "garrison", "well", "tavern", "quarry",
    "shrine", "granary"]

/-- Whether the event at an index carries a key. -/
def carriesSecret (index : Nat) : Bool :=
  (index + 1) % 7 == 0

/-- Whether the event at an index carries a script block. -/
def carriesScript (index : Nat) : Bool :=
  (index + 1) % 11 == 0

/-- The mention of a key, sixteen hexadecimal digits long. -/
def secretText (key : UInt64) : String :=
  " " ++ String.ofList secretMarker ++ Text.padded 16 (Text.hexadecimal key.toNat)

/-- The script block of an event. -/
def scriptText (index : Nat) : String :=
  " " ++ String.ofList scriptOpening ++ "alert(" ++ toString index ++ ")" ++
    String.ofList scriptClosing

/-- The text of the event at an index, from the words and the key drawn for it. -/
def eventText (index : Nat) (words : List String) (key : UInt64) : String :=
  " ".intercalate words ++ (if carriesSecret index then secretText key else "") ++
    (if carriesScript index then scriptText index else "")

/-- The layer of the event at an index; the layers take turns. -/
def eventLayer (index : Nat) : MemoryLayer :=
  MemoryLayer.all.getD (index % MemoryLayer.all.length) .episodic

/-- The event at an index, from the words and the key drawn for it. -/
def Event.make (storeId : String) (index : Nat) (words : List String) (key : UInt64) : Event where
  storeId := storeId
  eventId := storeId ++ "-evt-" ++ Text.decimal 6 index
  layer := eventLayer index
  occurredAtMillis := Clock.deterministicInstant + UInt64.ofNat index * 1000
  text := eventText index words key

/-- A query for some words. -/
def Query.make (plan : WorkloadPlan) (storeId : String) (words : List String) : Query :=
  ⟨storeId, " ".intercalate words, plan.maxItems, plan.tokenBudget⟩

/-! ## Random choices -/

/-- Draws the event at an index: four to eight words, and a key if it carries one. -/
def drawEvent (storeId : String) (index : Nat) : Random.Draw Event := do
  let words ← Random.choose vocabulary (← Random.between64 4 8)
  let key ← if carriesSecret index then Random.word64 else pure 0
  return .make storeId index words key

/-- Draws a query for two words. -/
def drawQuery (plan : WorkloadPlan) (storeId : String) : Random.Draw Query := do
  return .make plan storeId (← Random.choose vocabulary 2)

/-- Draws a workload: all events, and then all queries. -/
def drawWorkload (plan : WorkloadPlan) (storeId : String) : Random.Draw StoreWorkload := do
  let events ← (List.range plan.events.toNat).mapM (drawEvent storeId)
  let queries ← (List.range plan.queries.toNat).mapM fun _ => drawQuery plan storeId
  return ⟨storeId, events, queries⟩

/-- The workload of the store at a position. -/
def StoreWorkload.generate (plan : WorkloadPlan) (storeId : String) (position : UInt64) :
    StoreWorkload :=
  ((drawWorkload plan storeId).run (.ofSeed (plan.seed + position))).1

/-! ## Documents -/

/-- Loads an event. -/
def Event.load : Load Event := fun document => do
  let record ← Record.ofJson
    ["storeId", "eventId", "layer", "occurredAtMillis", "text"] document
  return ⟨← record.required "storeId" .text, ← record.required "eventId" .text,
    ← record.required "layer" MemoryLayer.load, ← record.required "occurredAtMillis" .word64,
    ← record.required "text" .text⟩

/-- The document of an event. -/
def Event.encode (event : Event) : Json :=
  .object [("storeId", .string event.storeId), ("eventId", .string event.eventId),
    ("layer", .string event.layer.name), ("occurredAtMillis", .ofUInt64 event.occurredAtMillis),
    ("text", .string event.text)]

/-- Loads a query. -/
def Query.load : Load Query := fun document => do
  let record ← Record.ofJson ["storeId", "query", "maxItems", "tokenBudget"] document
  return ⟨← record.required "storeId" .text, ← record.required "query" .text,
    ← record.required "maxItems" .word32, ← record.required "tokenBudget" .word32⟩

/-- The document of a query. -/
def Query.encode (query : Query) : Json :=
  .object [("storeId", .string query.storeId), ("query", .string query.query),
    ("maxItems", .ofUInt32 query.maxItems), ("tokenBudget", .ofUInt32 query.tokenBudget)]

end Recollection.Benchmark
