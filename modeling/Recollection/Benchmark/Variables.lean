import Recollection.Benchmark.Plan
import Recollection.Collection.Repeat
import Recollection.Number.Reading
import Recollection.Settings.Variable
import Recollection.Text.Split
/-!
# Plans from the environment

Every part of a plan can be given by an environment variable; what is not given is as in the
standard plan. The variables are looked at in a fixed order, and the first one of no use is the
fault, so nothing is measured under a plan that was not meant.
-/

set_option autoImplicit false

namespace Recollection.Benchmark

/-- Reads a numeral with the given reader; white space around it does not count. -/
def readNumeral {α : Type} (read : String → Option α) (text : String) : Except String α :=
  match read (Text.trim text) with
  | some value => .ok value
  | none => .error "not a number of the expected kind"

/-- Reads a numeral of a number above zero. -/
def readPositive {α : Type} [LT α] [DecidableLT α] (zero : α) (read : String → Option α)
    (text : String) : Except String α := do
  let value ← readNumeral read text
  if zero < value then return value else .error "must be greater than zero"

/-- Reads a numeral of a finite number above zero. -/
def readMillis (text : String) : Except String Binary64 := do
  let value ← readNumeral Numeral.readBinary64? text
  if value.isFinite && Binary64.zero.lt value then return value
  else .error "must be a positive finite number"

/-- The names in a list with commas between them; blank parts do not count. -/
def storeNames (text : String) : List String :=
  ((Text.splitOn ',' text.toList).map fun part => Text.trim (String.ofList part)).filter
    fun name => !name.isEmpty

/-- Reads the names of some stores, which must be different. -/
def readStores (text : String) : Except String (List String) :=
  let names := storeNames text
  if names.isEmpty then .error "names no store"
  else
    match firstRepeat? names with
    | some (_, name) => .error ("lists " ++ name ++ " more than once")
    | none => .ok names

/-- The events for each store. -/
def eventsVariable : Variable UInt64 :=
  ⟨"MNEM_BENCH_EVENTS", readPositive 0 Numeral.readUInt64?⟩

/-- The recalls from each store. -/
def queriesVariable : Variable UInt64 :=
  ⟨"MNEM_BENCH_QUERIES", readPositive 0 Numeral.readUInt64?⟩

/-- The items of a recall. -/
def maxItemsVariable : Variable UInt32 :=
  ⟨"MNEM_BENCH_MAX_ITEMS", readPositive 0 Numeral.readUInt32?⟩

/-- The tokens of a recall. -/
def tokenBudgetVariable : Variable UInt32 :=
  ⟨"MNEM_BENCH_TOKEN_BUDGET", readPositive 0 Numeral.readUInt32?⟩

/-- The stores. -/
def storesVariable : Variable (List String) :=
  ⟨"MNEM_BENCH_STORES", readStores⟩

/-- The seed. -/
def seedVariable : Variable UInt64 :=
  ⟨"MNEM_BENCH_SEED", readNumeral Numeral.readUInt64?⟩

/-- The milliseconds for an ingest. -/
def ingestMillisVariable : Variable Binary64 :=
  ⟨"MNEM_BENCH_INGEST_P95_MS", readMillis⟩

/-- The milliseconds for an ingest of an event sent before. -/
def replayMillisVariable : Variable Binary64 :=
  ⟨"MNEM_BENCH_REPLAY_P95_MS", readMillis⟩

/-- The milliseconds for a recall. -/
def recallMillisVariable : Variable Binary64 :=
  ⟨"MNEM_BENCH_RECALL_P95_MS", readMillis⟩

/-- The bytes for an answer to a recall. -/
def recallBytesVariable : Variable UInt64 :=
  ⟨"MNEM_BENCH_RECALL_MAX_PAYLOAD_BYTES", readPositive 0 Numeral.readUInt64?⟩

/-- The directory that takes the report. -/
def outputDirectoryVariable : Variable String :=
  ⟨"MNEM_BENCH_OUTPUT_DIR", Variable.readVisible⟩

/-- The names of the variables, in the order in which they are looked at. -/
def Plan.variableNames : List String :=
  [eventsVariable.name, queriesVariable.name, maxItemsVariable.name, tokenBudgetVariable.name,
    storesVariable.name, seedVariable.name, ingestMillisVariable.name, replayMillisVariable.name,
    recallMillisVariable.name, recallBytesVariable.name, outputDirectoryVariable.name]

/-- The workload that the environment gives. -/
def WorkloadPlan.ofEnvironment (environment : Environment) :
    Except UnusableVariable WorkloadPlan := do
  return ⟨← eventsVariable.valueOr environment standard.events,
    ← queriesVariable.valueOr environment standard.queries,
    ← maxItemsVariable.valueOr environment standard.maxItems,
    ← tokenBudgetVariable.valueOr environment standard.tokenBudget,
    ← storesVariable.valueOr environment standard.stores,
    ← seedVariable.valueOr environment standard.seed⟩

/-- The thresholds that the environment gives. -/
def Thresholds.ofEnvironment (environment : Environment) :
    Except UnusableVariable Thresholds := do
  return ⟨← ingestMillisVariable.valueOr environment standard.ingestMillis,
    ← replayMillisVariable.valueOr environment standard.replayMillis,
    ← recallMillisVariable.valueOr environment standard.recallMillis,
    ← recallBytesVariable.valueOr environment standard.recallBytes⟩

/-- The plan that the environment gives. -/
def Plan.ofEnvironment (environment : Environment) : Except UnusableVariable Plan := do
  return ⟨← WorkloadPlan.ofEnvironment environment, ← Thresholds.ofEnvironment environment,
    ← outputDirectoryVariable.valueOr environment standard.outputDirectory⟩

end Recollection.Benchmark
