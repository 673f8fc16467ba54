import Std.Time.DateTime.Timestamp
import Recollection.Benchmark.ContractEngine
import Recollection.Benchmark.Tables
import Recollection.Benchmark.Variables
import Recollection.Settings.Overlay
/-!
# The benchmark program

The program measures the engine over services in memory under the plan that the environment gives,
leaves the document and the tables of the report in the output directory, and fails if a gate fails.

Here are only the clock, the random bits, the environment and the files: what is asked, what is
sampled and what is written are values of the library.
-/

set_option autoImplicit false

namespace Recollection.Benchmark

/-- The environment, as far as the variables of some names go. -/
def readEnvironment (names : List String) : IO Environment := do
  let texts ← names.filterMapM fun name => do
    return (← IO.getEnv name).map fun text => (name, text)
  return fun name => texts.lookup name

/-- The result of some work, and the milliseconds that it took. -/
def timed {α : Type} (work : Unit → α) : IO (Binary64 × α) := do
  let start ← IO.monoNanosNow
  let result ← IO.lazyPure work
  let stop ← IO.monoNanosNow
  return (.ofRatio false (stop - start) 1000000, result)

/-- Exercises one store by the clock. -/
def measureStore {σ : Type} (engine : Engine σ) (workload : StoreWorkload) (start : σ) :
    IO (Samples × σ) := do
  let mut state := start
  let mut replies := #[]
  for call in workload.calls do
    let before := state
    let (millis, reply, behind) ← timed fun () => engine.perform call before
    replies := replies.push ⟨millis, reply⟩
    state := behind
  return (.ofReplies workload.events.length replies.toList, state)

/-- Exercises all stores of a plan by the clock. -/
def measureStores {σ : Type} (engine : Engine σ) (plan : WorkloadPlan) (start : σ) :
    IO (List (String × Samples)) := do
  let mut state := start
  let mut measured := #[]
  for (storeId, position) in plan.stores.zipIdx do
    let workload := StoreWorkload.generate plan storeId (.ofNat position)
    let (samples, behind) ← measureStore engine workload state
    measured := measured.push (storeId, samples)
    state := behind
  return measured.toList

/-- A fresh identifier of a run. -/
def freshRunId : IO RunId := do
  let bytes ← IO.getRandomBytes 16
  return .ofRandom (bytes.toList.foldl (fun bits byte => bits <<< 8 ||| .ofNat 128 byte.toNat) 0)

/-- The time of day. -/
def timeOfDay : IO Timestamp := do
  return .ofNanos (← Std.Time.Timestamp.now).toNanosecondsSinceUnixEpoch.val

/-- The report on a run of the engine over services in memory. -/
def measure (plan : Plan) : IO Report := do
  let engine := ContractEngine.inMemory
  let perStore ← measureStores engine plan.workload .empty
  return .assemble (← freshRunId) (← timeOfDay) engine.identity plan perStore

/-- Leaves the artifacts of a report in a directory, and names them. -/
def writeArtifacts (directory : String) (report : Report) : IO (List String) := do
  IO.FS.createDirAll directory
  let place (file : String) : String :=
    if directory.endsWith "/" then directory ++ file else directory ++ "/" ++ file
  IO.FS.writeFile (place documentFile) report.encode.pretty
  IO.FS.writeFile (place tablesFile) report.tables
  return [place documentFile, place tablesFile]

/-- Says on the error channel what could not be done, and why. -/
def giveUp (activity reason : String) : IO UInt32 := do
  IO.eprintln ("Error: " ++ activity ++ "\n\nCaused by:\n    " ++ reason)
  return 1

/-- Carries out a plan. -/
def carryOut (plan : Plan) : IO UInt32 := do
  let report ← measure plan
  let directory := plan.outputDirectory
  match ← (writeArtifacts directory report).toBaseIO with
  | .error e =>
    giveUp ("writing artifacts to " ++ directory) ("artifact I/O failed: " ++ toString e)
  | .ok files =>
    files.forM IO.println
    if report.passed then
      return 0
    IO.eprintln ("failed gates: " ++ ", ".intercalate report.failedGates)
    return 1

end Recollection.Benchmark

open Recollection in
/-- Runs the benchmark that the environment describes. -/
def main : IO UInt32 := do
  let environment ← Benchmark.readEnvironment (Settings.variableNames ++
    Benchmark.Plan.variableNames)
  match Settings.ofEnvironment environment, Benchmark.Plan.ofEnvironment environment with
  | .error fault, _ => Benchmark.giveUp "reading MNEM_* configuration" fault.message
  | _, .error fault => Benchmark.giveUp "reading MNEM_BENCH_* configuration" fault.message
  | .ok _, .ok plan => Benchmark.carryOut plan
