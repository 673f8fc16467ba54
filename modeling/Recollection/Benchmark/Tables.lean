import Recollection.Benchmark.Report
import Recollection.Number.Numeral
/-!
# Tables of a report

A report for people: what was run, under which thresholds, what was measured, and which gates
passed, as tables in Markdown.
-/

set_option autoImplicit false

namespace Recollection.Benchmark

/-- A row of a table. -/
def tableRow (cells : List String) : String :=
  "| " ++ " | ".intercalate cells ++ " |"

/-- The rule below the heads of a table. -/
def tableRule (columns : Nat) : String :=
  "|" ++ "|".intercalate (List.replicate columns "---") ++ "|"

/-- A table, by its heads and its rows. -/
def tableLines (heads : List String) (rows : List (List String)) : List String :=
  tableRow heads :: tableRule heads.length :: rows.map tableRow

/-- How the verdict on a gate is shown. -/
def verdictText (passes : Bool) : String :=
  if passes then "pass" else "FAIL"

/-- A sample with three decimal places. -/
def sampleText (sample : Binary64) : String :=
  sample.fixed 3

/-- An unsigned number. -/
def countText (n : UInt64) : String :=
  toString n.toNat

/-- The rows of a scope in the table of metrics. -/
def metricRows (scope : Scope) : List (List String) :=
  let metrics := scope.metrics
  [("ingest ms", metrics.ingestMillis), ("replay ms", metrics.replayMillis),
    ("recall ms", metrics.recallMillis), ("recall bytes", metrics.recallBytes)].map
    fun (name, summary) =>
      [scope.storeId, name, sampleText summary.p50, sampleText summary.p95,
        sampleText summary.greatest]

/-- The row of a scope in the table of gates. -/
def gateRow (scope : Scope) : List String :=
  let metrics := scope.metrics
  let gates := scope.gates
  [scope.storeId, verdictText gates.ingestMillis, verdictText gates.replayMillis,
    verdictText gates.recallMillis, verdictText gates.recallBytes,
    verdictText gates.replayDuplicates ++ " (" ++ countText metrics.replayDuplicates ++ "/" ++
      countText metrics.events ++ ")",
    verdictText gates.engineErrors ++ " (" ++ countText metrics.engineErrors ++ ")"]

namespace Report

/-- What stands above the tables. -/
def headLines (report : Report) : List String :=
  ["# mnem benchmark report", "", "- Run: `" ++ report.runId.render ++ "`",
    "- Generated: " ++ report.generatedAt.render "+00:00",
    "- Implementation: `" ++ report.implementation.exportName ++ "` from `" ++
      report.implementation.source ++ "`",
    "- Verdict: **" ++ (if report.passed then "PASS" else "FAIL") ++ "**", ""]

/-- The table of the workload. -/
def workloadLines (plan : WorkloadPlan) : List String :=
  ["## Workload", ""] ++
    tableLines ["events", "queries", "maxItems", "tokenBudget", "stores", "seed"]
      [[countText plan.events, countText plan.queries, toString plan.maxItems.toNat,
        toString plan.tokenBudget.toNat, ", ".intercalate plan.stores, countText plan.seed]] ++
    [""]

/-- The table of the thresholds. -/
def thresholdLines (thresholds : Thresholds) : List String :=
  ["## Thresholds", ""] ++
    tableLines ["ingest p95 ms", "replay p95 ms", "recall p95 ms", "recall max bytes"]
      [[thresholds.ingestMillis.render .plain, thresholds.replayMillis.render .plain,
        thresholds.recallMillis.render .plain, countText thresholds.recallBytes]] ++
    [""]

/-- The table of the metrics. -/
def metricLines (report : Report) : List String :=
  ["## Metrics", ""] ++
    tableLines ["scope", "metric", "p50", "p95", "max"] (report.scopes.flatMap metricRows) ++
    [""]

/-- The table of the gates. -/
def gateLines (report : Report) : List String :=
  ["## Gates", ""] ++
    tableLines ["scope", "ingest p95", "replay p95", "recall p95", "recall max payload",
      "replay duplicates", "engine errors"] (report.scopes.map gateRow)

/-- The report with all its tables, a line break behind every line. -/
def tables (report : Report) : String :=
  let lines := report.headLines ++ workloadLines report.workload ++
    thresholdLines report.thresholds ++ report.metricLines ++ report.gateLines
  String.join (lines.map (· ++ "\n"))

end Report

end Recollection.Benchmark
