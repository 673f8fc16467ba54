import Mathlib.Data.List.Nodup
import Recollection.Benchmark.Report
import Recollection.Proofs.Benchmark.Variables
import Recollection.Proofs.Benchmark.Workload
/-!
# The names of failing gates

A report lists each gate that fails by a name that is made of the name of its scope and its own. The
name of a gate has no point in it, so a name tells both apart again. It does not tell the scope: a
store may have the name that stands for all stores together, and a gate that fails in both is then
listed twice under one name. No other two gates share one.
-/

set_option autoImplicit false

namespace Recollection.Benchmark

/-! ## Gates that fail -/

/-- Where a gate stands: with all stores together, or with one of them. -/
inductive Place
  /-- All stores together. -/
  | aggregate
  /-- One store. -/
  | store (storeId : String)
deriving DecidableEq, Repr

/-- The name of a place in a report. -/
def Place.name : Place → String
  | .aggregate => aggregateName
  | .store storeId => storeId

/-- The name of a gate at a place. -/
def gateName (place : Place) (gate : String) : String :=
  place.name ++ "." ++ gate

/-- These are the gates at a place of a report. -/
def Report.GatesAt (report : Report) : Place → Gates → Prop
  | .aggregate, gates => gates = report.aggregate.gates
  | .store storeId, gates => ∃ scope ∈ report.stores, scope.storeId = storeId ∧ gates = scope.gates

/-- A gate at a place of a report does not pass. -/
def Report.FailsAt (report : Report) (place : Place) (gate : String) : Prop :=
  ∃ gates, report.GatesAt place gates ∧ (gate, false) ∈ gates.verdicts

namespace Gates

variable (gates : Gates)

theorem failed_eq :
    gates.failed = (gates.verdicts.filter fun verdict => !verdict.2).map Prod.fst := by
  rw [failed, ← List.filterMap_eq_map, List.filterMap_filter]
  refine List.filterMap_congr ?_
  rintro ⟨name, passes⟩ -
  cases passes <;> rfl

theorem mem_failed_iff {gate : String} : gate ∈ gates.failed ↔ (gate, false) ∈ gates.verdicts := by
  simp [failed_eq]

theorem map_fst_verdicts : gates.verdicts.map Prod.fst =
    ["ingestP95", "replayP95", "recallP95", "recallMaxPayload", "replayDuplicates",
      "engineErrors"] :=
  rfl

/-- Gates have different names. -/
theorem nodup_failed : gates.failed.Nodup := by
  have hnames : (gates.verdicts.map Prod.fst).Nodup := by
    rw [map_fst_verdicts]
    decide
  rw [failed_eq]
  exact hnames.sublist (List.filter_sublist.map Prod.fst)

/-- There is no point in the name of a gate. -/
theorem point_notMem {gate : String} {passes : Bool} (hmem : (gate, passes) ∈ gates.verdicts) :
    '.' ∉ gate.toList := by
  have hnames : ∀ name ∈ gates.verdicts.map Prod.fst, '.' ∉ name.toList := by
    rw [map_fst_verdicts]
    decide
  exact hnames gate (List.mem_map_of_mem hmem)

end Gates

/-- A name tells the name of the place and that of the gate. -/
theorem gateName_inj {place other : Place} {gate another : String} (hgate : '.' ∉ gate.toList)
    (hanother : '.' ∉ another.toList) (heq : gateName place gate = gateName other another) :
    place.name = other.name ∧ gate = another := by
  have htext := congrArg String.toList heq
  have hpoint : ".".toList = ['.'] := rfl
  simp only [gateName, String.toList_append, hpoint, List.append_assoc, List.singleton_append]
    at htext
  obtain ⟨hplace, hback⟩ := eq_of_append_cons_eq hgate hanother htext
  exact ⟨String.toList_inj.1 hplace, String.toList_inj.1 hback⟩

namespace Report

theorem FailsAt.point_notMem {report : Report} {place : Place} {gate : String}
    (hfails : report.FailsAt place gate) : '.' ∉ gate.toList := by
  obtain ⟨gates, -, hverdict⟩ := hfails
  exact gates.point_notMem hverdict

/-- Every place of a report with every gate that fails there, in the order of the report. -/
def failing (report : Report) : List (Place × String) :=
  report.aggregate.gates.failed.map (Prod.mk .aggregate) ++
    report.stores.flatMap fun scope => scope.gates.failed.map (Prod.mk (.store scope.storeId))

variable {report : Report}

theorem mem_failing_iff {place : Place} {gate : String} :
    (place, gate) ∈ report.failing ↔ report.FailsAt place gate := by
  rw [failing, List.mem_append, List.mem_flatMap, List.mem_map]
  constructor
  · rintro (⟨name, hfails, heq⟩ | ⟨scope, hscope, hmem⟩)
    · obtain ⟨rfl, rfl⟩ := Prod.mk.inj heq
      exact ⟨_, rfl, (Gates.mem_failed_iff _).1 hfails⟩
    · obtain ⟨name, hfails, heq⟩ := List.mem_map.1 hmem
      obtain ⟨rfl, rfl⟩ := Prod.mk.inj heq
      exact ⟨_, ⟨scope, hscope, rfl, rfl⟩, (Gates.mem_failed_iff _).1 hfails⟩
  · rintro ⟨gates, hgates, hfails⟩
    rw [← Gates.mem_failed_iff] at hfails
    cases place with
    | aggregate =>
      obtain rfl := hgates
      exact .inl ⟨gate, hfails, rfl⟩
    | store storeId =>
      obtain ⟨scope, hscope, rfl, rfl⟩ := hgates
      exact .inr ⟨scope, hscope, List.mem_map_of_mem hfails⟩

/-- Where stores have different names, no gate fails twice at a place. -/
theorem nodup_failing (hstores : (report.stores.map Scope.storeId).Nodup) :
    report.failing.Nodup := by
  have hplace : ∀ (place : Place) (gates : Gates), (gates.failed.map (Prod.mk place)).Nodup :=
    fun place gates => gates.nodup_failed.map fun _ _ heq => (Prod.mk.inj heq).2
  have hapart : ∀ (place other : Place) (gates more : Gates), place ≠ other →
      (gates.failed.map (Prod.mk place)).Disjoint (more.failed.map (Prod.mk other)) := by
    intro place other gates more hne entry hmem hmore
    obtain ⟨gate, -, rfl⟩ := List.mem_map.1 hmem
    obtain ⟨another, -, heq⟩ := List.mem_map.1 hmore
    exact hne (Prod.mk.inj heq).1.symm
  refine List.Nodup.append (hplace _ _) (List.nodup_flatMap.2 ⟨fun scope _ => hplace _ _, ?_⟩) ?_
  · refine (List.pairwise_map.1 hstores).imp fun {scope other} hne => ?_
    exact hapart _ _ _ _ fun heq => hne (Place.store.inj heq)
  · intro entry hall hstore
    obtain ⟨scope, -, hmem⟩ := List.mem_flatMap.1 hstore
    have hne : Place.aggregate ≠ .store scope.storeId := nofun
    exact hapart _ _ _ _ hne hall hmem

/-- The gates that are listed are those that fail. -/
theorem failedGates_eq (hname : report.aggregate.storeId = aggregateName) :
    report.failedGates = report.failing.map fun entry => gateName entry.1 entry.2 := by
  rw [failedGates, scopes, List.flatMap_cons, failing, List.map_append, List.map_flatMap]
  simp only [Scope.failedGates, List.map_map, hname]
  rfl

/-- The names of all gates that fail are different, unless a gate fails both with all stores
together and with a store that has their name. -/
theorem nodup_failedGates_iff (hname : report.aggregate.storeId = aggregateName)
    (hstores : (report.stores.map Scope.storeId).Nodup) :
    report.failedGates.Nodup ↔
      ¬∃ gate, report.FailsAt .aggregate gate ∧ report.FailsAt (.store aggregateName) gate := by
  rw [failedGates_eq hname, List.nodup_map_iff_inj_on (nodup_failing hstores)]
  constructor
  · rintro hinj ⟨gate, hall, hstore⟩
    have hsame := hinj _ (mem_failing_iff.2 hall) _ (mem_failing_iff.2 hstore) rfl
    cases (Prod.mk.inj hsame).1
  · rintro hnone ⟨place, gate⟩ hmem ⟨other, another⟩ hother hsame
    have hfails := mem_failing_iff.1 hmem
    have hagain := mem_failing_iff.1 hother
    obtain ⟨hplace, rfl⟩ := gateName_inj hfails.point_notMem hagain.point_notMem hsame
    cases place with
    | aggregate =>
      cases other with
      | aggregate => rfl
      | store storeId =>
        obtain rfl : aggregateName = storeId := hplace
        exact absurd ⟨gate, hfails, hagain⟩ hnone
    | store storeId =>
      cases other with
      | aggregate =>
        obtain rfl : storeId = aggregateName := hplace
        exact absurd ⟨gate, hagain, hfails⟩ hnone
      | store another =>
        obtain rfl : storeId = another := hplace
        rfl

theorem map_storeId_assemble (runId : RunId) (generatedAt : Timestamp) (identity : EngineIdentity)
    (plan : Plan) (perStore : List (String × Samples)) :
    (assemble runId generatedAt identity plan perStore).stores.map Scope.storeId =
      perStore.map Prod.fst := by
  rw [assemble, List.map_map]
  rfl

end Report

/-- The report on a run under a plan from the environment lists every gate that fails once, behind
the name of its place. The names are different, unless there is a store with the name that stands
for all stores together, and a gate fails both with this store and with all of them. -/
theorem failedGates_listed {environment : Environment} {plan : Plan}
    (hplan : Plan.ofEnvironment environment = .ok plan) {perStore : List (String × Samples)}
    (hstores : perStore.map Prod.fst = plan.workload.stores) (runId : RunId)
    (generatedAt : Timestamp) (identity : EngineIdentity) :
    (∃ failing : List (Place × String),
      (Report.assemble runId generatedAt identity plan perStore).failedGates =
        failing.map (fun entry => gateName entry.1 entry.2) ∧
      failing.Nodup ∧
      ∀ place gate, (place, gate) ∈ failing ↔
        (Report.assemble runId generatedAt identity plan perStore).FailsAt place gate) ∧
    ((Report.assemble runId generatedAt identity plan perStore).failedGates.Nodup ↔
      ¬∃ gate, (Report.assemble runId generatedAt identity plan perStore).FailsAt .aggregate gate ∧
        (Report.assemble runId generatedAt identity plan perStore).FailsAt
          (.store aggregateName) gate) ∧
    (aggregateName ∉ plan.workload.stores →
      (Report.assemble runId generatedAt identity plan perStore).failedGates.Nodup) := by
  have hnames := Report.map_storeId_assemble runId generatedAt identity plan perStore
  have hnodup : ((Report.assemble runId generatedAt identity plan perStore).stores.map
      Scope.storeId).Nodup := by
    rw [hnames, hstores]
    exact (distinctStores_of_ofEnvironment hplan).nodup
  refine ⟨⟨Report.failing _, Report.failedGates_eq rfl, Report.nodup_failing hnodup,
    fun _ _ => Report.mem_failing_iff⟩, Report.nodup_failedGates_iff rfl hnodup, ?_⟩
  intro hother
  rw [Report.nodup_failedGates_iff rfl hnodup]
  rintro ⟨gate, -, gates, ⟨scope, hscope, hname, -⟩, -⟩
  rw [← hstores, ← hnames, ← hname] at hother
  exact hother (List.mem_map_of_mem hscope)

/-- An environment that names two stores, one of them as all of them together are called. -/
def loftEnvironment : Environment := fun name =>
  [("MNEM_BENCH_STORES", "aggregate,loft")].lookup name

/-- The plan for the two. -/
def loftPlan : Plan :=
  { Plan.standard with workload := { WorkloadPlan.standard with stores := ["aggregate", "loft"] } }

/-- The samples of some events that were sent twice. -/
def twice (times : List Binary64) (events duplicates : UInt64) : Samples where
  events := events
  ingestMillis := times
  replayMillis := times
  recallMillis := []
  recallBytes := []
  replayDuplicates := duplicates
  ingestErrors := 0
  replayErrors := 0
  recallErrors := 0

/-- Where most times are short, only the gate for duplicates can fail. -/
theorem failedGates_twice {times : List Binary64} (hshort : (Summary.ofSamples times).p95 = .one)
    (place : String) (events duplicates queries : UInt64) :
    Scope.failedGates (.ofSamples place (twice times events duplicates) queries .standard) =
      if duplicates = events then [] else [place ++ "." ++ "replayDuplicates"] := by
  have hempty : Summary.ofSamples [] = ⟨0, .zero, .zero, .zero⟩ := by
    simp [Summary.ofSamples, sortSamples, nearestRank?]
  have hgates : Gates.evaluate (.ofSamples (twice times events duplicates) queries) .standard =
      ⟨true, true, true, true, duplicates == events, true⟩ := by
    rw [Gates.evaluate, Metrics.ofSamples, Gates.mk.injEq]
    simp only [twice, hshort, hempty]
    exact ⟨by decide +kernel, by decide +kernel, by decide +kernel, by decide +kernel, trivial, rfl⟩
  rw [Scope.failedGates, Scope.ofSamples, hgates]
  by_cases hsame : duplicates = events <;> simp [hsame, Gates.failed, Gates.verdicts]

/-- The report on the two, of which each has one event. -/
def loftReport (first second : UInt64) : Report :=
  .assemble ⟨0⟩ ⟨0, 0⟩ ⟨"fixtures/loft", "Loft"⟩ loftPlan
    [("aggregate", twice [.one] 1 first), ("loft", twice [.one] 1 second)]

theorem loftPlan_given : Plan.ofEnvironment loftEnvironment = .ok loftPlan := by
  decide +kernel

theorem failedGates_loftReport (first second : UInt64) :
    (loftReport first second).failedGates =
      (if first + second = 2 then [] else ["aggregate.replayDuplicates"]) ++
        ((if first = 1 then [] else ["aggregate.replayDuplicates"]) ++
          ((if second = 1 then [] else ["loft.replayDuplicates"]) ++ [])) := by
  have hone : (Summary.ofSamples [.one]).p95 = .one := by
    rw [Summary.ofSamples, sortSamples, List.mergeSort_of_pairwise (by decide)]
    decide +kernel
  have htwo : (Summary.ofSamples [.one, .one]).p95 = .one := by
    rw [Summary.ofSamples, sortSamples, List.mergeSort_of_pairwise (by decide)]
    decide +kernel
  have htotal : Samples.total [first, second] = first + second :=
    congrArg (· + second) (UInt64.zero_add first)
  have hunion : Samples.union [twice [.one] 1 first, twice [.one] 1 second] =
      twice [.one, .one] 2 (first + second) := by
    rw [← htotal]
    rfl
  have hall := failedGates_twice htwo "aggregate" 2 (first + second) 600
  have hfirst := failedGates_twice hone "aggregate" 1 first 300
  have hsecond := failedGates_twice hone "loft" 1 second 300
  rw [← hunion] at hall
  exact congrArg₂ (· ++ ·) hall (congrArg₂ (· ++ ·) hfirst (congrArg (· ++ []) hsecond))

/-- Where the other one loses its event, the names are different. -/
theorem loftReport_listed :
    Plan.ofEnvironment loftEnvironment = .ok loftPlan ∧
      (loftReport 1 0).failedGates =
        ["aggregate.replayDuplicates", "loft.replayDuplicates"] ∧
      ∃ failing : List (Place × String), failing.length = 2 ∧ failing.Nodup ∧
        ∀ place gate, (place, gate) ∈ failing ↔ (loftReport 1 0).FailsAt place gate := by
  have hfailed := failedGates_loftReport 1 0
  have hstores : [("aggregate", twice [.one] 1 1), ("loft", twice [.one] 1 0)].map Prod.fst =
      loftPlan.workload.stores := rfl
  obtain ⟨failing, hlisted, hnodup, hfails⟩ :=
    (failedGates_listed loftPlan_given hstores ⟨0⟩ ⟨0, 0⟩ ⟨"fixtures/loft", "Loft"⟩).1
  refine ⟨loftPlan_given, hfailed, failing, ?_, hnodup, hfails⟩
  have hlength := congrArg List.length (hlisted.symm.trans hfailed)
  rwa [List.length_map] at hlength

/-- Where the one with the common name loses its event, one name is listed twice. -/
theorem loftReport_not_told_apart :
    Plan.ofEnvironment loftEnvironment = .ok loftPlan ∧
      (loftReport 0 1).stores.map Scope.storeId = loftPlan.workload.stores ∧
      (loftReport 0 1).failedGates =
        ["aggregate.replayDuplicates", "aggregate.replayDuplicates"] ∧
      ¬(loftReport 0 1).failedGates.Nodup := by
  have hfailed := failedGates_loftReport 0 1
  refine ⟨loftPlan_given, rfl, hfailed, ?_⟩
  rw [hfailed]
  decide

end Recollection.Benchmark
