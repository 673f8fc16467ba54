import Recollection.Benchmark.Variables
import Recollection.Proofs.Number.Decimal
import Recollection.Proofs.Number.Range
import Recollection.Proofs.Settings.Overlay
import Recollection.Proofs.Text.Occurrence
/-!
# Plans from the environment

What the eleven variables stand for is told without reading them. A plan from the environment has
what the variables stand for in place of the parts of the standard plan, there is one exactly if
every variable that is set is of use, and otherwise the first variable of no use is the fault.

Every such plan can be run: its counts and limits are above zero, and its stores are the texts of
different identifiers of spaces.
-/

set_option autoImplicit false

namespace Recollection.Benchmark

/-! ## What variables stand for -/

/-- A count is given by a numeral of it, unless it is zero. -/
def GivesCount {α : Type} (toNat : α → Nat) (text : String) (count : α) : Prop :=
  Numeral.IsNumeral (Text.trim text).toList (toNat count) ∧ 0 < toNat count

/-- A seed is given by a numeral of it. -/
def GivesSeed (text : String) (seed : UInt64) : Prop :=
  Numeral.IsNumeral (Text.trim text).toList seed.toNat

/-- A finite number above zero. -/
structure IsLimit (limit : Binary64) : Prop where
  /-- Neither an infinity nor NaN. -/
  finite : limit.isFinite = true
  /-- Above zero. -/
  positive : Binary64.zero.lt limit = true

/-- A limit is given by a decimal numeral of it. -/
def GivesMillis (text : String) (limit : Binary64) : Prop :=
  Numeral.IsDecimal (Text.trim text).toList limit ∧ IsLimit limit

/-- A numeral without a minus whose value is neither so small that it is read as zero nor so great
that it is read as an infinity. -/
def IsMillisText (text : String) : Prop :=
  ∃ sign mantissa behind digits places power,
    (Text.trim text).toList = sign ++ (mantissa ++ behind) ∧
    Numeral.IsSign sign false ∧ Numeral.IsMantissa mantissa digits places ∧
    Numeral.IsExponent behind power ∧
    Binary64.halfUnit < digits * 10 ^ (power - places) ∧
    digits * 10 ^ (power - places) < (Binary64.overflow : ℚ)

/-- Stores are given by a text with commas between them: its parts, trimmed, without those that are
empty then. There must be a store, and none twice. -/
def GivesStores (text : String) (stores : List String) : Prop :=
  (∃ parts, Text.IsSplit ',' text.toList parts ∧
    stores = (parts.map fun part => Text.trim (String.ofList part)).filter (· ≠ "")) ∧
  stores ≠ [] ∧ stores.Nodup

/-- The variables of a workload in the order in which they are looked at. -/
def WorkloadPlan.variableRules : List VariableRule :=
  [.ofGives "MNEM_BENCH_EVENTS" (GivesCount UInt64.toNat),
    .ofGives "MNEM_BENCH_QUERIES" (GivesCount UInt64.toNat),
    .ofGives "MNEM_BENCH_MAX_ITEMS" (GivesCount UInt32.toNat),
    .ofGives "MNEM_BENCH_TOKEN_BUDGET" (GivesCount UInt32.toNat),
    .ofGives "MNEM_BENCH_STORES" GivesStores,
    .ofGives "MNEM_BENCH_SEED" GivesSeed]

/-- The variables of thresholds in the order in which they are looked at. -/
def Thresholds.variableRules : List VariableRule :=
  [.ofGives "MNEM_BENCH_INGEST_P95_MS" GivesMillis,
    .ofGives "MNEM_BENCH_REPLAY_P95_MS" GivesMillis,
    .ofGives "MNEM_BENCH_RECALL_P95_MS" GivesMillis,
    .ofGives "MNEM_BENCH_RECALL_MAX_PAYLOAD_BYTES" (GivesCount UInt64.toNat)]

/-- The variables of a plan in the order in which they are looked at. -/
def Plan.variableRules : List VariableRule :=
  WorkloadPlan.variableRules ++ (Thresholds.variableRules ++
    [.ofGives "MNEM_BENCH_OUTPUT_DIR" Settings.GivesVisible])

/-- A workload is the standard one with what the variables stand for in its places. -/
structure WorkloadPlan.IsGivenBy (environment : Environment) (workload : WorkloadPlan) : Prop where
  /-- The events. -/
  events : Given environment "MNEM_BENCH_EVENTS" (GivesCount UInt64.toNat) standard.events
    workload.events
  /-- The recalls. -/
  queries : Given environment "MNEM_BENCH_QUERIES" (GivesCount UInt64.toNat) standard.queries
    workload.queries
  /-- The items of a recall. -/
  maxItems : Given environment "MNEM_BENCH_MAX_ITEMS" (GivesCount UInt32.toNat) standard.maxItems
    workload.maxItems
  /-- The tokens of a recall. -/
  tokenBudget : Given environment "MNEM_BENCH_TOKEN_BUDGET" (GivesCount UInt32.toNat)
    standard.tokenBudget workload.tokenBudget
  /-- The stores. -/
  stores : Given environment "MNEM_BENCH_STORES" GivesStores standard.stores workload.stores
  /-- The seed. -/
  seed : Given environment "MNEM_BENCH_SEED" GivesSeed standard.seed workload.seed

/-- Thresholds are the standard ones with what the variables stand for in their places. -/
structure Thresholds.IsGivenBy (environment : Environment) (thresholds : Thresholds) : Prop where
  /-- The milliseconds for an ingest. -/
  ingestMillis : Given environment "MNEM_BENCH_INGEST_P95_MS" GivesMillis standard.ingestMillis
    thresholds.ingestMillis
  /-- The milliseconds for an ingest of an event sent before. -/
  replayMillis : Given environment "MNEM_BENCH_REPLAY_P95_MS" GivesMillis standard.replayMillis
    thresholds.replayMillis
  /-- The milliseconds for a recall. -/
  recallMillis : Given environment "MNEM_BENCH_RECALL_P95_MS" GivesMillis standard.recallMillis
    thresholds.recallMillis
  /-- The bytes for an answer to a recall. -/
  recallBytes : Given environment "MNEM_BENCH_RECALL_MAX_PAYLOAD_BYTES" (GivesCount UInt64.toNat)
    standard.recallBytes thresholds.recallBytes

/-- A plan is the standard one with what the variables stand for in its places. -/
structure Plan.IsGivenBy (environment : Environment) (plan : Plan) : Prop where
  /-- The workload. -/
  workload : plan.workload.IsGivenBy environment
  /-- The thresholds. -/
  thresholds : plan.thresholds.IsGivenBy environment
  /-- The directory that takes the report. -/
  outputDirectory : Given environment "MNEM_BENCH_OUTPUT_DIR" Settings.GivesVisible
    standard.outputDirectory plan.outputDirectory

/-! ## Reading the variables -/

theorem readNumeral_eq_ok_iff {α : Type} {read : String → Option α} {text : String} {value : α} :
    readNumeral read text = .ok value ↔ read (Text.trim text) = some value := by
  unfold readNumeral
  cases read (Text.trim text) <;> simp

section Positive

variable {α : Type} [LT α] [DecidableLT α] {zero : α} {read : String → Option α} {toNat : α → Nat}

theorem readPositive_eq_ok_iff (hread : ∀ text value,
      read text = some value ↔ Numeral.IsNumeral text.toList (toNat value))
    (hpositive : ∀ value, zero < value ↔ 0 < toNat value) (text : String) (value : α) :
    readPositive zero read text = .ok value ↔ GivesCount toNat text value := by
  simp only [readPositive, bind_eq_ok_iff, readNumeral_eq_ok_iff, GivesCount, ← hread, ← hpositive]
  constructor
  · rintro ⟨found, hfound, hresult⟩
    split at hresult
    · rename_i habove
      obtain rfl := Except.ok.inj hresult
      exact ⟨hfound, habove⟩
    · cases hresult
  · rintro ⟨hvalue, habove⟩
    refine ⟨value, hvalue, ?_⟩
    rw [if_pos habove]
    rfl

end Positive

theorem readPositive_readUInt64?_eq_ok_iff (text : String) (count : UInt64) :
    readPositive 0 Numeral.readUInt64? text = .ok count ↔ GivesCount UInt64.toNat text count :=
  readPositive_eq_ok_iff (fun _ _ => Numeral.readUInt64?_eq_some_iff)
    (fun _ => UInt64.lt_iff_toNat_lt) text count

theorem readPositive_readUInt32?_eq_ok_iff (text : String) (count : UInt32) :
    readPositive 0 Numeral.readUInt32? text = .ok count ↔ GivesCount UInt32.toNat text count :=
  readPositive_eq_ok_iff (fun _ _ => Numeral.readUInt32?_eq_some_iff)
    (fun _ => UInt32.lt_iff_toNat_lt) text count

theorem readSeed_eq_ok_iff (text : String) (seed : UInt64) :
    readNumeral Numeral.readUInt64? text = .ok seed ↔ GivesSeed text seed := by
  rw [readNumeral_eq_ok_iff, Numeral.readUInt64?_eq_some_iff, GivesSeed]

theorem readMillis_eq_ok_iff (text : String) (limit : Binary64) :
    readMillis text = .ok limit ↔ GivesMillis text limit := by
  simp only [readMillis, bind_eq_ok_iff, readNumeral_eq_ok_iff]
  constructor
  · rintro ⟨found, hfound, hresult⟩
    split at hresult
    · rename_i hlimit
      obtain rfl := Except.ok.inj hresult
      obtain ⟨hfinite, hpositive⟩ := (Bool.and_eq_true _ _).mp hlimit
      exact ⟨(Numeral.readBinary64?_eq_some_iff hfinite).1 hfound, hfinite, hpositive⟩
    · cases hresult
  · rintro ⟨hdecimal, hfinite, hpositive⟩
    refine ⟨limit, (Numeral.readBinary64?_eq_some_iff hfinite).2 hdecimal, ?_⟩
    rw [hfinite, hpositive]
    rfl

theorem exists_givesMillis_iff (text : String) :
    (∃ limit, GivesMillis text limit) ↔ IsMillisText text := by
  unfold IsMillisText
  constructor
  · rintro ⟨limit, hdecimal, hlimit⟩
    generalize htext : (Text.trim text).toList = chars at hdecimal
    obtain @⟨sign, mantissa, behind, negative, digits, places, power, hsign, hmantissa, hbehind⟩ :=
      hdecimal
    cases negative with
    | true => exact absurd hlimit.positive (Binary64.not_zero_lt_ofDecimal _ _)
    | false =>
      have hrange := Binary64.keepsRange_ofDecimal digits (power - places)
      exact ⟨sign, mantissa, behind, digits, places, power, rfl, hsign, hmantissa, hbehind,
        hrange.positive_iff.1 hlimit.positive, hrange.finite_iff.1 hlimit.finite⟩
  · rintro ⟨sign, mantissa, behind, digits, places, power, htext, hsign, hmantissa, hbehind,
      hpositive, hfinite⟩
    have hrange := Binary64.keepsRange_ofDecimal digits (power - places)
    refine ⟨Binary64.ofDecimal false digits (power - places), ?_,
      hrange.finite_iff.2 hfinite, hrange.positive_iff.2 hpositive⟩
    rw [htext]
    exact .mk hsign hmantissa hbehind

theorem storeNames_eq_iff (text : String) (stores : List String) :
    storeNames text = stores ↔ ∃ parts, Text.IsSplit ',' text.toList parts ∧
      stores = (parts.map fun part => Text.trim (String.ofList part)).filter (· ≠ "") := by
  have hfilter : (fun name : String => !name.isEmpty) = fun name => decide (name ≠ "") := by
    funext name
    rw [Bool.eq_iff_iff]
    simp
  rw [storeNames, hfilter]
  simp only [← Text.splitOn_eq_iff, exists_eq_left']
  exact eq_comm

theorem readStores_eq_ok_iff (text : String) (stores : List String) :
    readStores text = .ok stores ↔ GivesStores text stores := by
  rw [GivesStores, ← storeNames_eq_iff]
  simp only [readStores]
  split
  · rename_i hempty
    rw [List.isEmpty_iff] at hempty
    rw [hempty]
    simp only [reduceCtorEq, false_iff]
    rintro ⟨rfl, hne, -⟩
    exact hne rfl
  · rename_i hsome
    rw [List.isEmpty_iff] at hsome
    cases hrepeat : firstRepeat? (storeNames text) with
    | some found =>
      simp only [reduceCtorEq, false_iff]
      rintro ⟨rfl, -, hnodup⟩
      rw [(firstRepeat?_eq_none_iff _).2 hnodup] at hrepeat
      cases hrepeat
    | none =>
      rw [firstRepeat?_eq_none_iff] at hrepeat
      rw [Except.ok.injEq]
      refine ⟨?_, And.left⟩
      rintro rfl
      exact ⟨rfl, hsome, hrepeat⟩

theorem reads_events : eventsVariable.Reads (GivesCount UInt64.toNat) :=
  readPositive_readUInt64?_eq_ok_iff

theorem reads_queries : queriesVariable.Reads (GivesCount UInt64.toNat) :=
  readPositive_readUInt64?_eq_ok_iff

theorem reads_maxItems : maxItemsVariable.Reads (GivesCount UInt32.toNat) :=
  readPositive_readUInt32?_eq_ok_iff

theorem reads_tokenBudget : tokenBudgetVariable.Reads (GivesCount UInt32.toNat) :=
  readPositive_readUInt32?_eq_ok_iff

theorem reads_stores : storesVariable.Reads GivesStores :=
  readStores_eq_ok_iff

theorem reads_seed : seedVariable.Reads GivesSeed :=
  readSeed_eq_ok_iff

theorem reads_ingestMillis : ingestMillisVariable.Reads GivesMillis :=
  readMillis_eq_ok_iff

theorem reads_replayMillis : replayMillisVariable.Reads GivesMillis :=
  readMillis_eq_ok_iff

theorem reads_recallMillis : recallMillisVariable.Reads GivesMillis :=
  readMillis_eq_ok_iff

theorem reads_recallBytes : recallBytesVariable.Reads (GivesCount UInt64.toNat) :=
  readPositive_readUInt64?_eq_ok_iff

theorem reads_outputDirectory : outputDirectoryVariable.Reads Settings.GivesVisible :=
  Settings.reads_visible _

/-! ## Plans that the environment gives -/

variable {environment : Environment} {workload : WorkloadPlan} {thresholds : Thresholds}
  {plan : Plan}

theorem WorkloadPlan.ofEnvironment_eq_ok_iff :
    WorkloadPlan.ofEnvironment environment = .ok workload ↔ workload.IsGivenBy environment := by
  simp only [WorkloadPlan.ofEnvironment, bind_eq_ok_iff, reads_events.valueOr_eq_ok_iff,
    reads_queries.valueOr_eq_ok_iff, reads_maxItems.valueOr_eq_ok_iff,
    reads_tokenBudget.valueOr_eq_ok_iff, reads_stores.valueOr_eq_ok_iff,
    reads_seed.valueOr_eq_ok_iff]
  constructor
  · rintro ⟨events, hevents, queries, hqueries, maxItems, hmaxItems, tokenBudget, htokenBudget,
      stores, hstores, seed, hseed, hresult⟩
    obtain rfl := Except.ok.inj hresult
    exact ⟨hevents, hqueries, hmaxItems, htokenBudget, hstores, hseed⟩
  · rintro ⟨hevents, hqueries, hmaxItems, htokenBudget, hstores, hseed⟩
    exact ⟨_, hevents, _, hqueries, _, hmaxItems, _, htokenBudget, _, hstores, _, hseed, rfl⟩

theorem Thresholds.ofEnvironment_eq_ok_iff :
    Thresholds.ofEnvironment environment = .ok thresholds ↔
      thresholds.IsGivenBy environment := by
  simp only [Thresholds.ofEnvironment, bind_eq_ok_iff, reads_ingestMillis.valueOr_eq_ok_iff,
    reads_replayMillis.valueOr_eq_ok_iff, reads_recallMillis.valueOr_eq_ok_iff,
    reads_recallBytes.valueOr_eq_ok_iff]
  constructor
  · rintro ⟨ingestMillis, hingest, replayMillis, hreplay, recallMillis, hrecall, recallBytes,
      hbytes, hresult⟩
    obtain rfl := Except.ok.inj hresult
    exact ⟨hingest, hreplay, hrecall, hbytes⟩
  · rintro ⟨hingest, hreplay, hrecall, hbytes⟩
    exact ⟨_, hingest, _, hreplay, _, hrecall, _, hbytes, rfl⟩

theorem Plan.ofEnvironment_eq_ok_iff :
    Plan.ofEnvironment environment = .ok plan ↔ plan.IsGivenBy environment := by
  simp only [Plan.ofEnvironment, bind_eq_ok_iff, WorkloadPlan.ofEnvironment_eq_ok_iff,
    Thresholds.ofEnvironment_eq_ok_iff, reads_outputDirectory.valueOr_eq_ok_iff]
  constructor
  · rintro ⟨workload, hworkload, thresholds, hthresholds, directory, hdirectory, hresult⟩
    obtain rfl := Except.ok.inj hresult
    exact ⟨hworkload, hthresholds, hdirectory⟩
  · rintro ⟨hworkload, hthresholds, hdirectory⟩
    exact ⟨_, hworkload, _, hthresholds, _, hdirectory, rfl⟩

theorem WorkloadPlan.heeds_ofEnvironment :
    Heeds variableRules environment (ofEnvironment environment) := by
  refine (reads_events.heeds environment _).bind fun _ => ?_
  refine (reads_queries.heeds environment _).bind fun _ => ?_
  refine (reads_maxItems.heeds environment _).bind fun _ => ?_
  refine (reads_tokenBudget.heeds environment _).bind fun _ => ?_
  refine (reads_stores.heeds environment _).bind fun _ => ?_
  exact (reads_seed.heeds environment _).bind fun _ => .ofOk environment _

theorem Thresholds.heeds_ofEnvironment :
    Heeds variableRules environment (ofEnvironment environment) := by
  refine (reads_ingestMillis.heeds environment _).bind fun _ => ?_
  refine (reads_replayMillis.heeds environment _).bind fun _ => ?_
  refine (reads_recallMillis.heeds environment _).bind fun _ => ?_
  exact (reads_recallBytes.heeds environment _).bind fun _ => .ofOk environment _

/-- The variables are looked at in order. -/
theorem Plan.heeds_ofEnvironment :
    Heeds variableRules environment (ofEnvironment environment) := by
  refine WorkloadPlan.heeds_ofEnvironment.bind fun _ => ?_
  refine Thresholds.heeds_ofEnvironment.bind fun _ => ?_
  exact (reads_outputDirectory.heeds environment _).bind fun _ => .ofOk environment _

/-! ## Plans that can be run -/

/-- Stores that can be told apart and named. -/
structure DistinctStores (stores : List String) : Prop where
  /-- No store is listed twice. -/
  nodup : stores.Nodup
  /-- No store is blank. -/
  visible : ∀ storeId ∈ stores, Text.isBlankText storeId = false

/-- Stores that a benchmark can go through: there is one, and they are the texts of different
identifiers of spaces. -/
structure AreSpaces (stores : List String) : Prop extends DistinctStores stores where
  /-- There is a store. -/
  nonempty : stores ≠ []
  /-- There is no white space at the ends of any. -/
  trimmed : ∀ storeId ∈ stores, Text.trim storeId = storeId
  /-- Each of them stands for a space, and no two of them for the same. -/
  spaces : ∃ ids : List SpaceId, stores.map (Identifier.ofText .space) = ids.map .ok ∧
    ids.map Identifier.text = stores ∧ ids.Nodup

/-- A workload that can be carried out. -/
structure WorkloadPlan.Runnable (workload : WorkloadPlan) : Prop where
  /-- There are events. -/
  events : 0 < workload.events
  /-- There are recalls. -/
  queries : 0 < workload.queries
  /-- A recall may have items. -/
  maxItems : 0 < workload.maxItems
  /-- A recall may have tokens. -/
  tokenBudget : 0 < workload.tokenBudget
  /-- The stores can be gone through. -/
  stores : AreSpaces workload.stores

/-- Thresholds that can be kept to. -/
structure Thresholds.Runnable (thresholds : Thresholds) : Prop where
  /-- The milliseconds for an ingest. -/
  ingestMillis : IsLimit thresholds.ingestMillis
  /-- The milliseconds for an ingest of an event sent before. -/
  replayMillis : IsLimit thresholds.replayMillis
  /-- The milliseconds for a recall. -/
  recallMillis : IsLimit thresholds.recallMillis
  /-- An answer may have bytes. -/
  recallBytes : 0 < thresholds.recallBytes

/-- A plan that can be run. -/
structure Plan.Runnable (plan : Plan) : Prop where
  /-- The workload. -/
  workload : plan.workload.Runnable
  /-- The thresholds. -/
  thresholds : plan.thresholds.Runnable
  /-- The directory has a name. -/
  outputDirectory : Text.isBlankText plan.outputDirectory = false

/-- Different trimmed texts that are not empty stand for different spaces. -/
theorem exists_spaces {stores : List String} (hnodup : stores.Nodup)
    (hstores : ∀ storeId ∈ stores, Text.trim storeId = storeId ∧ storeId ≠ "") :
    ∃ ids : List SpaceId, stores.map (Identifier.ofText .space) = ids.map .ok ∧
      ids.map Identifier.text = stores ∧ ids.Nodup := by
  have htexts : (stores.pmap (fun storeId hstore => (⟨storeId, hstore.1, hstore.2⟩ : SpaceId))
      hstores).map Identifier.text = stores := by
    rw [List.map_pmap, List.pmap_eq_map, List.map_id']
  generalize stores.pmap _ hstores = ids at htexts
  subst htexts
  refine ⟨ids, ?_, rfl, hnodup.of_map _⟩
  rw [List.map_map]
  apply List.map_congr_left
  intro spaceId _
  rw [Function.comp_apply, Identifier.ofText, Identifier.ofText?_text]

theorem GivesStores.areSpaces {text : String} {stores : List String}
    (hgives : GivesStores text stores) : AreSpaces stores := by
  obtain ⟨⟨parts, -, hstores⟩, hne, hnodup⟩ := hgives
  have hall : ∀ storeId ∈ stores, Text.trim storeId = storeId ∧ storeId ≠ "" := by
    intro storeId hmem
    rw [hstores, List.mem_filter, decide_eq_true_iff] at hmem
    obtain ⟨part, -, rfl⟩ := List.mem_map.1 hmem.1
    exact ⟨Text.trim_trim _, hmem.2⟩
  have hvisible : ∀ storeId ∈ stores, Text.isBlankText storeId = false := by
    intro storeId hmem
    exact Text.isBlankText_of_trimmed (hall storeId hmem).1 (hall storeId hmem).2
  exact ⟨⟨hnodup, hvisible⟩, hne, fun storeId hmem => (hall storeId hmem).1,
    exists_spaces hnodup hall⟩

theorem GivesStores.standard : GivesStores "store-a,store-b" WorkloadPlan.standard.stores :=
  (readStores_eq_ok_iff _ _).1 (by decide +kernel)

theorem GivesCount.zero_lt_uInt64 {text : String} {count : UInt64}
    (hgives : GivesCount UInt64.toNat text count) : 0 < count :=
  UInt64.lt_iff_toNat_lt.2 hgives.2

theorem GivesCount.zero_lt_uInt32 {text : String} {count : UInt32}
    (hgives : GivesCount UInt32.toNat text count) : 0 < count :=
  UInt32.lt_iff_toNat_lt.2 hgives.2

theorem WorkloadPlan.IsGivenBy.runnable (hgiven : workload.IsGivenBy environment) :
    workload.Runnable where
  events := hgiven.events.holds (by decide) fun _ _ => GivesCount.zero_lt_uInt64
  queries := hgiven.queries.holds (by decide) fun _ _ => GivesCount.zero_lt_uInt64
  maxItems := hgiven.maxItems.holds (by decide) fun _ _ => GivesCount.zero_lt_uInt32
  tokenBudget := hgiven.tokenBudget.holds (by decide) fun _ _ => GivesCount.zero_lt_uInt32
  stores := hgiven.stores.holds GivesStores.standard.areSpaces fun _ _ => GivesStores.areSpaces

theorem isLimit_five : IsLimit (.ofNat 5) :=
  ⟨by decide +kernel, by decide +kernel⟩

theorem isLimit_twentyFive : IsLimit (.ofNat 25) :=
  ⟨by decide +kernel, by decide +kernel⟩

theorem Thresholds.IsGivenBy.runnable (hgiven : thresholds.IsGivenBy environment) :
    thresholds.Runnable where
  ingestMillis := hgiven.ingestMillis.holds isLimit_five fun _ _ => And.right
  replayMillis := hgiven.replayMillis.holds isLimit_five fun _ _ => And.right
  recallMillis := hgiven.recallMillis.holds isLimit_twentyFive fun _ _ => And.right
  recallBytes := hgiven.recallBytes.holds (by decide) fun _ _ => GivesCount.zero_lt_uInt64

theorem Plan.IsGivenBy.runnable (hgiven : plan.IsGivenBy environment) : plan.Runnable where
  workload := hgiven.workload.runnable
  thresholds := hgiven.thresholds.runnable
  outputDirectory :=
    hgiven.outputDirectory.holds (by decide) fun _ _ => Settings.GivesVisible.visible

/-- The stores of every plan from the environment are distinct. -/
theorem distinctStores_of_ofEnvironment (hplan : Plan.ofEnvironment environment = .ok plan) :
    DistinctStores plan.workload.stores :=
  (Plan.ofEnvironment_eq_ok_iff.1 hplan).runnable.workload.stores.toDistinctStores

/-- There is a plan exactly if every variable that is set is of use. It has what the variables stand
for in place of the standard parts, and it can be run. If there is none, the fault is the first
variable of no use. A text is of use as a limit exactly if it is a numeral whose value is neither
too small for a number above zero nor too great for a finite one. -/
theorem plans_runnable (environment : Environment) :
    ((∃ plan, Plan.ofEnvironment environment = .ok plan) ↔
      ∀ rule ∈ Plan.variableRules, ∀ text, environment rule.name = some text → rule.Allows text) ∧
    (∀ plan, Plan.ofEnvironment environment = .ok plan ↔ plan.IsGivenBy environment) ∧
    (∀ plan, Plan.ofEnvironment environment = .ok plan → plan.Runnable) ∧
    (∀ fault, Plan.ofEnvironment environment = .error fault →
      IsFirstUnusable Plan.variableRules environment fault) ∧
    ∀ text, (∃ limit, GivesMillis text limit) ↔ IsMillisText text := by
  have hheeds : Heeds Plan.variableRules environment (Plan.ofEnvironment environment) :=
    Plan.heeds_ofEnvironment
  refine ⟨?_, fun _ => Plan.ofEnvironment_eq_ok_iff, ?_, hheeds.isFirstUnusable,
    exists_givesMillis_iff⟩
  · rw [hheeds.exists_eq_ok_iff]
    simp only [VariableRule.Breaks, not_and, not_not]
  · exact fun plan hplan => (Plan.ofEnvironment_eq_ok_iff.1 hplan).runnable

/-- An environment that sets a count, the stores and a limit, none of them in its plain form. -/
def smithyEnvironment : Environment := fun name =>
  [("MNEM_BENCH_EVENTS", " +010"), ("MNEM_BENCH_STORES", " one, ,two "),
    ("MNEM_BENCH_RECALL_P95_MS", "25e-1\t")].lookup name

/-- The plan takes over the three, in their plain form. -/
theorem smithyEnvironment_runnable :
    ∃ plan, Plan.ofEnvironment smithyEnvironment = .ok plan ∧ plan.Runnable ∧
      plan.workload.events = 10 ∧ plan.workload.stores = ["one", "two"] ∧
      plan.thresholds.recallMillis = .ofRatio false 5 2 := by
  have hplan : Plan.ofEnvironment smithyEnvironment = .ok
      { Plan.standard with
        workload := { WorkloadPlan.standard with events := 10, stores := ["one", "two"] }
        thresholds := { Thresholds.standard with recallMillis := .ofRatio false 5 2 } } := by
    decide +kernel
  exact ⟨_, hplan, (plans_runnable smithyEnvironment).2.2.1 _ hplan, rfl, rfl, rfl⟩

end Recollection.Benchmark
