import Mathlib.Data.List.Basic
import Recollection.Assembly.Facets
import Recollection.Proofs.Contract.Check
/-!
# Facets by kind

A collection of facets is looked at through one view: what it has of each kind. Merging, what is
missing and building are told by this view, kind by kind, so the laws of merging are those of taking
the first of several optional values, and they are the same for every kind.

However the merges of several collections are nested, the assembly has of each kind what the
leftmost collection that has anything of that kind has.
-/

set_option autoImplicit false

namespace Recollection

/-- What a facet is for. -/
inductive FacetKind
  /-- The settings. -/
  | settings
  /-- The settings of the log. -/
  | logger
  /-- The clock. -/
  | clock
  /-- The storage boundary. -/
  | storage
  /-- The retrieval boundary. -/
  | retrieval
  /-- The evaluation boundary. -/
  | evaluation
  /-- The policy boundary. -/
  | policy
  /-- The ingestion boundary. -/
  | ingestion
deriving DecidableEq, Repr

namespace FacetKind

/-- Every kind, in the order in which facets are asked for. -/
def all : List FacetKind :=
  [.settings, .logger, .clock, .storage, .retrieval, .evaluation, .policy, .ingestion]

/-- The name of a kind. -/
def name : FacetKind → String
  | .settings => "config"
  | .logger => "logger"
  | .clock => "clock"
  | .storage => "storage"
  | .retrieval => "retrieval"
  | .evaluation => "evaluation"
  | .policy => "policy"
  | .ingestion => "ingestion"

/-- What a facet of a kind is. -/
def Carrier (σ : Type) : FacetKind → Type
  | .settings => Settings
  | .logger => LogSettings
  | .clock => Clock
  | .storage => StorageService σ
  | .retrieval => RetrievalService σ
  | .evaluation => EvaluationService σ
  | .policy => PolicyService σ
  | .ingestion => IngestionService σ

theorem mem_all (kind : FacetKind) : kind ∈ all := by
  cases kind <;> decide

theorem name_injective {kind other : FacetKind} (hname : kind.name = other.name) :
    kind = other := by
  have hinjective : ∀ kind ∈ all, ∀ other ∈ all, kind.name = other.name → kind = other := by
    decide +kernel
  exact hinjective kind (mem_all kind) other (mem_all other) hname

end FacetKind

/-- The facet of a kind that an assembly has. -/
def Assembly.get {σ : Type} (assembly : Assembly σ) : (kind : FacetKind) → kind.Carrier σ
  | .settings => assembly.settings
  | .logger => assembly.logger
  | .clock => assembly.clock
  | .storage => assembly.services.storage
  | .retrieval => assembly.services.retrieval
  | .evaluation => assembly.services.evaluation
  | .policy => assembly.services.policy
  | .ingestion => assembly.services.ingestion

namespace Facets

variable {σ : Type}

/-! ## The view -/

/-- The facet of a kind, if it is there. -/
def get (facets : Facets σ) : (kind : FacetKind) → Option (kind.Carrier σ)
  | .settings => facets.settings
  | .logger => facets.logger
  | .clock => facets.clock
  | .storage => facets.storage
  | .retrieval => facets.retrieval
  | .evaluation => facets.evaluation
  | .policy => facets.policy
  | .ingestion => facets.ingestion

/-- Collections that have the same of every kind are the same. -/
theorem ext_get {first second : Facets σ} (hget : ∀ kind, first.get kind = second.get kind) :
    first = second := by
  cases first
  cases second
  rw [Facets.mk.injEq]
  exact ⟨hget .settings, hget .logger, hget .clock, hget .storage, hget .retrieval,
    hget .evaluation, hget .policy, hget .ingestion⟩

theorem get_empty (kind : FacetKind) : (empty : Facets σ).get kind = none := by
  cases kind <;> rfl

theorem get_merge (first second : Facets σ) (kind : FacetKind) :
    (first.merge second).get kind = (first.get kind).or (second.get kind) := by
  cases kind <;> rfl

/-! ## What is missing -/

theorem presence_eq (facets : Facets σ) :
    facets.presence = FacetKind.all.map fun kind => (kind.name, (facets.get kind).isSome) :=
  rfl

/-- What is missing are the kinds of which there is no facet, in order. -/
theorem missing_eq (facets : Facets σ) :
    facets.missing =
      (FacetKind.all.filter fun kind => (facets.get kind).isNone).map FacetKind.name := by
  rw [missing, presence_eq, List.filterMap_map, ← List.filterMap_eq_map, List.filterMap_filter]
  refine List.filterMap_congr fun kind _ => ?_
  cases hget : facets.get kind <;> simp [hget]

theorem name_mem_missing_iff (facets : Facets σ) (kind : FacetKind) :
    kind.name ∈ facets.missing ↔ facets.get kind = none := by
  rw [missing_eq, List.mem_map]
  constructor
  · rintro ⟨other, hother, hname⟩
    obtain rfl := FacetKind.name_injective hname
    exact Option.isNone_iff_eq_none.1 (List.mem_filter.1 hother).2
  · intro hnone
    exact ⟨kind, List.mem_filter.2 ⟨kind.mem_all, Option.isNone_iff_eq_none.2 hnone⟩, rfl⟩

theorem missing_eq_nil_iff (facets : Facets σ) :
    facets.missing = [] ↔ ∀ kind, facets.get kind ≠ none := by
  rw [missing_eq, List.map_eq_nil_iff, List.filter_eq_nil_iff]
  simp only [Option.isNone_iff_eq_none, FacetKind.mem_all, true_imp_iff, ne_eq]

/-! ## Building -/

theorem needed_eq_ok_iff {α : Type} {name : String} {facet : Option α} {value : α} :
    needed name facet = .ok value ↔ facet = some value := by
  cases facet <;> simp [needed]

/-- An assembly is built from facets if it has them, kind by kind. -/
theorem build_eq_ok_iff {facets : Facets σ} {assembly : Assembly σ} :
    facets.build = .ok assembly ↔ ∀ kind, facets.get kind = some (assembly.get kind) := by
  simp only [build, bind_eq_ok_iff, needed_eq_ok_iff]
  constructor
  · rintro ⟨settings, hsettings, logger, hlogger, clock, hclock, storage, hstorage, retrieval,
      hretrieval, evaluation, hevaluation, policy, hpolicy, ingestion, hingestion, hbuilt⟩
    obtain rfl := Except.ok.inj hbuilt
    intro kind
    cases kind <;> assumption
  · intro hget
    exact ⟨_, hget .settings, _, hget .logger, _, hget .clock, _, hget .storage, _,
      hget .retrieval, _, hget .evaluation, _, hget .policy, _, hget .ingestion, rfl⟩

/-- The names of the facets that are not there. -/
def absent (presence : List (String × Bool)) : List String :=
  presence.filterMap fun (name, present) => if present then none else some name

/-- A facet that has to be there is the first one missing if it is not there; otherwise the first
one missing is that of the facets asked for after it. -/
theorem needed_bind_eq_error_iff {α β : Type} {name : String} {facet : Option α}
    {next : α → Except MissingFacet β} {rest : List (String × Bool)} {fault : MissingFacet}
    (hnext : ∀ value, next value = .error fault ↔ (absent rest).head? = some fault.facet) :
    (needed name facet >>= next) = .error fault ↔
      (absent ((name, facet.isSome) :: rest)).head? = some fault.facet := by
  cases facet with
  | none =>
    obtain ⟨faultName⟩ := fault
    simp [needed, absent, bind, Except.bind]
  | some value =>
    show next value = .error fault ↔ _
    rw [hnext value]
    simp [absent]

/-- The fault of building names the first facet that is missing. -/
theorem build_eq_error_iff {facets : Facets σ} {fault : MissingFacet} :
    facets.build = .error fault ↔ facets.missing.head? = some fault.facet := by
  refine needed_bind_eq_error_iff fun settings => ?_
  refine needed_bind_eq_error_iff fun logger => ?_
  refine needed_bind_eq_error_iff fun clock => ?_
  refine needed_bind_eq_error_iff fun storage => ?_
  refine needed_bind_eq_error_iff fun retrieval => ?_
  refine needed_bind_eq_error_iff fun evaluation => ?_
  refine needed_bind_eq_error_iff fun policy => ?_
  refine needed_bind_eq_error_iff fun ingestion => ?_
  exact iff_of_false nofun nofun

theorem exists_build_eq_ok_iff (facets : Facets σ) :
    (∃ assembly, facets.build = .ok assembly) ↔ facets.missing = [] := by
  cases hbuild : facets.build with
  | ok assembly =>
    refine iff_of_true ⟨assembly, rfl⟩ ((missing_eq_nil_iff facets).2 fun kind => ?_)
    rw [build_eq_ok_iff.1 hbuild kind]
    exact Option.some_ne_none _
  | error fault =>
    refine iff_of_false nofun fun hnil => ?_
    have hfirst := build_eq_error_iff.1 hbuild
    rw [hnil] at hfirst
    cases hfirst

/-! ## Merging -/

theorem merge_assoc (first second third : Facets σ) :
    (first.merge second).merge third = first.merge (second.merge third) := by
  refine ext_get fun kind => ?_
  simp only [get_merge, Option.or_assoc]

theorem empty_merge (facets : Facets σ) : empty.merge facets = facets := by
  refine ext_get fun kind => ?_
  rw [get_merge, get_empty, Option.none_or]

theorem merge_empty (facets : Facets σ) : facets.merge empty = facets := by
  refine ext_get fun kind => ?_
  rw [get_merge, get_empty, Option.or_none]

theorem merge_self (facets : Facets σ) : facets.merge facets = facets := by
  refine ext_get fun kind => ?_
  rw [get_merge, Option.or_self]

/-- No facet is different in two collections that both have it. -/
def Agree (first second : Facets σ) : Prop :=
  ∀ kind facet other, first.get kind = some facet → second.get kind = some other → facet = other

/-- The order of merging does not matter exactly to collections that agree. -/
theorem merge_comm_iff (first second : Facets σ) :
    first.merge second = second.merge first ↔ first.Agree second := by
  constructor
  · intro hcomm kind facet other hfirst hsecond
    have hget := congrArg (fun facets => facets.get kind) hcomm
    simpa only [get_merge, hfirst, hsecond, Option.some_or, Option.some.injEq] using hget
  · intro hagree
    refine ext_get fun kind => ?_
    rw [get_merge, get_merge]
    cases hfirst : first.get kind with
    | none => rw [Option.none_or, Option.or_none]
    | some facet =>
      cases hsecond : second.get kind with
      | none => rw [Option.none_or, Option.or_none]
      | some other => rw [hagree kind facet other hfirst hsecond]

/-- Of two merged collections both must be without a facet for it to be missing. -/
theorem missing_merge (first second : Facets σ) :
    (first.merge second).missing =
      (FacetKind.all.map FacetKind.name).filter fun name =>
        first.missing.contains name && second.missing.contains name := by
  rw [missing_eq, List.filter_map]
  congr 1
  refine List.filter_congr fun kind _ => ?_
  rw [Bool.eq_iff_iff]
  simp only [get_merge, Function.comp_apply, Bool.and_eq_true, List.contains_iff_mem,
    name_mem_missing_iff, Option.isNone_iff_eq_none, Option.or_eq_none_iff]

/-! ## Merging several collections -/

/-- A collection is merged from several, in their order, however the merges are nested. -/
inductive MergedFrom : List (Facets σ) → Facets σ → Prop
  /-- Nothing is merged from no collection. -/
  | none : MergedFrom [] empty
  /-- One collection is merged from itself. -/
  | single (facets : Facets σ) : MergedFrom [facets] facets
  /-- Two merged collections are merged. -/
  | merge {front back : List (Facets σ)} {first second : Facets σ} :
    MergedFrom front first → MergedFrom back second →
      MergedFrom (front ++ back) (first.merge second)

/-- A facet is that of the leftmost collection that has one of its kind. -/
def IsLeftmost (sources : List (Facets σ)) (kind : FacetKind) (facet : kind.Carrier σ) : Prop :=
  ∃ before source after, sources = before ++ source :: after ∧ source.get kind = some facet ∧
    ∀ earlier ∈ before, earlier.get kind = Option.none

theorem MergedFrom.get_eq {sources : List (Facets σ)} {facets : Facets σ}
    (hmerged : MergedFrom sources facets) (kind : FacetKind) :
    facets.get kind = sources.findSome? fun source => source.get kind := by
  induction hmerged with
  | none => exact get_empty kind
  | single facets => simp
  | merge _ _ hfirst hsecond => rw [get_merge, List.findSome?_append, hfirst, hsecond]

theorem MergedFrom.get_eq_some_iff {sources : List (Facets σ)} {facets : Facets σ}
    (hmerged : MergedFrom sources facets) {kind : FacetKind} {facet : kind.Carrier σ} :
    facets.get kind = some facet ↔ IsLeftmost sources kind facet := by
  rw [hmerged.get_eq, List.findSome?_eq_some_iff]
  rfl

/-- Merging keeps the leftmost facet of each kind and loses none. It is associative, having no facet
is its unit, merging a collection with itself changes nothing, and the order matters only where two
collections differ in a facet. What is missing after a merge is what both are without. An assembly
can be built from what was merged exactly if nothing is missing; it then has of each kind the
leftmost facet, and otherwise the first name of those missing is the fault. -/
theorem merging_keeps_leftmost :
    (∀ first second third : Facets σ,
      (first.merge second).merge third = first.merge (second.merge third)) ∧
    (∀ facets : Facets σ, empty.merge facets = facets ∧ facets.merge empty = facets ∧
      facets.merge facets = facets) ∧
    (∀ first second : Facets σ,
      first.merge second = second.merge first ↔ first.Agree second) ∧
    (∀ first second : Facets σ, (first.merge second).missing =
      (FacetKind.all.map FacetKind.name).filter fun name =>
        first.missing.contains name && second.missing.contains name) ∧
    ∀ (sources : List (Facets σ)) (facets : Facets σ), MergedFrom sources facets →
      ((∃ assembly, facets.build = .ok assembly) ↔ facets.missing = []) ∧
      (∀ assembly, facets.build = .ok assembly ↔
        ∀ kind, IsLeftmost sources kind (assembly.get kind)) ∧
      ∀ fault, facets.build = .error fault ↔ facets.missing.head? = some fault.facet := by
  refine ⟨merge_assoc, fun facets => ⟨empty_merge facets, merge_empty facets, merge_self facets⟩,
    merge_comm_iff, missing_merge, fun sources facets hmerged => ⟨exists_build_eq_ok_iff facets,
      fun assembly => ?_, fun fault => build_eq_error_iff⟩⟩
  rw [build_eq_ok_iff]
  exact forall_congr' fun kind => hmerged.get_eq_some_iff

/-- Settings alone, under a name of their own. -/
def ownName : Facets InMemory.State :=
  { (empty : Facets InMemory.State) with
    settings := some { Settings.deterministic with serviceName := "forge" } }

/-- Another clock, and settings that come too late. -/
def ownClock : Facets InMemory.State :=
  { (empty : Facets InMemory.State) with
    settings := some .standard
    clock := some .system }

/-- The assembly of reproducible runs, under another name and by another clock. -/
def forgeAssembly : Assembly InMemory.State :=
  { Assembly.deterministic with
    settings := { Settings.deterministic with serviceName := "forge" }
    clock := .system }

/-- Both of them go before the facets of an assembly. -/
theorem forgeAssembly_built :
    MergedFrom [ownName, ownClock, ofAssembly .deterministic]
      (ownName.merge (ownClock.merge (ofAssembly .deterministic))) ∧
    ∀ kind, IsLeftmost [ownName, ownClock, ofAssembly .deterministic] kind
      (forgeAssembly.get kind) := by
  have hmerged : MergedFrom [ownName, ownClock, ofAssembly .deterministic]
      (ownName.merge (ownClock.merge (ofAssembly .deterministic))) :=
    .merge (.single ownName) (.merge (.single ownClock) (.single (ofAssembly .deterministic)))
  have hbuild : (ownName.merge (ownClock.merge (ofAssembly .deterministic))).build =
      .ok forgeAssembly := rfl
  exact ⟨hmerged, ((merging_keeps_leftmost.2.2.2.2 _ _ hmerged).2.1 forgeAssembly).1 hbuild⟩

end Facets

end Recollection
