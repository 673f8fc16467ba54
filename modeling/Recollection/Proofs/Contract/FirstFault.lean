import Recollection.Proofs.Contract.Faults
import Recollection.Proofs.Text.ByteOrder
/-!
# The first fault of a document

Of all faults of a document decoding reports the one that comes first when the members of an object
are looked at in the order they are declared, the items of a list by index, everything inside a part
before the next part, and the undeclared members of an object after all declared ones, in the order
of the bytes of their keys.
-/

set_option autoImplicit false

namespace Recollection

/-! ## The order of faults -/

/-- Whether a part of a value is looked at before another part of it. -/
def Step.Before : Step → Step → Prop
  | .item first, .item second => first < second
  | .declared first _, .declared second _ => first < second
  | .declared _ _, .undeclared _ => True
  | .undeclared first, .undeclared second => Text.bytes first < Text.bytes second
  | _, _ => False

/-- Whether a fault is come upon before another one. -/
def ShapeFault.Before (first second : ShapeFault) : Prop :=
  List.Lex Step.Before first.trace second.trace

/-- The first of some faults. -/
structure IsFirst (faults : Set ShapeFault) (fault : ShapeFault) : Prop where
  /-- It is one of them. -/
  mem : fault ∈ faults
  /-- It comes before any other one. -/
  before : ∀ other ∈ faults, other = fault ∨ fault.Before other

theorem Step.Before.asymm {first second : Step} (hbefore : first.Before second) :
    ¬ second.Before first := by
  cases first with
  | item index =>
    cases second with
    | item other => exact Nat.lt_asymm hbefore
    | _ => exact hbefore.elim
  | declared position name =>
    cases second with
    | item index => exact hbefore.elim
    | declared other name => exact Nat.lt_asymm hbefore
    | undeclared key => exact id
  | undeclared key =>
    cases second with
    | undeclared other => exact List.lt_asymm hbefore
    | _ => exact hbefore.elim

/-- There is only one first fault. -/
theorem IsFirst.unique {faults : Set ShapeFault} {fault other : ShapeFault}
    (hfirst : IsFirst faults fault) (hother : IsFirst faults other) : other = fault := by
  rcases hfirst.before other hother.mem with hsame | hbefore
  · exact hsame
  · rcases hother.before fault hfirst.mem with hsame | hafter
    · exact hsame.symm
    · exact absurd hafter (List.lex_asymm Step.Before.asymm hbefore)

theorem isFirst_singleton (fault : ShapeFault) : IsFirst {fault} fault where
  mem := rfl
  before := fun _ hmem => .inl hmem

/-! ## Reporting the first -/

/-- What is expected at the place of a fault. -/
def Flaw.expected : Flaw → String
  | .missing => "required field"
  | .undeclared declared => "only the fields " ++ ", ".intercalate declared
  | .unfit expected _ => expected

/-- What is found there. -/
def Flaw.found : Flaw → String
  | .missing => "nothing"
  | .undeclared _ => "an unknown field"
  | .unfit _ found => found.describe

/-- The mismatch that a fault of the value at a path is reported as. -/
def ShapeFault.mismatch (fault : ShapeFault) (path : Path) : Mismatch :=
  ⟨⟨path.segments ++ fault.location⟩, fault.flaw.expected, fault.flaw.found⟩

/-- What is said of a fault of the value at a place. -/
def ShapeFault.report (fault : ShapeFault) (place : String) : String :=
  "at " ++ place ++ Path.stepsText fault.location ++ ": expected " ++ fault.flaw.expected ++
    ", found " ++ fault.flaw.found

/-- The steps to a fault are written behind the place. -/
theorem ShapeFault.message_mismatch (fault : ShapeFault) (path : Path) :
    (fault.mismatch path).message = fault.report path.render := by
  rw [Mismatch.message, report, mismatch, Path.render_append, ← String.append_assoc]

/-- Whether the result of decoding the value at a path reports the first of some faults, and is a
value if there are none. -/
def Reports {α : Type} (path : Path) (faults : Set ShapeFault) : Except Mismatch α → Prop
  | .ok _ => faults = ∅
  | .error mismatch => ∃ fault, IsFirst faults fault ∧ mismatch = fault.mismatch path

namespace Reports

variable {α β : Type} {path : Path} {faults earlier later : Set ShapeFault}

/-- A value of the wrong kind is the only fault. -/
theorem unfit (path : Path) (expected : String) (found : Json) :
    Reports path {⟨[], .unfit expected found⟩}
      (.error (.ofDocument path expected found) : Except Mismatch α) := by
  refine ⟨_, isFirst_singleton _, ?_⟩
  simp only [ShapeFault.mismatch, ShapeFault.location, List.map_nil, List.append_nil]
  rfl

/-- An absent member is the only fault of its own. -/
theorem missing (path : Path) (position : Nat) (name : String) :
    Reports path {⟨[.declared position name], .missing⟩}
      (.error (.missing (path.member name)) : Except Mismatch α) :=
  ⟨_, isFirst_singleton _, rfl⟩

/-- A fault of a part is a fault of the whole, and the first of them stays the first. -/
theorem under {result : Except Mismatch α} {step : Step}
    (hpart : Reports ⟨path.segments ++ [step.segment]⟩ faults result) :
    Reports path (ShapeFault.under step '' faults) result := by
  cases result with
  | ok value =>
    rw [Reports] at hpart ⊢
    rw [hpart, Set.image_empty]
  | error mismatch =>
    obtain ⟨fault, hfirst, rfl⟩ := hpart
    refine ⟨fault.under step, ⟨Set.mem_image_of_mem _ hfirst.mem, ?_⟩, ?_⟩
    · rintro _ ⟨other, hmem, rfl⟩
      rcases hfirst.before other hmem with rfl | hbefore
      · exact .inl rfl
      · exact .inr (.cons hbefore)
    · simp only [ShapeFault.mismatch, ShapeFault.location, ShapeFault.under, List.map_cons,
        List.append_assoc, List.singleton_append]

/-- The second of two steps is only taken when the first one finds no fault. -/
theorem bind {work : Except Mismatch α} {next : α → Except Mismatch β}
    (hwork : Reports path earlier work) (hnext : ∀ value, Reports path later (next value))
    (hbefore : ∀ first ∈ earlier, ∀ second ∈ later, first.Before second) :
    Reports path (earlier ∪ later) (work >>= next) := by
  cases work with
  | ok value =>
    rw [Reports] at hwork
    rw [hwork, Set.empty_union]
    exact hnext value
  | error mismatch =>
    obtain ⟨fault, hfirst, hmismatch⟩ := hwork
    refine ⟨fault, ⟨.inl hfirst.mem, ?_⟩, hmismatch⟩
    rintro other (hmem | hmem)
    · exact hfirst.before other hmem
    · exact .inr (hbefore fault hfirst.mem other hmem)

/-- What is made of a value has no fault of its own. -/
theorem map {work : Except Mismatch α} (make : α → β) (hwork : Reports path faults work) :
    Reports path faults (do return make (← work)) := by
  cases work with
  | ok value => exact hwork
  | error mismatch => exact hwork

end Reports

/-! ## Items and members -/

theorem reports_decodeItems {α : Type} {decode : Path → Json → Except Mismatch α}
    {faults : Json → Set ShapeFault}
    (hitem : ∀ path document, Reports path (faults document) (decode path document)) (path : Path)
    (index : Nat) (items : List Json) :
    Reports path (itemFaults faults index items) (decodeItems decode path index items) := by
  induction items generalizing index with
  | nil => rfl
  | cons item rest ih =>
    rw [decodeItems, itemFaults]
    apply Reports.bind
    · exact Reports.under (hitem (path.item index) item)
    · exact fun value => (ih (index + 1)).map (value :: ·)
    · rintro _ ⟨first, -, rfl⟩ second hsecond
      obtain ⟨offset, other, part, -, -, rfl⟩ := exists_of_mem_itemFaults hsecond
      exact .rel (show index < index + 1 + offset by omega)

/-- The faults of a member come before those of the members declared after it. -/
theorem before_of_mem_memberFaults {β : Type} {members : Members β} {first second : ShapeFault}
    {position : Nat} {name : String} {below : List Step} {present : List (String × Json)}
    (hfirst : first.trace = .declared position name :: below)
    (hsecond : second ∈ members.faults (position + 1) present) : first.Before second := by
  obtain ⟨place, other, rest, htrace, hle⟩ := exists_trace_of_mem_memberFaults hsecond
  rw [ShapeFault.Before, hfirst, htrace]
  exact .rel hle

/-- The least of some texts is one of them and below the others. -/
theorem leastText?_eq_some {texts : List String} {least : String}
    (hleast : leastText? texts = some least) :
    least ∈ texts ∧ ∀ text ∈ texts, text = least ∨ least < text := by
  induction texts generalizing least with
  | nil => cases hleast
  | cons text rest ih =>
    rw [leastText?] at hleast
    rw [List.forall_mem_cons]
    cases hrest : leastText? rest with
    | none =>
      rw [hrest] at hleast
      obtain rfl := Option.some.inj hleast
      rw [leastText?_eq_none_iff] at hrest
      exact ⟨List.mem_cons_self, .inl rfl, by simp [hrest]⟩
    | some other =>
      rw [hrest] at hleast
      obtain ⟨hmem, hbelow⟩ := ih hrest
      dsimp only at hleast
      split at hleast
      · rename_i hless
        obtain rfl := Option.some.inj hleast
        exact ⟨List.mem_cons_of_mem text hmem, .inr hless, hbelow⟩
      · rename_i hnot
        obtain rfl := Option.some.inj hleast
        refine ⟨List.mem_cons_self, .inl rfl, ?_⟩
        intro third hthird
        have hle : text ≤ other := not_lt.1 hnot
        have hother : other ≤ third := by
          rcases hbelow third hthird with rfl | hless
          · exact le_refl third
          · exact le_of_lt hless
        rcases eq_or_lt_of_le (hle.trans hother) with hsame | hless
        · exact .inl hsame.symm
        · exact .inr hless

/-- Of the undeclared members of an object the one with the least key is reported. -/
theorem reports_undeclared {α : Type} (path : Path) (declared : List String)
    (present : List (String × Json)) (value : α) :
    Reports path (undeclaredFaults declared present)
      (match leastUndeclared? declared present with
      | some key => .error (.undeclared (path.member key) declared)
      | none => .ok value) := by
  cases hleast : leastUndeclared? declared present with
  | none =>
    rw [leastUndeclared?_eq_none_iff] at hleast
    show undeclaredFaults declared present = ∅
    rw [Set.eq_empty_iff_forall_notMem]
    rintro _ ⟨key, hmem, hother, -⟩
    exact hother (hleast key hmem)
  | some key =>
    have hkeys (other : String) : (other ∈ (present.map Prod.fst).filter fun key =>
        !declared.contains key) ↔ other ∈ present.map Prod.fst ∧ other ∉ declared := by
      simp only [List.mem_filter, Bool.not_eq_true', List.contains_eq_mem, decide_eq_false_iff_not]
    obtain ⟨hmem, hbelow⟩ := leastText?_eq_some hleast
    obtain ⟨hpresent, hother⟩ := (hkeys key).1 hmem
    refine ⟨⟨[.undeclared key], .undeclared declared⟩, ⟨⟨key, hpresent, hother, rfl⟩, ?_⟩, rfl⟩
    rintro _ ⟨second, hsecond, hundeclared, rfl⟩
    rcases hbelow second ((hkeys second).2 ⟨hsecond, hundeclared⟩) with rfl | hless
    · exact .inl rfl
    · exact .inr (.rel (Text.bytes_lt_bytes_iff.2 hless))

/-! ## Decoding -/

mutual

/-- Decoding reports the first fault of a document. -/
theorem Shape.reports_decode {α : Type} :
    (shape : Shape α) → (path : Path) → (document : Json) →
      Reports path (shape.faults document) (shape.decode path document)
  | .leaf kind, path, document => by
    rw [Shape.decode, Shape.faults]
    cases hread : kind.read document with
    | some value => simp [Reports]
    | none => simpa using Reports.unfit path kind.expected document
  | .list item, path, document => by
    cases document with
    | array items =>
      rw [Shape.decode, Shape.faults]
      exact reports_decodeItems item.reports_decode path 0 items
    | _ =>
      simp only [Shape.decode, Shape.faults]
      exact Reports.unfit path "array" _
  | .record members make _, path, document => by
    cases document with
    | object present =>
      rw [Shape.decode, Shape.faults]
      apply Reports.bind (members.reports_decode path 0 present)
      · exact fun given => reports_undeclared path members.names present (make given)
      · rintro first hfirst _ ⟨key, -, -, rfl⟩
        obtain ⟨place, name, rest, htrace, -⟩ := exists_trace_of_mem_memberFaults hfirst
        rw [ShapeFault.Before, htrace]
        exact .rel trivial
    | _ =>
      simp only [Shape.decode, Shape.faults]
      exact Reports.unfit path "object" _

/-- Decoding the declared members of an object reports the first fault of theirs. -/
theorem Members.reports_decode {β : Type} :
    (members : Members β) → (path : Path) → (position : Nat) →
      (present : List (String × Json)) →
      Reports path (members.faults position present) (members.decode path present)
  | .done, _, _, _ => rfl
  | @Members.required α _ name shape rest, path, position, present => by
    rw [Members.decode, Members.faults]
    have hrest (value : α) := (rest.reports_decode path (position + 1) present).map (value, ·)
    cases present.lookup name with
    | none =>
      refine Reports.bind (Reports.missing path position name) hrest ?_
      rintro _ rfl second hsecond
      exact before_of_mem_memberFaults rfl hsecond
    | some document =>
      refine Reports.bind (Reports.under (shape.reports_decode (path.member name) document))
        hrest ?_
      rintro _ ⟨first, -, rfl⟩ second hsecond
      exact before_of_mem_memberFaults rfl hsecond
  | @Members.optional α _ name _ shape rest, path, position, present => by
    rw [Members.decode, Members.faults]
    have hrest (value : Option α) :=
      (rest.reports_decode path (position + 1) present).map (value, ·)
    cases present.lookup name with
    | none =>
      dsimp only
      rw [Set.empty_union]
      exact hrest none
    | some document =>
      cases document with
      | null =>
        dsimp only
        rw [Set.empty_union]
        exact hrest none
      | _ =>
        refine Reports.bind (Reports.under (shape.reports_decode (path.member name) _))
          (fun value => hrest (some value)) ?_
        rintro _ ⟨first, -, rfl⟩ second hsecond
        exact before_of_mem_memberFaults rfl hsecond

end

/-! ## Rejection -/

/-- If a document has not a shape, one of its faults is the first, the document really has it, and
decoding the document reports it, wherever the document is. A contract with this shape rejects the
document for it, whatever else the contract requires, and says where it is, what is expected there
and what is found. The shape may be any, a record of whatever members among them. -/
theorem first_fault_reported {α : Type} (shape : Shape α) (document : Json)
    (hwrong : ∀ value, ¬ shape.StandsFor value document) :
    ∃ fault, IsFirst (shape.faults document) fault ∧ fault.IsReal shape.Declares document ∧
      (∀ path, shape.decode path document = .error (fault.mismatch path) ∧
        (fault.mismatch path).message = fault.report path.render) ∧
      ∀ contract : Contract α, contract.shape = shape →
        contract.accept document = .error ⟨contract.name,
          "payload does not match the contract shape", fault.report "$"⟩ := by
  have hreports (path : Path) : ∃ fault, IsFirst (shape.faults document) fault ∧
      shape.decode path document = .error (fault.mismatch path) := by
    have hresult := shape.reports_decode path document
    cases hdecode : shape.decode path document with
    | ok value =>
      exact absurd ((shape.decode_eq_ok_iff path document value).1 hdecode) (hwrong value)
    | error mismatch =>
      rw [hdecode] at hresult
      obtain ⟨fault, hfirst, rfl⟩ := hresult
      exact ⟨fault, hfirst, rfl⟩
  obtain ⟨fault, hfirst, hroot⟩ := hreports .root
  refine ⟨fault, hfirst, shape.isReal_of_mem_faults document fault hfirst.mem, ?_, ?_⟩
  · intro path
    obtain ⟨other, hother, hdecode⟩ := hreports path
    rw [hfirst.unique hother] at hdecode
    exact ⟨hdecode, fault.message_mismatch path⟩
  · rintro contract rfl
    rw [Contract.accept, Contract.decode, hroot, ← Path.render_root, ← fault.message_mismatch]
    rfl

/-- A batch with faults in two records, a member too many in one of them and two more in the batch
itself, whose source is blank. -/
def spoiltBatch : Json :=
  .object [("source", .string " "), ("zeal", .null), ("ardour", .null), ("records", .array [
      .object [("recordId", .string "anvil"), ("spaceId", .string "smithy"),
        ("layer", .string "working"), ("payload", .null)],
      .object [("layer", .string "idle"), ("spaceId", .integer 5), ("extra", .null),
        ("recordId", .string "anvil")],
      .null]),
    ("idempotencyKey", .string "monday"), ("occurredAtMillis", .integer 1)]

/-- Its first fault is the space of the second record. -/
theorem spoiltBatch_rejected :
    (∀ value, ¬ Ingestion.Request.contract.shape.StandsFor value spoiltBatch) ∧
      (∃ fault, IsFirst (Ingestion.Request.contract.shape.faults spoiltBatch) fault ∧
        fault.IsReal Ingestion.Request.contract.shape.Declares spoiltBatch ∧
        fault.location = [.member "records", .item 1, .member "spaceId"] ∧
        fault.flaw.expected = "non-empty space id" ∧ fault.flaw.found = "number 5") ∧
      Ingestion.Request.contract.accept spoiltBatch = .error ⟨"IngestionRequest",
        "payload does not match the contract shape",
        "at $.records[1].spaceId: expected non-empty space id, found number 5"⟩ := by
  have hdecode : Ingestion.Request.contract.shape.decode .root spoiltBatch =
      .error ⟨⟨[.member "records", .item 1, .member "spaceId"]⟩,
        "non-empty space id", "number 5"⟩ := by
    decide +kernel
  have hwrong : ∀ value, ¬ Ingestion.Request.contract.shape.StandsFor value spoiltBatch := by
    intro value
    rw [← Shape.decode_eq_ok_iff _ .root, hdecode]
    simp only [reduceCtorEq, not_false_eq_true]
  obtain ⟨fault, hfirst, hreal, hreported, hrejected⟩ := first_fault_reported _ spoiltBatch hwrong
  have hmismatch := Except.error.inj ((hreported .root).1.symm.trans hdecode)
  have hlocation : fault.location = [.member "records", .item 1, .member "spaceId"] :=
    congrArg (·.path.segments) hmismatch
  have hexpected : fault.flaw.expected = "non-empty space id" :=
    congrArg Mismatch.expected hmismatch
  have hfound : fault.flaw.found = "number 5" := congrArg Mismatch.found hmismatch
  refine ⟨hwrong, ⟨fault, hfirst, hreal, hlocation, hexpected, hfound⟩,
    (hrejected _ rfl).trans ?_⟩
  rw [ShapeFault.report, hlocation, hexpected, hfound]
  decide +kernel

end Recollection
