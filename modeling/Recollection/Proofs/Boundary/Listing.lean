import Recollection.Proofs.Boundary.Invariants
import Recollection.Proofs.Contract.Faults
import Recollection.Proofs.Contract.Language
/-!
# Lists of identifiers

A contract may have a list that names no memory twice. It looks through the list for a repeat after
some of its requirements and before the others, so a repeat is reported exactly for a value that
meets the former. What else a contract checks is told apart from that by what a mismatch expects or
by its place.

In a document the identifiers are texts, and the white space at their ends does not count: what is
reported there is the first text that, trimmed, is the same as an earlier one.
-/

set_option autoImplicit false

namespace Recollection

/-! ## What a check reports -/

/-- Whether a check reports nothing but mismatches that expect one thing. -/
def OnlyExpects (expected : String) (check : Except Mismatch Unit) : Prop :=
  ∀ mismatch, check = .error mismatch → mismatch.expected = expected

namespace OnlyExpects

variable {expected : String} {first second : Except Mismatch Unit}

theorem ok : OnlyExpects expected (.ok ()) :=
  nofun

theorem error (path : Path) (found : String) :
    OnlyExpects expected (.error ⟨path, expected, found⟩) := by
  rintro _ ⟨⟩
  rfl

theorem sequence (hfirst : OnlyExpects expected first) (hsecond : OnlyExpects expected second) :
    OnlyExpects expected (do first; second) := by
  intro mismatch hfails
  rcases sequence_eq_error_iff.1 hfails with hfails | ⟨-, hfails⟩
  · exact hfirst mismatch hfails
  · exact hsecond mismatch hfails

end OnlyExpects

theorem onlyExpects_requireVisible (path : Path) (text : String) :
    OnlyExpects "non-blank text" (requireVisible path text) := by
  unfold requireVisible
  split
  · exact .error _ _
  · exact .ok

theorem onlyExpects_requireScore (path : Path) (score : Binary64) :
    OnlyExpects "a number in [0, 1]" (requireScore path score) := by
  unfold requireScore
  split
  · exact .ok
  · exact .error _ _

theorem onlyExpects_requireScores (path : Path) (index : Nat) (scores : List Binary64) :
    OnlyExpects "a number in [0, 1]" (requireScores path index scores) := by
  induction scores generalizing index with
  | nil => exact .ok
  | cons score rest ih => exact (onlyExpects_requireScore _ score).sequence (ih (index + 1))

/-! ## Identifiers in documents -/

/-- The text at a place of a document, without the white space at its ends. -/
def Json.trimmedAt? (place : List Segment) (document : Json) : Option String :=
  (document.at? place).bind fun part => part.text?.map Text.trim

theorem IsIdentifier.trimmedAt? {kind : IdentifierKind} {id : Identifier kind} {document : Json}
    (hid : IsIdentifier id document) : document.trimmedAt? [] = some id.text := by
  obtain ⟨raw, rfl, -, htext⟩ := hid
  rw [htext]
  rfl

/-- What is in a member of an object. -/
theorem IsRecord.trimmedAt? {rules : List MemberRule} {document : Json}
    (hrecord : IsRecord rules document) {name : String} {kind : Json → Prop}
    (hrule : MemberRule.required name kind ∈ rules) :
    ∃ part, kind part ∧
      ∀ place, document.trimmedAt? (.member name :: place) = part.trimmedAt? place := by
  obtain ⟨present, rfl, -, hfollows⟩ := hrecord
  obtain ⟨part, hfound, hkind⟩ := hfollows _ hrule
  refine ⟨part, hkind, ?_⟩
  intro place
  have hfound : present.lookup name = some part := hfound
  unfold Json.trimmedAt?
  rw [Json.at?, hfound]
  rfl

/-- The items of a list, each with a text of its own. -/
theorem IsList.trimmedAt? {α : Type} {kind : α → Json → Prop} {values : List α} {document : Json}
    (hlist : IsList kind values document) {place : List Segment} {text : α → String}
    (hitem : ∀ value part, kind value part → part.trimmedAt? place = some (text value))
    (index : Nat) :
    document.trimmedAt? (.item index :: place) = values[index]?.map text := by
  obtain ⟨items, rfl, hitems⟩ := hlist
  show (items[index]?.bind (Json.at? place)).bind _ = _
  induction hitems generalizing index with
  | nil => rfl
  | cons hvalue hrest ih =>
    cases index with
    | zero => exact hitem _ _ hvalue
    | succ index => exact ih index

/-- Whether the documents of a shape have the identifier of a value at a place. -/
def Shape.Names {β : Type} (shape : Shape β) (place : List Segment) (id : β → MemoryId) : Prop :=
  ∀ value document, shape.StandsFor value document →
    document.trimmedAt? place = some (id value).text

theorem Identifier.names_leaf : (Shape.leaf (leaf .memory)).Names [] id := by
  intro value document hstands
  rw [Shape.standsFor_identifier] at hstands
  exact hstands.trimmedAt?

/-- An object with a member for its identifier. -/
theorem Shape.names_record {α β : Type} {members : Members β} {make : β → α} {parts : α → β}
    (hparts : Function.LeftInverse parts make) (hmake : Function.LeftInverse make parts)
    {name : String} {id : α → MemoryId}
    (hrule : ∀ value, .required name (IsIdentifier (id value)) ∈ members.rules (parts value)) :
    (record members make parts).Names [.member name] id := by
  intro value document hstands
  rw [standsFor_record hparts hmake] at hstands
  obtain ⟨part, hid, hplace⟩ := hstands.trimmedAt? (hrule value)
  rw [hplace]
  exact hid.trimmedAt?

/-! ## Listings -/

/-- A list of memories in the values of a contract, none of which may be in it twice. -/
structure Listing (α : Type) where
  /-- The contract. -/
  contract : Contract α
  /-- The member that holds the list. -/
  name : String
  /-- The memories, in the order of the list. -/
  ids : α → List MemoryId
  /-- Where an item has its identifier. -/
  idPlace : List Segment
  /-- Where in an item a repeat is reported. -/
  reportPlace : List Segment
  /-- What is expected there. -/
  expected : String
  /-- What the contract requires before it looks for repeats. -/
  Before : α → Prop
  /-- What it requires after that. -/
  After : α → Prop

namespace Listing

variable {α β : Type}

/-- The mismatch that an item is reported as whose identifier has the text of an earlier one. -/
def mismatch (listing : Listing α) (index : Nat) (text : String) : Mismatch :=
  ⟨⟨.member listing.name :: .item index :: listing.reportPlace⟩, listing.expected,
    "repeated id " ++ text⟩

/-- What is said of an item whose identifier has the text of an earlier one. -/
def report (listing : Listing α) (index : Nat) (text : String) : String :=
  "at $." ++ listing.name ++ "[" ++ toString index ++ "]" ++
    Path.stepsText listing.reportPlace ++ ": expected " ++ listing.expected ++
    ", found repeated id " ++ text

theorem message_mismatch (listing : Listing α) (index : Nat) (text : String) :
    (listing.mismatch index text).message = listing.report index text := by
  have hplace : "at $." = "at $" ++ "." := rfl
  have hfound : ", found repeated id " = ", found " ++ "repeated id " := rfl
  simp only [mismatch, Mismatch.message_eq, Path.stepsText, report, hplace, hfound,
    String.append_assoc]

/-- The identifier of an item in a document, without the white space at its ends. -/
def trimmedAt (listing : Listing α) (document : Json) (index : Nat) : Option String :=
  document.trimmedAt? (.member listing.name :: .item index :: listing.idPlace)

/-- Whether a contract keeps a list free of repeats, and reports the first one of a list that is
not. -/
structure IsGuarded (listing : Listing α) : Prop where
  /-- Of the values that meet the other requirements those without repeats are accepted. -/
  accepts : ∀ value, listing.contract.validate value = .ok () ↔
    listing.Before value ∧ (listing.ids value).Nodup ∧ listing.After value
  /-- Once the requirements before are met, what is reported as a repeat is the first one. -/
  reports : ∀ value index id,
    listing.contract.check value = .error (listing.mismatch index id.text) ↔
      listing.Before value ∧ IsFirstRepeat ((listing.ids value)[·]?) index id
  /-- Of the documents those are accepted in which no text, trimmed, is the same as an earlier
  one. -/
  acceptsDocument : ∀ document value, listing.contract.accept document = .ok value ↔
    listing.contract.decode document = .ok value ∧ listing.Before value ∧
      (∀ index, ¬ RepeatsAt (listing.trimmedAt document) index) ∧ listing.After value
  /-- A document is rejected for the first text that is. -/
  rejectsDocument : ∀ document value, listing.contract.decode document = .ok value →
    listing.Before value → ∀ index text, IsFirstRepeat (listing.trimmedAt document) index text →
      listing.contract.accept document =
        .error ⟨listing.contract.name, "payload violates a contract invariant",
          listing.report index text⟩

/-- The texts of a document are those of the value that it stands for. -/
theorem trimmedAt_eq {listing : Listing α} {members : Members β} {make : β → α} {parts : α → β}
    (hshape : listing.contract.shape = .record members make parts)
    (hparts : Function.LeftInverse parts make) (hmake : Function.LeftInverse make parts)
    {γ : Type} {item : Shape γ} {id : γ → MemoryId} (hnames : item.Names listing.idPlace id)
    {values : α → List γ} (hids : ∀ value, listing.ids value = (values value).map id)
    (hrule : ∀ value, .required listing.name (IsList item.StandsFor (values value)) ∈
      members.rules (parts value))
    {document : Json} {value : α} (hdecode : listing.contract.decode document = .ok value)
    (index : Nat) :
    listing.trimmedAt document index = (listing.ids value)[index]?.map Identifier.text := by
  rw [Contract.decode, Shape.decode_eq_ok_iff, hshape, Shape.standsFor_record hparts hmake]
    at hdecode
  obtain ⟨part, hlist, hplace⟩ := hdecode.trimmedAt? (hrule value)
  rw [trimmedAt, hplace, hlist.trimmedAt? hnames, hids, List.getElem?_map, Option.map_map]
  rfl

/-- The texts of a list whose items are the identifiers themselves. -/
theorem trimmedAt_eq_of_ids {listing : Listing α} {members : Members β} {make : β → α}
    {parts : α → β} (hshape : listing.contract.shape = .record members make parts)
    (hparts : Function.LeftInverse parts make) (hmake : Function.LeftInverse make parts)
    (hplace : listing.idPlace = [])
    (hrule : ∀ value, .required listing.name (IsList IsIdentifier (listing.ids value)) ∈
      members.rules (parts value))
    {document : Json} {value : α} (hdecode : listing.contract.decode document = .ok value)
    (index : Nat) :
    listing.trimmedAt document index = (listing.ids value)[index]?.map Identifier.text := by
  have hnames : (Shape.leaf (Identifier.leaf .memory)).Names listing.idPlace id := by
    rw [hplace]
    exact Identifier.names_leaf
  rw [← Shape.standsFor_identifier] at hrule
  exact trimmedAt_eq hshape hparts hmake hnames (fun value => (List.map_id _).symm) hrule hdecode
    index

/-! ### What a check reports -/

variable {listing : Listing α} {value : α} {before met : Prop}
  {check earlier later : Except Mismatch Unit}

theorem mismatch_eq_iff {index other : Nat} {text copy : String} :
    listing.mismatch index text = listing.mismatch other copy ↔ index = other ∧ text = copy := by
  simp [mismatch]

/-- Whether a check reports nothing that a repeat in a list would be reported as. -/
def Misses (listing : Listing α) (check : Except Mismatch Unit) : Prop :=
  ∀ index text, check ≠ .error (listing.mismatch index text)

theorem misses_of_onlyExpects {expected : String} (hcheck : OnlyExpects expected check)
    (hother : listing.expected ≠ expected) : listing.Misses check := by
  intro index text hfails
  exact hother (hcheck _ hfails)

/-- A repeat in one list is not taken for one in another list. -/
theorem misses_requireDistinct {name : String} (hother : name ≠ listing.name)
    (ids : List MemoryId) :
    listing.Misses (requireDistinct Identifier.text (Path.root.member name) ids) := by
  intro index text hfails
  obtain ⟨place, id, -, hsame⟩ := (requireDistinct_eq_error_iff _ _ _ _).1 hfails
  simp [mismatch, Path.item, Path.member, Path.root, hother.symm] at hsame

theorem Misses.sequence (hearlier : listing.Misses earlier) (hlater : listing.Misses later) :
    listing.Misses (do earlier; later) := by
  intro index text hfails
  rcases sequence_eq_error_iff.1 hfails with hfails | ⟨-, hfails⟩
  · exact hearlier index text hfails
  · exact hlater index text hfails

/-- Whether a check reports an item of the list in a value if it is the first repeat and something
is the case, and not otherwise. -/
def ReportsFirst (listing : Listing α) (value : α) (before : Prop)
    (check : Except Mismatch Unit) : Prop :=
  ∀ index id, check = .error (listing.mismatch index id.text) ↔
    before ∧ IsFirstRepeat ((listing.ids value)[·]?) index id

/-- The search for a repeat reports the first one. -/
theorem reportsFirst_of_search
    (hcheck : ∀ mismatch, check = .error mismatch ↔
      ∃ index id, IsFirstRepeat ((listing.ids value)[·]?) index id ∧
        mismatch = listing.mismatch index id.text) :
    listing.ReportsFirst value True check := by
  intro index id
  rw [hcheck, true_and]
  constructor
  · rintro ⟨place, other, hfirst, hsame⟩
    obtain ⟨rfl, htext⟩ := mismatch_eq_iff.1 hsame
    obtain rfl := Identifier.ext_text htext
    exact hfirst
  · exact fun hfirst => ⟨index, id, hfirst, rfl⟩

theorem reportsFirst_requireDistinct (listing : Listing α) (value : α)
    (hplace : listing.reportPlace = [])
    (hexpected : listing.expected = "an id not listed earlier") :
    listing.ReportsFirst value True
      (requireDistinct Identifier.text (Path.root.member listing.name) (listing.ids value)) := by
  have hmismatch (index : Nat) (text : String) : listing.mismatch index text =
      ⟨(Path.root.member listing.name).item index, "an id not listed earlier",
        "repeated id " ++ text⟩ := by
    rw [mismatch, hplace, hexpected]
    rfl
  apply reportsFirst_of_search
  simp only [hmismatch]
  exact requireDistinct_eq_error_iff _ _ _

theorem ReportsFirst.congr (hcheck : listing.ReportsFirst value before check)
    (hsame : before ↔ met) : listing.ReportsFirst value met check := by
  intro index id
  rw [hcheck, hsame]

/-- What is checked later does not change what is reported of the list. -/
theorem ReportsFirst.andThen (hcheck : listing.ReportsFirst value before check)
    (hlater : listing.Misses later) : listing.ReportsFirst value before (do check; later) := by
  intro index id
  rw [sequence_eq_error_iff, hcheck]
  simp only [hlater index id.text, and_false, or_false]

/-- What is checked earlier has to be met. -/
theorem ReportsFirst.after (hcheck : listing.ReportsFirst value before check)
    (hearlier : listing.Misses earlier) (hmet : earlier = .ok () ↔ met) :
    listing.ReportsFirst value (met ∧ before) (do earlier; check) := by
  intro index id
  rw [sequence_eq_error_iff, hcheck, hmet, and_assoc]
  simp only [hearlier index id.text, false_or]

/-- What a contract does with a list in its values it does with the texts in its documents. -/
theorem isGuarded
    (haccepts : ∀ value, listing.contract.validate value = .ok () ↔
      listing.Before value ∧ (listing.ids value).Nodup ∧ listing.After value)
    (hreports : ∀ value,
      listing.ReportsFirst value (listing.Before value) (listing.contract.check value))
    (htexts : ∀ document value, listing.contract.decode document = .ok value → ∀ index,
      listing.trimmedAt document index = (listing.ids value)[index]?.map Identifier.text) :
    listing.IsGuarded := by
  -- A document has the texts of its value, and they tell its identifiers apart.
  have hdocument {document : Json} {value : α}
      (hdecode : listing.contract.decode document = .ok value) :
      listing.trimmedAt document = fun index => (listing.ids value)[index]?.map Identifier.text :=
    funext (htexts document value hdecode)
  have hinjective (a b : MemoryId) (hsame : a.text = b.text) : a = b := Identifier.ext_text hsame
  refine ⟨haccepts, hreports, ?accepted, ?rejected⟩
  case accepted =>
    intro document value
    rw [Contract.accept_eq_ok_iff, haccepts]
    apply and_congr_right
    intro hdecode
    simp only [hdocument hdecode, repeatsAt_map_iff hinjective, nodup_iff_not_repeatsAt]
  case rejected =>
    intro document value hdecode hbefore index text hfirst
    rw [hdocument hdecode, isFirstRepeat_map_iff hinjective] at hfirst
    obtain ⟨id, rfl, hfirst⟩ := hfirst
    have hcheck := (hreports value index id).2 ⟨hbefore, hfirst⟩
    rw [Contract.accept_eq_error_of_check hdecode hcheck, Contract.invariantRejection,
      message_mismatch]

end Listing

end Recollection
