import Recollection.Proofs.Contract.RoundTrip
import Recollection.Proofs.Identity.Scope
/-!
# Anchored scopes

A document stands for a scope exactly when it has the shape of one and is anchored. The shape is an
object with a named level and with anchors that are null or texts; it is anchored if it has the
anchor that its level asks for, which is not blank, and no other. A shaped object that is not
anchored has its fault at the first anchor that the level does not accept, or else at the one that
it asks for. What a scope is written as is read as the same scope again.
-/

set_option autoImplicit false

namespace Recollection

namespace Scope

/-! ## Shape and anchors of a document -/

/-- The members that may hold an anchor, in the order in which they are looked at. -/
def anchorFields : List String :=
  ["projectId", "roleId", "userId"]

/-- An object has an anchor in a member that is not null. -/
def HasAnchor (members : List (String × Json)) (field : String) : Prop :=
  ∃ value, members.lookup field = some value ∧ value ≠ .null

/-- An object has the shape of a scope of some level. -/
structure IsShaped (members : List (String × Json)) (level : ScopeLevel) : Prop where
  /-- There are no members but the level and the anchors. -/
  declared : ∀ key ∈ members.map Prod.fst, key = "level" ∨ key ∈ anchorFields
  /-- The level is given by its name. -/
  level : members.lookup "level" = some (.string level.name)
  /-- A member for an anchor is null or a text. -/
  anchors : ∀ field ∈ anchorFields, ∀ value, members.lookup field = some value →
    value = .null ∨ ∃ text, value = .string text

/-- An object is anchored at some level. -/
structure IsAnchored (members : List (String × Json)) (level : ScopeLevel) : Prop where
  /-- The anchors are exactly the one that the level asks for. -/
  exact : ∀ field ∈ anchorFields, HasAnchor members field ↔ level.anchorField? = some field
  /-- That anchor is not all white space. -/
  visible : ∀ field text, level.anchorField? = some field →
    members.lookup field = some (.string text) → Text.isBlankText text = false

/-- A scope carries the anchor of an object, trimmed. -/
def CarriesAnchor (scope : Scope) (members : List (String × Json)) : Prop :=
  ∀ field text, scope.level.anchorField? = some field →
    members.lookup field = some (.string text) → scope.anchor? = some (Text.trim text)

/-- The level accepts every one of some anchors that the object has. -/
def Accepts (level : ScopeLevel) (members : List (String × Json)) (fields : List String) : Prop :=
  ∀ field ∈ fields, HasAnchor members field → level.anchorField? = some field

/-- The member at which a shaped object fails to be anchored at its level. -/
inductive FailsAt (members : List (String × Json)) (level : ScopeLevel) : String → Prop
  /-- The first anchor that the level does not accept. -/
  | unaccepted {before after : List String} {field : String}
      (split : anchorFields = before ++ field :: after) (earlier : Accepts level members before)
      (present : HasAnchor members field) (other : level.anchorField? ≠ some field) :
      FailsAt members level field
  /-- The anchor that the level asks for, if there is none that it does not accept. -/
  | required {field : String} (accepted : Accepts level members anchorFields)
      (asked : level.anchorField? = some field) : FailsAt members level field

/-! ## The form of a shaped object -/

/-- The text of the anchor in a member. -/
def anchorText? (members : List (String × Json)) (field : String) : Option String :=
  (members.lookup field).bind Json.text?

/-- The form of an object at a level. -/
def formOf (members : List (String × Json)) (level : ScopeLevel) : ScopeForm :=
  ⟨level, anchorText? members "projectId", anchorText? members "roleId",
    anchorText? members "userId"⟩

end Scope

/-- An optional text is read from a member that is absent, null or a text. -/
theorem MemberRule.allows_optional_text_iff {name : String} {found : Option Json}
    {value : Option String} :
    (MemberRule.optional name IsText value).Allows found ↔
      (∀ document, found = some document → document = .null ∨ ∃ text, document = .string text) ∧
        value = found.bind Json.text? := by
  cases found with
  | none => cases value <;> simp [optional]
  | some document =>
    cases document <;> cases value <;> simp [optional, IsText, Json.text?, eq_comm]

namespace Scope

variable {members : List (String × Json)} {level : ScopeLevel} {field : String}

theorem forall_mem_anchorFields {P : String → Prop} :
    (∀ field ∈ anchorFields, P field) ↔ P "projectId" ∧ P "roleId" ∧ P "userId" := by
  simp [anchorFields]

theorem mem_anchorFields_of_asked (hasked : level.anchorField? = some field) :
    field ∈ anchorFields := by
  cases level <;> cases hasked <;> decide

/-- A form is written in the objects that have its shape and its anchors. -/
theorem written_iff (form : ScopeForm) (document : Json) :
    form.Written document ↔
      ∃ members, document = .object members ∧ IsShaped members form.level ∧
        form = formOf members form.level := by
  simp only [ScopeForm.Written, IsRecord, Follows, List.forall_mem_cons, List.not_mem_nil,
    false_imp_iff, implies_true, and_true, MemberRule.allows_optional_text_iff]
  constructor
  · rintro ⟨members, hobject, hkeys, ⟨_, hlevel, rfl⟩, ⟨hproject, hprojectId⟩, ⟨hrole, hroleId⟩,
      huser, huserId⟩
    refine ⟨members, hobject, ⟨?_, hlevel, ?_⟩, ?_⟩
    · simpa [MemberRule.required, MemberRule.optional, anchorFields] using hkeys
    · exact forall_mem_anchorFields.2 ⟨hproject, hrole, huser⟩
    · calc form = ⟨form.level, form.projectId, form.roleId, form.userId⟩ := rfl
        _ = formOf members form.level := by
          rw [hprojectId, hroleId, huserId]
          rfl
  · rintro ⟨members, hobject, hshaped, hform⟩
    obtain ⟨hproject, hrole, huser⟩ := forall_mem_anchorFields.1 hshaped.anchors
    refine ⟨members, hobject, ?_, ⟨_, hshaped.level, rfl⟩, ⟨hproject, ?_⟩, ⟨hrole, ?_⟩, huser, ?_⟩
    · simpa [MemberRule.required, MemberRule.optional, anchorFields] using hshaped.declared
    · exact congrArg ScopeForm.projectId hform
    · exact congrArg ScopeForm.roleId hform
    · exact congrArg ScopeForm.userId hform

/-- An object with the shape of a scope is decoded by its form. -/
theorem decode_of_isShaped (hshaped : IsShaped members level) (path : Path) :
    decode path (.object members) =
      (formOf members level).toScope.mapError fun fault =>
        ⟨faultPath path fault, "exactly one anchor matching the scope level", fault.message⟩ := by
  have hform : ScopeForm.shape.decode path (.object members) = .ok (formOf members level) :=
    (ScopeForm.decode_shape_eq_ok_iff path _ _).2
      ((written_iff _ _).2 ⟨members, rfl, hshaped, rfl⟩)
  rw [decode, hform]
  rfl

/-- A scope is decoded from the objects that have its shape and whose form makes it. -/
theorem decode_eq_ok_iff_shaped (path : Path) (document : Json) (scope : Scope) :
    decode path document = .ok scope ↔
      ∃ members level, document = .object members ∧ IsShaped members level ∧
        (formOf members level).toScope = .ok scope := by
  rw [decode_eq_ok_iff]
  constructor
  · rintro ⟨form, hwritten, hscope⟩
    obtain ⟨members, hobject, hshaped, hform⟩ := (written_iff form document).1 hwritten
    exact ⟨members, form.level, hobject, hshaped, hform ▸ hscope⟩
  · rintro ⟨members, level, hobject, hshaped, hscope⟩
    exact ⟨formOf members level, (written_iff _ _).2 ⟨members, hobject, hshaped, rfl⟩, hscope⟩

/-! ## Anchors of a form -/

theorem hasAnchor_iff_isSome (hshaped : IsShaped members level) (hfield : field ∈ anchorFields) :
    HasAnchor members field ↔ (anchorText? members field).isSome = true := by
  rw [HasAnchor, anchorText?]
  cases hfound : members.lookup field with
  | none => simp
  | some value =>
    obtain rfl | ⟨text, rfl⟩ := hshaped.anchors field hfield value hfound
    · simp [Json.text?]
    · simp [Json.text?]

theorem anchorText?_eq_some_iff {text : String} :
    anchorText? members field = some text ↔ members.lookup field = some (.string text) := by
  rw [anchorText?, Option.bind_eq_some_iff]
  constructor
  · rintro ⟨value, hfound, htext⟩
    rw [hfound]
    cases value <;> cases htext
    rfl
  · exact fun hfound => ⟨_, hfound, rfl⟩

/-- The anchors of a form are those that its object has, in the order of the members. -/
theorem anchors_formOf :
    (formOf members level).anchors =
      anchorFields.filterMap fun field => (anchorText? members field).map (field, ·) :=
  rfl

/-- Where the level accepts every anchor, the last anchor is the one that it asks for. -/
theorem getLast?_anchors (hshaped : IsShaped members level)
    (haccepts : Accepts level members anchorFields) :
    (formOf members level).anchors.getLast?.map Prod.snd =
      level.anchorField?.bind (anchorText? members) := by
  have hother : ∀ field ∈ anchorFields, level.anchorField? ≠ some field →
      anchorText? members field = none := by
    intro field hfield hne
    rw [← Option.not_isSome_iff_eq_none, ← hasAnchor_iff_isSome hshaped hfield]
    exact fun hhas => hne (haccepts field hfield hhas)
  obtain ⟨hproject, hrole, huser⟩ := forall_mem_anchorFields.1 hother
  rw [anchors_formOf, anchorFields]
  cases level with
  | common =>
    simp [hproject (by decide), hrole (by decide), huser (by decide), ScopeLevel.anchorField?]
  | project =>
    cases htext : anchorText? members "projectId" <;>
      simp [htext, hrole (by decide), huser (by decide), ScopeLevel.anchorField?]
  | jobRole =>
    cases htext : anchorText? members "roleId" <;>
      simp [htext, hproject (by decide), huser (by decide), ScopeLevel.anchorField?]
  | user =>
    cases htext : anchorText? members "userId" <;>
      simp [htext, hproject (by decide), hrole (by decide), ScopeLevel.anchorField?]

/-- The first anchor of a form that the level does not accept. -/
theorem find?_anchors :
    ((formOf members level).anchors.find? fun (field, _) => some field != level.anchorField?) =
      (anchorFields.find? fun field =>
        (anchorText? members field).isSome && some field != level.anchorField?).bind fun field =>
          (anchorText? members field).map (field, ·) := by
  rw [anchors_formOf, List.find?_filterMap]
  congr 2
  funext field
  cases anchorText? members field <;> rfl

theorem toScope_of_unaccepted {form : ScopeForm} {text : String}
    (hfound : (form.anchors.find? fun (field, _) => some field != form.level.anchorField?) =
      some (field, text)) :
    form.toScope = .error (.unexpectedAnchor form.level field) := by
  rw [ScopeForm.toScope, hfound]

theorem toScope_of_accepted {form : ScopeForm}
    (hfound : (form.anchors.find? fun (field, _) => some field != form.level.anchorField?) = none) :
    form.toScope = make form.level (form.anchors.getLast?.map Prod.snd) := by
  rw [ScopeForm.toScope, hfound]

/-- Either the form has a first anchor that the level does not accept, or the level accepts them all
and the scope is made from the one that it asks for. -/
theorem toScope_cases (hshaped : IsShaped members level) :
    (∃ before field after, anchorFields = before ++ field :: after ∧
      Accepts level members before ∧ HasAnchor members field ∧
      level.anchorField? ≠ some field ∧
      (formOf members level).toScope = .error (.unexpectedAnchor level field)) ∨
    (Accepts level members anchorFields ∧
      (formOf members level).toScope =
        make level (level.anchorField?.bind (anchorText? members))) := by
  have hrefuses (field : String) (hfield : field ∈ anchorFields) :
      ((anchorText? members field).isSome && some field != level.anchorField?) = true ↔
        HasAnchor members field ∧ level.anchorField? ≠ some field := by
    rw [Bool.and_eq_true, hasAnchor_iff_isSome hshaped hfield, bne_iff_ne, ne_comm]
  have hfirst := @find?_anchors members level
  cases hfind : anchorFields.find? fun field =>
      (anchorText? members field).isSome && some field != level.anchorField? with
  | some field =>
    left
    obtain ⟨hfield, before, after, hsplit, hbefore⟩ := List.find?_eq_some_iff_append.1 hfind
    obtain ⟨hhas, hother⟩ := (hrefuses field (by simp [hsplit])).1 hfield
    obtain ⟨text, htext⟩ := Option.isSome_iff_exists.1 (Bool.and_eq_true_iff.1 hfield).1
    refine ⟨before, field, after, hsplit, ?_, hhas, hother, ?_⟩
    · intro earlier hearlier hpresent
      by_contra hne
      have hrefused := (hrefuses earlier (by simp [hsplit, hearlier])).2 ⟨hpresent, hne⟩
      have hpassed := hbefore earlier hearlier
      rw [hrefused] at hpassed
      cases hpassed
    · rw [hfind, Option.bind_some, htext] at hfirst
      exact toScope_of_unaccepted hfirst
  | none =>
    right
    have haccepts : Accepts level members anchorFields := by
      intro field hfield hhas
      by_contra hother
      exact List.find?_eq_none.1 hfind field hfield ((hrefuses field hfield).2 ⟨hhas, hother⟩)
    rw [hfind] at hfirst
    rw [← getLast?_anchors hshaped haccepts]
    exact ⟨haccepts, toScope_of_accepted hfirst⟩

/-! ## Making a scope -/

theorem ofText_map_eq_ok_iff {kind : IdentifierKind} {wrap : Identifier kind → Scope}
    {rename : InvalidIdentifier → InvalidScope} {raw : String} {scope : Scope} :
    ((Identifier.ofText kind raw).map wrap).mapError rename = .ok scope ↔
      ∃ identifier, Text.isBlankText raw = false ∧ identifier.text = Text.trim raw ∧
        wrap identifier = scope := by
  simp only [mapError_eq_ok_iff, Identifier.ofText, ← and_assoc,
    ← Identifier.ofText?_eq_some_iff]
  cases Identifier.ofText? kind raw <;> simp [Except.map]

/-- A scope is made at its level, from a visible text that becomes its anchor by trimming. -/
theorem make_eq_ok_iff {anchor : Option String} {scope : Scope} :
    make level anchor = .ok scope ↔
      scope.level = level ∧ scope.anchor? = anchor.map Text.trim ∧
        ∀ text, anchor = some text → Text.isBlankText text = false := by
  cases anchor with
  | none => cases level <;> cases scope <;> simp [make, Scope.level, anchor?]
  | some raw =>
    cases level <;> cases scope <;>
      simp [make, Scope.level, anchor?, ofText_map_eq_ok_iff, and_comm]

theorem anchor?_eq_none_iff (scope : Scope) :
    scope.anchor? = none ↔ scope.level.anchorField? = none := by
  cases scope <;> simp [anchor?, Scope.level, ScopeLevel.anchorField?]

/-- A visible text makes a scope of the level that asks for an anchor. -/
theorem exists_make {text : String} (hasked : level.anchorField? = some field)
    (hvisible : Text.isBlankText text = false) :
    ∃ scope, make level (some text) = .ok scope := by
  cases level with
  | common => cases hasked
  | project =>
    obtain ⟨identifier, hidentifier⟩ := Identifier.exists_ofText .project hvisible
    exact ⟨.project identifier, by rw [make, hidentifier]; rfl⟩
  | jobRole =>
    obtain ⟨identifier, hidentifier⟩ := Identifier.exists_ofText .role hvisible
    exact ⟨.jobRole identifier, by rw [make, hidentifier]; rfl⟩
  | user =>
    obtain ⟨identifier, hidentifier⟩ := Identifier.exists_ofText .user hvisible
    exact ⟨.user identifier, by rw [make, hidentifier]; rfl⟩

/-- A level that asks for an anchor fails only because there is none or it is no identifier. -/
theorem make_eq_error {anchor : Option String} {fault : InvalidScope}
    (hasked : level.anchorField? = some field) (hfault : make level anchor = .error fault) :
    fault = .missingAnchor level ∨ ∃ cause, fault = .invalidAnchor level cause := by
  cases anchor with
  | none =>
    left
    cases level with
    | common => cases hasked
    | project | jobRole | user => exact (Except.error.inj hfault).symm
  | some raw =>
    right
    cases level with
    | common => cases hasked
    | project | jobRole | user =>
      obtain ⟨cause, -, hcause⟩ := mapError_eq_error_iff.1 hfault
      exact ⟨cause, hcause.symm⟩

/-- Where a level fails on the anchor that it asks for, the fault is at the member of that one. -/
theorem faultPath_of_make {text : String → Option String} {fault : InvalidScope}
    (hfault : make level (level.anchorField?.bind text) = .error fault) :
    ∃ field, level.anchorField? = some field ∧
      ∀ path : Path, faultPath path fault = path.member field := by
  cases hasked : level.anchorField? with
  | none =>
    cases level with
    | common => cases hfault
    | project | jobRole | user => cases hasked
  | some field =>
    refine ⟨field, rfl, fun path => ?_⟩
    obtain rfl | ⟨cause, rfl⟩ := make_eq_error hasked hfault
    · rw [faultPath, hasked, Option.getD_some]
    · rw [faultPath, hasked, Option.getD_some]

/-! ## Anchored objects -/

/-- An object that has the shape of a scope makes the scopes of its level that carry its anchor, if
it is anchored. -/
theorem toScope_eq_ok_iff (hshaped : IsShaped members level) {scope : Scope} :
    (formOf members level).toScope = .ok scope ↔
      IsAnchored members level ∧ scope.level = level ∧ scope.CarriesAnchor members := by
  have hhas (field : String) (hfield : field ∈ anchorFields) :
      HasAnchor members field ↔ ∃ text, anchorText? members field = some text := by
    rw [hasAnchor_iff_isSome hshaped hfield, Option.isSome_iff_exists]
  obtain ⟨before, other, after, hsplit, -, hpresent, hother, hform⟩ | ⟨haccepts, hform⟩ :=
    toScope_cases hshaped
  · simp only [hform, reduceCtorEq, false_iff]
    rintro ⟨hanchored, -⟩
    exact hother ((hanchored.exact other (by simp [hsplit])).1 hpresent)
  · rw [hform, make_eq_ok_iff]
    constructor
    · rintro ⟨hlevel, hanchor, hvisible⟩
      refine ⟨⟨?_, ?_⟩, hlevel, ?_⟩
      · intro field hfield
        refine ⟨haccepts field hfield, fun hasked => ?_⟩
        rw [hhas field hfield]
        have hsome : scope.anchor? ≠ none := by
          rw [ne_eq, anchor?_eq_none_iff, hlevel, hasked]
          simp
        rw [hanchor, hasked, Option.bind_some, ne_eq, Option.map_eq_none_iff] at hsome
        exact Option.ne_none_iff_exists'.1 hsome
      · intro field text hasked hfound
        apply hvisible
        rw [hasked, Option.bind_some, anchorText?_eq_some_iff.2 hfound]
      · intro field text hasked hfound
        rw [hanchor, ← hlevel, hasked, Option.bind_some, anchorText?_eq_some_iff.2 hfound]
        rfl
    · rintro ⟨hanchored, hlevel, hcarries⟩
      refine ⟨hlevel, ?_⟩
      cases hasked : level.anchorField? with
      | none =>
        refine ⟨(anchor?_eq_none_iff scope).2 (hlevel ▸ hasked), nofun⟩
      | some field =>
        have hfield := mem_anchorFields_of_asked hasked
        obtain ⟨text, htext⟩ := (hhas field hfield).1 ((hanchored.exact field hfield).2 hasked)
        have hfound := anchorText?_eq_some_iff.1 htext
        rw [Option.bind_some, htext]
        refine ⟨hcarries field text (hlevel ▸ hasked) hfound, ?_⟩
        rintro _ ⟨⟩
        exact hanchored.visible field text hasked hfound

/-- An anchored object makes a scope. -/
theorem exists_toScope (hshaped : IsShaped members level) (hanchored : IsAnchored members level) :
    ∃ scope, (formOf members level).toScope = .ok scope := by
  obtain ⟨before, other, after, hsplit, -, hpresent, hother, -⟩ | ⟨-, hform⟩ :=
    toScope_cases hshaped
  · exact absurd ((hanchored.exact other (by simp [hsplit])).1 hpresent) hother
  · rw [hform]
    cases hasked : level.anchorField? with
    | none =>
      refine ⟨.common, ?_⟩
      cases level <;> cases hasked
      rfl
    | some field =>
      have hfield := mem_anchorFields_of_asked hasked
      have hpresent := (hanchored.exact field hfield).2 hasked
      obtain ⟨text, htext⟩ :=
        Option.isSome_iff_exists.1 ((hasAnchor_iff_isSome hshaped hfield).1 hpresent)
      rw [Option.bind_some, htext]
      exact exists_make hasked
        (hanchored.visible field text hasked (anchorText?_eq_some_iff.1 htext))

/-- An object that is shaped but not anchored has its fault where it fails. -/
theorem exists_fault (hshaped : IsShaped members level) (hother : ¬IsAnchored members level) :
    ∃ fault field, (formOf members level).toScope = .error fault ∧ FailsAt members level field ∧
      ∀ path : Path, faultPath path fault = path.member field := by
  obtain ⟨before, field, after, hsplit, hearlier, hpresent, hother, hform⟩ | ⟨haccepts, hform⟩ :=
    toScope_cases hshaped
  · exact ⟨_, field, hform, .unaccepted hsplit hearlier hpresent hother, fun _ => rfl⟩
  · cases hmake : (formOf members level).toScope with
    | ok scope => exact absurd ((toScope_eq_ok_iff hshaped).1 hmake).1 hother
    | error fault =>
      obtain ⟨field, hasked, hpath⟩ := faultPath_of_make (hform ▸ hmake)
      exact ⟨fault, field, rfl, .required haccepts hasked, hpath⟩

/-- An object fails to be anchored at one member only. -/
theorem FailsAt.unique {other : String} (hfails : FailsAt members level field)
    (hother : FailsAt members level other) : field = other := by
  classical
  -- The first anchor that is not accepted is what a search for one finds.
  have hfirst {before after : List String} {first : String}
      (hsplit : anchorFields = before ++ first :: after)
      (hearlier : Accepts level members before) (hpresent : HasAnchor members first)
      (hne : level.anchorField? ≠ some first) :
      anchorFields.find? (fun name => HasAnchor members name ∧ level.anchorField? ≠ some name) =
        some first := by
    refine List.find?_eq_some_iff_append.2 ⟨by simp [hpresent, hne], before, after, hsplit, ?_⟩
    intro earlier hmem
    simpa [or_iff_not_imp_left] using hearlier earlier hmem
  cases hfails with
  | unaccepted hsplit hearlier hpresent hne =>
    cases hother with
    | unaccepted hsplit' hearlier' hpresent' hne' =>
      have hfound := hfirst hsplit hearlier hpresent hne
      rw [hfirst hsplit' hearlier' hpresent' hne'] at hfound
      exact (Option.some.inj hfound).symm
    | required haccepts hasked =>
      exact absurd (haccepts field (by simp [hsplit]) hpresent) hne
  | required haccepts hasked =>
    cases hother with
    | unaccepted hsplit hearlier hpresent hne =>
      exact absurd (haccepts other (by simp [hsplit]) hpresent) hne
    | required haccepts' hasked' => exact Option.some.inj (hasked.symm.trans hasked')

/-! ## What a scope is written as -/

theorem carried_form (form : ScopeForm) : ScopeForm.shape.Carries form := by
  refine ⟨by decide, ⟨?_, ?_, ?_, ?_, trivial⟩, rfl⟩
  · exact ScopeLevel.isNaming.read_write_named form.level
  · exact fun text _ => ⟨rfl, nofun⟩
  · exact fun text _ => ⟨rfl, nofun⟩
  · exact fun text _ => ⟨rfl, nofun⟩

/-- The form of a scope makes that scope. -/
theorem toScope_ofScope (scope : Scope) : (ScopeForm.ofScope scope).toScope = .ok scope := by
  have hmake : (ScopeForm.ofScope scope).toScope = make scope.level scope.anchor? := by
    cases scope <;>
      simp [ScopeForm.ofScope, ScopeForm.toScope, ScopeForm.anchors, ScopeLevel.anchorField?,
        Scope.level, anchor?]
  rw [hmake]
  cases scope with
  | common => rfl
  | project anchor | jobRole anchor | user anchor =>
    rw [Scope.level, anchor?, make, Identifier.ofText, Identifier.ofText?_text]
    rfl

/-- A scope is written in the document that stands for its form. -/
theorem written_encode (scope : Scope) : (ScopeForm.ofScope scope).Written scope.encode :=
  (ScopeForm.decode_shape_eq_ok_iff .root _ _).1
    (ScopeForm.shape.decode_encode _ (carried_form _) .root)

theorem decode_encode (path : Path) (scope : Scope) : decode path scope.encode = .ok scope :=
  (decode_eq_ok_iff path _ scope).2 ⟨_, written_encode scope, toScope_ofScope scope⟩

theorem load_encode (scope : Scope) : load scope.encode = .ok scope := by
  have hunique : scope.encode.HasUniqueKeys := by
    cases scope <;>
      simp [encode, ScopeForm.ofScope, ScopeForm.shape, Shape.encode, Members.encode,
        Json.HasUniqueKeys]
  have hplain : ¬ScopeForm.IsShorthand scope.encode := fun hshorthand =>
    ScopeForm.not_written_of_isShorthand hshorthand _ (written_encode scope)
  rw [load_eq_ok_iff hunique, ScopeForm.writtenOut_eq_self hunique hplain]
  exact ⟨_, written_encode scope, toScope_ofScope scope⟩

/-! ## Decoding -/

/-- A document is decoded as a scope exactly when it is an object that is shaped and anchored at
some level, and the scope carries the anchor. A shaped object that is not anchored is refused where
it fails. Both readers give a scope back from what it is written as. -/
theorem decoded_iff_anchored (path : Path) :
    (∀ document, (∃ scope, decode path document = .ok scope) ↔
      ∃ members level, document = .object members ∧ IsShaped members level ∧
        IsAnchored members level) ∧
    (∀ members level scope, IsShaped members level → decode path (.object members) = .ok scope →
      scope.level = level ∧ scope.CarriesAnchor members) ∧
    (∀ members level, IsShaped members level → ¬IsAnchored members level →
      ∃ mismatch, decode path (.object members) = .error mismatch ∧
        ∃ field, mismatch.path = path.member field ∧
          mismatch.path.render = path.render ++ "." ++ field ∧
          ∀ other, FailsAt members level other ↔ other = field) ∧
    (∀ scope, decode path scope.encode = .ok scope ∧ load scope.encode = .ok scope) := by
  refine ⟨fun document => ⟨?_, ?_⟩, ?_, ?_, ?_⟩
  · rintro ⟨scope, hdecode⟩
    obtain ⟨members, level, hobject, hshaped, hscope⟩ :=
      (decode_eq_ok_iff_shaped path document scope).1 hdecode
    exact ⟨members, level, hobject, hshaped, ((toScope_eq_ok_iff hshaped).1 hscope).1⟩
  · rintro ⟨members, level, hobject, hshaped, hanchored⟩
    obtain ⟨scope, hscope⟩ := exists_toScope hshaped hanchored
    exact ⟨scope, (decode_eq_ok_iff_shaped path document scope).2
      ⟨members, level, hobject, hshaped, hscope⟩⟩
  · intro members level scope hshaped hdecode
    rw [decode_of_isShaped hshaped, mapError_eq_ok_iff, toScope_eq_ok_iff hshaped] at hdecode
    exact hdecode.2
  · intro members level hshaped hother
    obtain ⟨fault, field, hfault, hfails, hpath⟩ := exists_fault hshaped hother
    have hdecode := decode_of_isShaped hshaped path
    rw [hfault] at hdecode
    refine ⟨_, hdecode, field, hpath path, ?_, fun other => ⟨fun h => h.unique hfails, ?_⟩⟩
    · exact (congrArg Path.render (hpath path)).trans (Path.render_member path field)
    · rintro rfl
      exact hfails
  · exact fun scope => ⟨decode_encode path scope, load_encode scope⟩

/-- The members of a user with the anchor of a role besides. -/
def twiceAnchored : List (String × Json) :=
  [("level", .string "user"), ("userId", .string " u-1 "), ("roleId", .string "r-1")]

/-- The anchor of the role is refused, although the one that the level asks for is there. -/
theorem twiceAnchored_refused :
    IsShaped twiceAnchored .user ∧ ¬IsAnchored twiceAnchored .user ∧
      ∃ mismatch, decode .root (.object twiceAnchored) = .error mismatch ∧
        mismatch.path.render = "$.roleId" := by
  have hshaped : IsShaped twiceAnchored .user := by
    refine ⟨by decide, by decide, forall_mem_anchorFields.2 ⟨nofun, ?_, ?_⟩⟩
    · rintro _ ⟨⟩
      exact .inr ⟨_, rfl⟩
    · rintro _ ⟨⟩
      exact .inr ⟨_, rfl⟩
  have hother : ¬IsAnchored twiceAnchored .user := by
    intro hanchored
    have hasked := (hanchored.exact "roleId" (by decide)).1 ⟨_, rfl, nofun⟩
    exact absurd hasked (by decide)
  have hfails : FailsAt twiceAnchored .user "roleId" := by
    have hsplit : anchorFields = ["projectId"] ++ "roleId" :: ["userId"] := rfl
    refine .unaccepted hsplit ?_ ⟨_, rfl, nofun⟩ (by decide)
    exact List.forall_mem_singleton.2 (by rintro ⟨_, ⟨⟩, -⟩)
  obtain ⟨mismatch, hdecode, field, -, htext, hunique⟩ :=
    (decoded_iff_anchored .root).2.2.1 twiceAnchored .user hshaped hother
  refine ⟨hshaped, hother, mismatch, hdecode, ?_⟩
  rw [htext, ← (hunique "roleId").1 hfails, Path.render_root]
  rfl

end Scope

end Recollection
