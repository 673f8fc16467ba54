import Recollection.Proofs.Contract.Naming
import Recollection.Proofs.Number.Reading
import Recollection.Proofs.Settings.Check
import Recollection.Proofs.Settings.Variable
import Recollection.Proofs.Text.AsciiCase
import Recollection.Proofs.Text.Blank
import Recollection.Settings.Document
import Recollection.Settings.Overlay
/-!
# Settings from the environment

What the five variables stand for is told without reading them. Overlaying settings gives what the
variables stand for in place of the settings' own values, and fails on the first variable of no use;
settings that can be worked with stay so, and overlaying them again changes nothing.

The check of settings refuses what a variable refuses, but for one setting: a variable must not hold
a blank label of the deployment, and the check does not look at the label.
-/

set_option autoImplicit false

namespace Recollection

theorem LogFormat.isNaming : IsNaming LogFormat.name LogFormat.all where
  complete format := by cases format <;> decide
  nodup := by decide

namespace Settings

/-! ## What variables stand for -/

/-- A visible text stands for itself, trimmed. -/
def GivesVisible (text value : String) : Prop :=
  Text.isBlankText text = false ∧ value = Text.trim text

theorem GivesVisible.visible {text value : String} (hgives : GivesVisible text value) :
    Text.isBlankText value = false := by
  obtain ⟨hvisible, rfl⟩ := hgives
  exact Text.isBlankText_trim hvisible

/-- A level is given by its name, up to ASCII case and white space at the ends. -/
def GivesLevel (text level : String) : Prop :=
  level ∈ LogSettings.levels ∧ Text.EqualUpToCase (Text.trim text) level

/-- The form of a log is given by its name, up to ASCII case and white space at the ends. -/
def GivesFormat (text : String) (format : LogFormat) : Prop :=
  Text.EqualUpToCase (Text.trim text) format.name

/-- The greatest page is given by a numeral of a number that it may be; white space at the ends does
not count. -/
def GivesLimit (text : String) (limit : UInt32) : Prop :=
  Numeral.IsNumeral (Text.trim text).toList limit.toNat ∧ 1 ≤ limit ∧ limit ≤ Retrieval.maxLimit

/-- The variables in the order in which they are looked at, and what they must hold. -/
def variableRules : List VariableRule :=
  [.ofGives "MNEM_SERVICE_NAME" GivesVisible, .ofGives "MNEM_ENVIRONMENT" GivesVisible,
    .ofGives "MNEM_LOG_LEVEL" GivesLevel, .ofGives "MNEM_LOG_FORMAT" GivesFormat,
    .ofGives "MNEM_RETRIEVAL_MAX_LIMIT" GivesLimit]

/-- Settings are others with what the variables of an environment stand for in their places. -/
structure IsOverlay (environment : Environment) (settings result : Settings) : Prop where
  /-- The name of the service. -/
  serviceName : Given environment "MNEM_SERVICE_NAME" GivesVisible settings.serviceName
    result.serviceName
  /-- The label of the deployment. -/
  label : Given environment "MNEM_ENVIRONMENT" GivesVisible settings.environment
    result.environment
  /-- The least severity that is logged. -/
  level : Given environment "MNEM_LOG_LEVEL" GivesLevel settings.log.level result.log.level
  /-- The form of the log. -/
  format : Given environment "MNEM_LOG_FORMAT" GivesFormat settings.log.format result.log.format
  /-- The greatest page. -/
  maxLimit : Given environment "MNEM_RETRIEVAL_MAX_LIMIT" GivesLimit settings.maxLimit
    result.maxLimit
  /-- No variable makes evaluations strict. -/
  strictEvaluation : result.strictEvaluation = settings.strictEvaluation
  /-- No variable has rules. -/
  policy : result.policy = settings.policy

/-! ## Reading the variables -/

theorem reads_visible (name : String) :
    (⟨name, Variable.readVisible⟩ : Variable String).Reads GivesVisible := by
  intro text value
  show Variable.readVisible text = .ok value ↔ _
  rw [Variable.readVisible, GivesVisible]
  cases Text.isBlankText text <;> simp [eq_comm]

theorem not_exists_givesVisible_iff (text : String) :
    (¬∃ value, GivesVisible text value) ↔ Text.isBlankText text = true := by
  simp [GivesVisible]

theorem reads_serviceName : serviceNameVariable.Reads GivesVisible :=
  reads_visible _

theorem reads_label : environmentVariable.Reads GivesVisible :=
  reads_visible _

/-- The names of levels have no capitals. -/
theorem lowerAscii_of_mem_levels : ∀ level ∈ LogSettings.levels, Text.lowerAscii level = level := by
  decide +kernel

theorem LogFormat.lowerAscii_name (format : LogFormat) :
    Text.lowerAscii format.name = format.name := by
  cases format <;> decide +kernel

theorem reads_logLevel : logLevelVariable.Reads GivesLevel := by
  intro text level
  have hread : logLevelVariable.read text = .ok level ↔
      level ∈ LogSettings.levels ∧ Text.lowerAscii (Text.trim text) = level := by
    unfold logLevelVariable
    dsimp only
    split
    · rename_i hlevel
      rw [List.contains_iff_mem] at hlevel
      rw [Except.ok.injEq]
      refine ⟨?_, And.right⟩
      rintro rfl
      exact ⟨hlevel, rfl⟩
    · rename_i hother
      rw [List.contains_iff_mem] at hother
      simp only [reduceCtorEq, false_iff]
      rintro ⟨hlevel, rfl⟩
      exact hother hlevel
  rw [hread, GivesLevel]
  apply and_congr_right
  intro hmem
  rw [← Text.lowerAscii_eq_lowerAscii_iff, lowerAscii_of_mem_levels level hmem]

theorem reads_logFormat : logFormatVariable.Reads GivesFormat := by
  intro text format
  rw [GivesFormat, ← Text.lowerAscii_eq_lowerAscii_iff, LogFormat.lowerAscii_name,
    @eq_comm _ _ format.name, ← LogFormat.isNaming.find?_eq_some_iff]
  unfold logFormatVariable LogFormat.ofName?
  dsimp only
  split
  · rename_i found hfound
    rw [hfound, Except.ok.injEq, Option.some.injEq]
  · rename_i hnone
    rw [hnone]
    simp only [reduceCtorEq]

theorem reads_maxLimit : maxLimitVariable.Reads GivesLimit := by
  intro text limit
  rw [GivesLimit, ← Numeral.readUInt32?_eq_some_iff, ← isPageLimit_eq_true_iff]
  unfold maxLimitVariable
  dsimp only
  split
  · rename_i hnone
    rw [hnone]
    simp only [reduceCtorEq, false_and]
  · rename_i found hfound
    rw [hfound, Option.some.injEq]
    split
    · rename_i hallowed
      rw [Except.ok.injEq]
      refine ⟨?_, And.left⟩
      rintro rfl
      exact ⟨rfl, hallowed⟩
    · rename_i hrefused
      simp only [reduceCtorEq, false_iff]
      rintro ⟨rfl, hallowed⟩
      exact hrefused hallowed

/-! ## Overlaying -/

variable {environment : Environment} {settings result : Settings}

/-- Settings are overlaid with what the variables stand for. -/
theorem overlay_eq_ok_iff :
    settings.overlay environment = .ok result ↔ IsOverlay environment settings result := by
  simp only [overlay, bind_eq_ok_iff, reads_serviceName.valueOr_eq_ok_iff,
    reads_label.valueOr_eq_ok_iff, reads_logLevel.valueOr_eq_ok_iff,
    reads_logFormat.valueOr_eq_ok_iff, reads_maxLimit.valueOr_eq_ok_iff]
  constructor
  · rintro ⟨serviceName, hservice, label, hlabel, level, hlevel, format, hformat, maxLimit,
      hmaxLimit, hresult⟩
    obtain rfl := Except.ok.inj hresult
    exact ⟨hservice, hlabel, hlevel, hformat, hmaxLimit, rfl, rfl⟩
  · intro hoverlay
    refine ⟨_, hoverlay.serviceName, _, hoverlay.label, _, hoverlay.level, _, hoverlay.format, _,
      hoverlay.maxLimit, ?_⟩
    rw [← hoverlay.strictEvaluation, ← hoverlay.policy]
    rfl

/-- Overlaying looks at the variables in order. -/
theorem heeds_overlay : Heeds variableRules environment (settings.overlay environment) := by
  refine (reads_serviceName.heeds environment _).bind fun _ => ?_
  refine (reads_label.heeds environment _).bind fun _ => ?_
  refine (reads_logLevel.heeds environment _).bind fun _ => ?_
  refine (reads_logFormat.heeds environment _).bind fun _ => ?_
  exact (reads_maxLimit.heeds environment _).bind fun _ => .ofOk environment _

/-- Settings that can be worked with can be worked with after overlaying them. -/
theorem IsOverlay.validate (hoverlay : IsOverlay environment settings result)
    (hvalid : settings.validate = .ok ()) : result.validate = .ok () := by
  rw [validate_eq_ok_iff] at hvalid ⊢
  obtain ⟨hservice, hlevel, hlimit⟩ := hvalid
  refine ⟨?_, ?_, ?_⟩
  · exact hoverlay.serviceName.holds hservice fun _ _ => GivesVisible.visible
  · exact hoverlay.level.holds hlevel fun _ _ => And.left
  · exact hoverlay.maxLimit.holds hlimit fun _ limit hgives =>
      (isPageLimit_eq_true_iff limit).2 hgives.2

/-- Overlaid settings are their own overlay. -/
theorem IsOverlay.self (hoverlay : IsOverlay environment settings result) :
    IsOverlay environment result result where
  serviceName := hoverlay.serviceName.self
  label := hoverlay.label.self
  level := hoverlay.level.self
  format := hoverlay.format.self
  maxLimit := hoverlay.maxLimit.self
  strictEvaluation := rfl
  policy := rfl

/-- Settings that can be worked with stay so under every environment, with what the variables stand
for in their places, unless a variable is of no use; the first of these is the fault. Overlaying
twice is overlaying once. -/
theorem overlay_keeps_valid {settings : Settings} (hvalid : settings.validate = .ok ())
    (environment : Environment) :
    ((∃ result, settings.overlay environment = .ok result ∧ result.validate = .ok () ∧
        IsOverlay environment settings result) ∨
      ∃ fault, settings.overlay environment = .error fault ∧
        IsFirstUnusable variableRules environment fault) ∧
    ((∃ fault, settings.overlay environment = .error fault) ↔
      ∃ rule ∈ variableRules, ∃ text, rule.Breaks environment text) ∧
    (settings.overlay environment >>= fun once => once.overlay environment) =
      settings.overlay environment := by
  refine ⟨?_, heeds_overlay.exists_eq_error_iff, ?_⟩
  · cases hresult : settings.overlay environment with
    | ok result =>
      have hoverlay := overlay_eq_ok_iff.1 hresult
      exact .inl ⟨result, rfl, hoverlay.validate hvalid, hoverlay⟩
    | error fault => exact .inr ⟨fault, rfl, heeds_overlay.isFirstUnusable fault hresult⟩
  · cases hresult : settings.overlay environment with
    | ok result => exact overlay_eq_ok_iff.2 (overlay_eq_ok_iff.1 hresult).self
    | error fault => rfl

/-- An environment that sets three variables, none of them in its plain form. -/
def forgeEnvironment : Environment := fun name =>
  [("MNEM_SERVICE_NAME", " forge\t"), ("MNEM_LOG_LEVEL", "Debug "),
    ("MNEM_RETRIEVAL_MAX_LIMIT", " +0250")].lookup name

/-- The settings of reproducible runs take over the three, in their plain form. -/
theorem forgeEnvironment_overlaid :
    deterministic.validate = .ok () ∧
      ∃ result, deterministic.overlay forgeEnvironment = .ok result ∧ result.validate = .ok () ∧
        result.serviceName = "forge" ∧ result.environment = "test" ∧
        result.log = ⟨"debug", .pretty⟩ ∧ result.maxLimit = 250 := by
  have hvalid : deterministic.validate = .ok () := by decide +kernel
  have hresult : deterministic.overlay forgeEnvironment =
      .ok { deterministic with
        serviceName := "forge"
        log := ⟨"debug", .pretty⟩
        maxLimit := 250 } := by decide +kernel
  obtain ⟨⟨result, hoverlay, hkept, -⟩ | ⟨fault, hfault, -⟩, -, -⟩ :=
    overlay_keeps_valid hvalid forgeEnvironment
  · obtain rfl := Except.ok.inj (hoverlay.symm.trans hresult)
    exact ⟨hvalid, _, hresult, hkept, rfl, rfl, rfl, rfl⟩
  · cases hfault.symm.trans hresult

/-! ## What the check refuses -/

/-- Overlaying some settings fails on a variable that holds a text. -/
def OverlayRefuses (name text : String) : Prop :=
  ∃ (settings : Settings) (environment : Environment) (fault : UnusableVariable),
    settings.overlay environment = .error fault ∧ fault.name = name ∧ fault.text = text

/-- The check refuses all settings that have a text in some place. -/
def CheckRefuses (place : Settings → String) (text : String) : Prop :=
  ∀ settings, place settings = text → ∃ fault, settings.validate = .error fault

/-- A variable is refused with the texts that are of no use. -/
theorem overlayRefuses_iff {rule : VariableRule} (hmem : rule ∈ variableRules) (text : String) :
    OverlayRefuses rule.name text ↔ ¬rule.Allows text := by
  constructor
  · rintro ⟨settings, environment, fault, hfault, hname, rfl⟩
    exact ((heeds_overlay.isFirstUnusable fault hfault).breaks (by decide) hmem hname).2
  · intro hrefused
    -- In an environment that sets no other variable, the fault can only be about this one.
    let environment : Environment := fun name => if name = rule.name then some text else none
    have hfails : ∃ fault, standard.overlay environment = .error fault :=
      heeds_overlay.exists_eq_error_iff.2 ⟨rule, hmem, text, if_pos rfl, hrefused⟩
    obtain ⟨fault, hfault⟩ := hfails
    obtain ⟨before, found, after, -, hname, ⟨hset, -⟩, -⟩ :=
      heeds_overlay.isFirstUnusable fault hfault
    dsimp only [environment] at hset
    split at hset
    · rename_i hsame
      exact ⟨standard, environment, fault, hfault, hname.trans hsame, (Option.some.inj hset).symm⟩
    · cases hset

/-- A variable for visible text is refused with the blank ones. -/
theorem overlayRefuses_iff_isBlankText {name : String}
    (hmem : VariableRule.ofGives name GivesVisible ∈ variableRules) (text : String) :
    OverlayRefuses name text ↔ Text.isBlankText text = true := by
  rw [← not_exists_givesVisible_iff]
  exact overlayRefuses_iff hmem text

/-- The variable of the level is not refused with a level. -/
theorem notMem_levels_of_overlayRefuses {text : String}
    (hrefuses : OverlayRefuses "MNEM_LOG_LEVEL" text) : text ∉ LogSettings.levels := by
  intro hlisted
  have hrule : VariableRule.ofGives "MNEM_LOG_LEVEL" GivesLevel ∈ variableRules := by
    simp [variableRules]
  have htrimmed : ∀ level ∈ LogSettings.levels, Text.trim level = level := by decide +kernel
  have hsame : Text.EqualUpToCase (Text.trim text) text := by
    rw [htrimmed text hlisted, ← Text.lowerAscii_eq_lowerAscii_iff]
  exact (overlayRefuses_iff hrule text).1 hrefuses ⟨text, hlisted, hsame⟩

theorem exists_validate_eq_error {settings : Settings} (hinvalid : settings.validate ≠ .ok ()) :
    ∃ fault, settings.validate = .error fault := by
  cases hresult : settings.validate with
  | ok _ => exact absurd hresult hinvalid
  | error fault => exact ⟨fault, rfl⟩

/-- The check refuses what the variables of the name and of the level refuse. It refuses what the
variable of the label refuses for visible texts only. -/
theorem check_refuses_but_labels (text : String) :
    (OverlayRefuses "MNEM_SERVICE_NAME" text → CheckRefuses Settings.serviceName text) ∧
    (OverlayRefuses "MNEM_LOG_LEVEL" text →
      CheckRefuses (fun settings => settings.log.level) text) ∧
    ((OverlayRefuses "MNEM_ENVIRONMENT" text → CheckRefuses Settings.environment text) ↔
      Text.isBlankText text = false) := by
  refine ⟨?_, ?_, ?_⟩
  · rw [overlayRefuses_iff_isBlankText (by simp [variableRules])]
    rintro hblank settings rfl
    apply exists_validate_eq_error
    rw [ne_eq, validate_eq_ok_iff, hblank]
    simp
  · rintro hrefuses settings rfl
    apply exists_validate_eq_error
    rw [ne_eq, validate_eq_ok_iff]
    rintro ⟨-, hlisted, -⟩
    exact notMem_levels_of_overlayRefuses hrefuses hlisted
  · rw [overlayRefuses_iff_isBlankText (by simp [variableRules]), ← Bool.not_eq_true]
    constructor
    · intro hrefuses hblank
      -- The check does not look at the label.
      obtain ⟨fault, hfault⟩ := hrefuses hblank { standard with environment := text } rfl
      have hvalid : standard.validate = .ok () := by decide +kernel
      cases hfault.symm.trans hvalid
    · exact fun hvisible hblank => absurd hblank hvisible

/-- No level is called loud, wherever it stands. -/
theorem loud_refused :
    OverlayRefuses "MNEM_LOG_LEVEL" "loud" ∧
      CheckRefuses (fun settings => settings.log.level) "loud" := by
  have hrefuses : OverlayRefuses "MNEM_LOG_LEVEL" "loud" := by
    refine ⟨standard, fun name => if name = "MNEM_LOG_LEVEL" then some "loud" else none,
      ⟨"MNEM_LOG_LEVEL", "loud", "expected one of trace, debug, info, warn, error"⟩, ?_, rfl, rfl⟩
    decide +kernel
  exact ⟨hrefuses, (check_refuses_but_labels "loud").2.1 hrefuses⟩

/-- A blank label is refused in its variable, but not by the check, nor as part of a TOML text. -/
theorem blankLabel_not_refused :
    OverlayRefuses "MNEM_ENVIRONMENT" "  " ∧ ¬CheckRefuses Settings.environment "  " ∧
      ofToml "environment = \"  \"" = .ok { standard with environment := "  " } := by
  refine ⟨?_, ?_, ?_⟩
  · refine ⟨standard, fun name => if name = "MNEM_ENVIRONMENT" then some "  " else none,
      ⟨"MNEM_ENVIRONMENT", "  ", "must not be blank"⟩, ?_, rfl, rfl⟩
    decide +kernel
  · intro hrefuses
    obtain ⟨fault, hfault⟩ := hrefuses { standard with environment := "  " } rfl
    have hvalid : standard.validate = .ok () := by decide +kernel
    cases hfault.symm.trans hvalid
  · decide +kernel

end Settings

end Recollection
