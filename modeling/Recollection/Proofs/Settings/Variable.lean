import Mathlib.Data.List.Nodup
import Recollection.Proofs.Contract.Check
import Recollection.Settings.Variable
/-!
# Variables that are looked at in order

What the text of a variable stands for is told by a relation, without reading it. A setting is then
what its variable gives, or what it was if the variable is not set. Of several variables that are
looked at in order the first one of no use is the fault, and there is a fault exactly if one of them
is of no use.
-/

set_option autoImplicit false

namespace Recollection

/-- What a setting becomes: what the text of its variable stands for, if the variable is set. -/
def Given {α : Type} (environment : Environment) (name : String) (gives : String → α → Prop)
    (own value : α) : Prop :=
  match environment name with
  | none => value = own
  | some text => gives text value

/-- What a variable must hold if it is set. -/
structure VariableRule where
  /-- The name of the variable. -/
  name : String
  /-- Which texts are of use. -/
  Allows : String → Prop

namespace VariableRule

/-- The texts that stand for some value are of use. -/
def ofGives {α : Type} (name : String) (gives : String → α → Prop) : VariableRule where
  name := name
  Allows text := ∃ value, gives text value

/-- The variable is set to a text of no use. -/
def Breaks (environment : Environment) (rule : VariableRule) (text : String) : Prop :=
  environment rule.name = some text ∧ ¬rule.Allows text

end VariableRule

/-- A fault is about the first of some variables that is of no use, with the text it holds. -/
def IsFirstUnusable (rules : List VariableRule) (environment : Environment)
    (fault : UnusableVariable) : Prop :=
  ∃ before rule after, rules = before ++ rule :: after ∧ fault.name = rule.name ∧
    rule.Breaks environment fault.text ∧
      ∀ earlier ∈ before, ∀ text, ¬earlier.Breaks environment text

/-! ## What a setting becomes -/

section Given

variable {α : Type} {environment : Environment} {name : String} {gives : String → α → Prop}
  {own value : α}

/-- A setting is what it was, or what a text stands for. -/
theorem Given.eq_or_gives (hgiven : Given environment name gives own value) :
    value = own ∨ ∃ text, gives text value := by
  unfold Given at hgiven
  split at hgiven
  · exact .inl hgiven
  · exact .inr ⟨_, hgiven⟩

/-- What holds of a setting, and of all that its variable may give, holds of what it becomes. -/
theorem Given.holds (hgiven : Given environment name gives own value) {p : α → Prop} (hown : p own)
    (hgives : ∀ text value, gives text value → p value) : p value := by
  rcases hgiven.eq_or_gives with rfl | ⟨text, htext⟩
  · exact hown
  · exact hgives text value htext

/-- What a setting becomes it stays. -/
theorem Given.self (hgiven : Given environment name gives own value) :
    Given environment name gives value value := by
  unfold Given at hgiven ⊢
  split
  · rfl
  · rename_i text hset
    rwa [hset] at hgiven

/-- A variable that a setting was given by is of use. -/
theorem Given.not_breaks (hgiven : Given environment name gives own value) (text : String) :
    ¬(VariableRule.ofGives name gives).Breaks environment text := by
  rintro ⟨hset, hnone⟩
  unfold Given at hgiven
  rw [show environment name = some text from hset] at hgiven
  exact hnone ⟨value, hgiven⟩

end Given

/-! ## Reading a variable -/

namespace Variable

variable {α : Type} {v : Variable α} {gives : String → α → Prop} {environment : Environment}
  {own value : α}

/-- The texts of a variable are read as what they stand for. -/
def Reads (v : Variable α) (gives : String → α → Prop) : Prop :=
  ∀ text value, v.read text = .ok value ↔ gives text value

theorem Reads.valueOr_eq_ok_iff (hreads : v.Reads gives) :
    v.valueOr environment own = .ok value ↔ Given environment v.name gives own value := by
  unfold Given
  cases hset : environment v.name with
  | none => rw [valueOr_of_unset hset, Except.ok.injEq, eq_comm]
  | some text => rw [valueOr_of_set hset, mapError_eq_ok_iff, hreads]

theorem Reads.of_valueOr_eq_error {fault : UnusableVariable} (hreads : v.Reads gives)
    (hfault : v.valueOr environment own = .error fault) :
    fault.name = v.name ∧ (VariableRule.ofGives v.name gives).Breaks environment fault.text := by
  cases hset : environment v.name with
  | none =>
    rw [valueOr_of_unset hset] at hfault
    cases hfault
  | some text =>
    rw [valueOr_of_set hset, mapError_eq_error_iff] at hfault
    obtain ⟨reason, hread, rfl⟩ := hfault
    refine ⟨rfl, hset, ?_⟩
    rintro ⟨value, hgives⟩
    rw [(hreads text value).2 hgives] at hread
    cases hread

end Variable

/-! ## Reading variables in order -/

/-- A computation looks at some variables in order: it fails on the first one of no use, and ends
with a value only if they are all of use. -/
structure Heeds {α : Type} (rules : List VariableRule) (environment : Environment)
    (work : Except UnusableVariable α) : Prop where
  /-- Its fault. -/
  isFirstUnusable : ∀ fault, work = .error fault → IsFirstUnusable rules environment fault
  /-- What its value tells. -/
  not_breaks : ∀ value, work = .ok value →
    ∀ rule ∈ rules, ∀ text, ¬rule.Breaks environment text

theorem Variable.Reads.heeds {α : Type} {v : Variable α} {gives : String → α → Prop}
    (hreads : v.Reads gives) (environment : Environment) (own : α) :
    Heeds [.ofGives v.name gives] environment (v.valueOr environment own) where
  isFirstUnusable fault hfault := by
    obtain ⟨hname, hbreaks⟩ := hreads.of_valueOr_eq_error hfault
    exact ⟨[], _, [], rfl, hname, hbreaks, nofun⟩
  not_breaks value hvalue := by
    rw [List.forall_mem_singleton]
    exact (hreads.valueOr_eq_ok_iff.1 hvalue).not_breaks

namespace Heeds

variable {α β : Type} {rules more : List VariableRule} {environment : Environment}
  {work : Except UnusableVariable α} {next : α → Except UnusableVariable β}

theorem ofOk (environment : Environment) (value : α) :
    Heeds [] environment (.ok value : Except UnusableVariable α) where
  isFirstUnusable := nofun
  not_breaks := nofun

/-- Of two computations the second one looks at its variables after those of the first. -/
theorem bind (hwork : Heeds rules environment work)
    (hnext : ∀ value, Heeds more environment (next value)) :
    Heeds (rules ++ more) environment (work >>= next) := by
  cases hresult : work with
  | error cause =>
    refine ⟨fun fault hfault => ?_, nofun⟩
    obtain rfl := Except.error.inj hfault
    obtain ⟨before, rule, after, rfl, hname, hbreaks, hearlier⟩ :=
      hwork.isFirstUnusable cause hresult
    exact ⟨before, rule, after ++ more, by simp, hname, hbreaks, hearlier⟩
  | ok value =>
    have hpassed := hwork.not_breaks value hresult
    refine ⟨fun fault hfault => ?_, fun result hdone => ?_⟩
    · obtain ⟨before, rule, after, rfl, hname, hbreaks, hearlier⟩ :=
        (hnext value).isFirstUnusable fault hfault
      refine ⟨rules ++ before, rule, after, by simp, hname, hbreaks, ?_⟩
      exact List.forall_mem_append.2 ⟨hpassed, hearlier⟩
    · exact List.forall_mem_append.2 ⟨hpassed, (hnext value).not_breaks result hdone⟩

/-- It ends with a value exactly if no variable is of no use. -/
theorem exists_eq_ok_iff (hwork : Heeds rules environment work) :
    (∃ value, work = .ok value) ↔ ∀ rule ∈ rules, ∀ text, ¬rule.Breaks environment text := by
  cases hresult : work with
  | ok value => exact iff_of_true ⟨value, rfl⟩ (hwork.not_breaks value hresult)
  | error fault =>
    obtain ⟨before, rule, after, rfl, -, hbreaks, -⟩ := hwork.isFirstUnusable fault hresult
    refine iff_of_false nofun fun hnone => ?_
    exact hnone rule (by simp) fault.text hbreaks

/-- It fails exactly if a variable is of no use. -/
theorem exists_eq_error_iff (hwork : Heeds rules environment work) :
    (∃ fault, work = .error fault) ↔ ∃ rule ∈ rules, ∃ text, rule.Breaks environment text := by
  have hother : (∃ fault, work = .error fault) ↔ ¬∃ value, work = .ok value := by
    cases work <;> simp
  rw [hother, hwork.exists_eq_ok_iff]
  simp only [not_forall, not_not, exists_prop]

end Heeds

/-- Where no two variables have one name, the fault of a variable is about its own text. -/
theorem IsFirstUnusable.breaks {rules : List VariableRule} {environment : Environment}
    {fault : UnusableVariable} (hfirst : IsFirstUnusable rules environment fault)
    (hnodup : (rules.map VariableRule.name).Nodup) {rule : VariableRule} (hmem : rule ∈ rules)
    (hname : fault.name = rule.name) : rule.Breaks environment fault.text := by
  obtain ⟨before, found, after, rfl, hfound, hbreaks, -⟩ := hfirst
  have hsame := List.inj_on_of_nodup_map hnodup (by simp) hmem (hfound.symm.trans hname)
  exact hsame ▸ hbreaks

end Recollection
