import Mathlib.Data.List.Nodup
import Recollection.Benchmark.Fixture
import Recollection.Boundary.Policy
import Recollection.Identity.Scope
/-!
# Values that have names

Layers, decisions, levels and operations are written as their names. Each of these types is a closed
list of values with different names, so a name is read as the value that has it.
-/

set_option autoImplicit false

namespace Recollection

/-- Some values are all that a type has, and no two of them have one name. -/
structure IsNaming {α : Type} (name : α → String) (values : List α) : Prop where
  /-- Every value is listed. -/
  complete : ∀ value, value ∈ values
  /-- The names are different. -/
  nodup : (values.map name).Nodup

namespace IsNaming

variable {α : Type} {name : α → String} {values : List α}

theorem injective (hnaming : IsNaming name values) : Function.Injective name := by
  intro first second hsame
  exact List.inj_on_of_nodup_map hnaming.nodup (hnaming.complete first) (hnaming.complete second)
    hsame

/-- What is found by a name is the value that has it. -/
theorem find?_eq_some_iff (hnaming : IsNaming name values) (text : String) (value : α) :
    values.find? (fun value => name value == text) = some value ↔ name value = text := by
  constructor
  · intro hfound
    simpa using List.find?_some hfound
  · rintro rfl
    cases hfound : values.find? fun other => name other == name value with
    | none =>
      have hother := List.find?_eq_none.1 hfound value (hnaming.complete value)
      simp at hother
    | some other =>
      have hsame : name other = name value := by simpa using List.find?_some hfound
      rw [hnaming.injective hsame]

theorem read_write_named (hnaming : IsNaming name values) (value : α) :
    (Leaf.named name values).read ((Leaf.named name values).write value) = some value :=
  (hnaming.find?_eq_some_iff (name value) value).2 rfl

end IsNaming

theorem MemoryLayer.isNaming : IsNaming MemoryLayer.name MemoryLayer.all where
  complete layer := by cases layer <;> decide
  nodup := by decide

theorem Policy.Decision.isNaming : IsNaming Policy.Decision.name Policy.Decision.all where
  complete decision := by cases decision <;> decide
  nodup := by decide

theorem ScopeLevel.isNaming : IsNaming ScopeLevel.name ScopeLevel.all where
  complete level := by cases level <;> decide
  nodup := by decide

theorem Benchmark.Fixture.Operation.isNaming :
    IsNaming Benchmark.Fixture.Operation.name Benchmark.Fixture.Operation.all where
  complete operation := by cases operation <;> decide
  nodup := by decide

end Recollection
