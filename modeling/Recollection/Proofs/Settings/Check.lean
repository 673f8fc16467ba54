import Recollection.Proofs.Boundary.Invariants
import Recollection.Settings.Basic
/-!
# What settings require

The check of settings goes through them in a fixed order and reports the first that cannot be worked
with. Here its requirements are read as one proposition.
-/

set_option autoImplicit false

namespace Recollection

section Requirement

variable {ε : Type} {holds : Prop} [Decidable holds] {fault : ε}

/-- A check that ends with what must hold. -/
theorem required_eq_ok_iff :
    (if holds then pure PUnit.unit else Except.error fault) = Except.ok PUnit.unit ↔ holds := by
  split
  · rename_i hholds
    simp only [hholds, iff_true]
    rfl
  · rename_i hfails
    simp only [reduceCtorEq, hfails]

/-- A check that goes on after what must hold. -/
theorem requires_eq_ok_iff {rest : Except ε Unit} :
    (if holds then rest else (do Except.error fault; rest)) = .ok () ↔
      holds ∧ rest = .ok () := by
  split
  · rename_i hholds
    simp only [hholds, true_and]
  · rename_i hfails
    simp [hfails, bind, Except.bind]

end Requirement

namespace Settings

theorem isPageLimit_eq_true_iff (limit : UInt32) :
    isPageLimit limit = true ↔ 1 ≤ limit ∧ limit ≤ Retrieval.maxLimit := by
  rw [isPageLimit, Bool.and_eq_true, decide_eq_true_iff, decide_eq_true_iff]

/-- Settings pass their check if the service has a name, the log a level, and a page an allowed
size. -/
theorem validate_eq_ok_iff (settings : Settings) :
    settings.validate = .ok () ↔
      Text.isBlankText settings.serviceName = false ∧ settings.log.level ∈ LogSettings.levels ∧
        isPageLimit settings.maxLimit = true := by
  refine guarded_eq_ok_iff.trans ?_
  rw [Bool.not_eq_true]
  refine and_congr_right fun _ => requires_eq_ok_iff.trans ?_
  rw [List.contains_iff_mem]
  exact and_congr_right fun _ => required_eq_ok_iff

end Settings

end Recollection
