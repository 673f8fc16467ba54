/-!
# Runs

A system takes steps: every step reports something and leaves a state. A run is any number of steps
from a state on, and comes down to the reports in their order and the last state.

What holds at the start and survives every step holds after every run (`Run.induction`), and every
report is the one of a step in the state that the steps before it left (`Run.split`).
-/

set_option autoImplicit false

namespace Recollection.Run

variable {μ ε σ : Type} (step : μ → σ → ε × σ)

/-- The reports of a run, in their order. -/
def reports : List μ → σ → List ε
  | [], _ => []
  | move :: rest, state => (step move state).1 :: reports rest (step move state).2

/-- The state that a run leaves. -/
def final : List μ → σ → σ
  | [], state => state
  | move :: rest, state => final rest (step move state).2

variable {step}

@[simp] theorem reports_nil (state : σ) : reports step [] state = [] :=
  rfl

@[simp] theorem final_nil (state : σ) : final step [] state = state :=
  rfl

theorem final_cons (move : μ) (rest : List μ) (state : σ) :
    final step (move :: rest) state = final step rest (step move state).2 :=
  rfl

theorem final_append (moves more : List μ) (state : σ) :
    final step (moves ++ more) state = final step more (final step moves state) := by
  induction moves generalizing state with
  | nil => rfl
  | cons move rest ih => exact ih _

theorem reports_append (moves more : List μ) (state : σ) :
    reports step (moves ++ more) state =
      reports step moves state ++ reports step more (final step moves state) := by
  induction moves generalizing state with
  | nil => rfl
  | cons move rest ih => exact congrArg _ (ih _)

theorem reports_concat (moves : List μ) (move : μ) (state : σ) :
    reports step (moves ++ [move]) state =
      reports step moves state ++ [(step move (final step moves state)).1] := by
  rw [reports_append]
  rfl

/-- What holds at the start and survives every step holds after every run. -/
theorem induction (holds : List ε → σ → Prop) {start : σ} (hstart : holds [] start)
    (hstep : ∀ history state move, holds history state →
      holds (history ++ [(step move state).1]) (step move state).2)
    (moves : List μ) : holds (reports step moves start) (final step moves start) := by
  have hrun : ∀ history state, holds history state →
      holds (history ++ reports step moves state) (final step moves state) := by
    induction moves with
    | nil => simp
    | cons move rest ih =>
      intro history state hholds
      have hrest := ih _ _ (hstep history state move hholds)
      simpa [reports, final] using hrest
  exact hrun [] start hstart

/-- A report is the one of a step in the state that the steps before it left. -/
theorem split {moves : List μ} {start : σ} {before after : List ε} {report : ε}
    (hsplit : reports step moves start = before ++ report :: after) :
    ∃ earlier move later, moves = earlier ++ move :: later ∧
      before = reports step earlier start ∧
      report = (step move (final step earlier start)).1 ∧
      after = reports step later (step move (final step earlier start)).2 := by
  induction moves generalizing start before with
  | nil => simp at hsplit
  | cons move rest ih =>
    cases before with
    | nil =>
      obtain ⟨hreport, hafter⟩ := List.cons.inj hsplit
      exact ⟨[], move, rest, rfl, rfl, hreport.symm, hafter.symm⟩
    | cons first others =>
      obtain ⟨hfirst, hrest⟩ := List.cons.inj hsplit
      obtain ⟨earlier, next, later, rfl, rfl, hreport, hafter⟩ := ih hrest
      exact ⟨move :: earlier, next, later, rfl, by rw [reports, hfirst], hreport, hafter⟩

theorem length_reports (moves : List μ) (state : σ) :
    (reports step moves state).length = moves.length := by
  induction moves generalizing state with
  | nil => rfl
  | cons move rest ih => exact congrArg Nat.succ (ih _)

/-- Where steps are those of another system, with moves and reports written otherwise, so are
runs. -/
theorem map_reports {ν δ : Type} {inner : ν → σ → δ × σ} {write : ν → μ} {read : δ → ε}
    (hstep : ∀ move state,
      step (write move) state = (read (inner move state).1, (inner move state).2))
    (moves : List ν) (state : σ) :
    reports step (moves.map write) state = (reports inner moves state).map read ∧
      final step (moves.map write) state = final inner moves state := by
  induction moves generalizing state with
  | nil => exact ⟨rfl, rfl⟩
  | cons move rest ih =>
    obtain ⟨hreports, hfinal⟩ := ih (inner move state).2
    rw [List.map_cons, reports, final, hstep, hreports, hfinal]
    exact ⟨rfl, rfl⟩

/-! ## Runs without some of their moves -/

section Without

variable {related : σ → σ → Prop} {dropped : μ → Bool} {seen : ε → Bool}

/-- Some moves of a run can be dropped unseen, if each of them shows nothing and keeps related what
is related, and every other move shows the same in related states and leaves them related. -/
theorem filter_reports_eq
    (hdropped : ∀ move state other, dropped move = true → related state other →
      seen (step move state).1 = false ∧ related (step move state).2 other)
    (hkept : ∀ move state other, dropped move = false → related state other →
      [(step move state).1].filter seen = [(step move other).1].filter seen ∧
        related (step move state).2 (step move other).2)
    (moves : List μ) {state other : σ} (hrelated : related state other) :
    (reports step moves state).filter seen =
        (reports step (moves.filter fun move => !dropped move) other).filter seen ∧
      related (final step moves state)
        (final step (moves.filter fun move => !dropped move) other) := by
  induction moves generalizing state other with
  | nil => exact ⟨rfl, hrelated⟩
  | cons move rest ih =>
    cases hmove : dropped move with
    | true =>
      obtain ⟨hunseen, hafter⟩ := hdropped move state other hmove hrelated
      obtain ⟨hreports, hfinal⟩ := ih hafter
      rw [List.filter_cons_of_neg (by simp [hmove]), reports,
        List.filter_cons_of_neg (by simp [hunseen])]
      exact ⟨hreports, hfinal⟩
    | false =>
      obtain ⟨hsame, hafter⟩ := hkept move state other hmove hrelated
      obtain ⟨hreports, hfinal⟩ := ih hafter
      rw [List.filter_cons_of_pos (by simp [hmove]), reports, reports, ← List.singleton_append,
        List.filter_append, hsame, hreports, ← List.filter_append]
      exact ⟨rfl, hfinal⟩

end Without

end Recollection.Run
