import Mathlib.Algebra.Group.Nat.Defs
import Mathlib.Data.List.Forall2
import Recollection.Random.Draw
/-!
# What random choices give

Whatever is left of the stream, a number that is drawn below a bound is below it, and some elements
that are chosen from a list are as many as were asked for and from the list. Nothing is said about
how likely any of them is.
-/

set_option autoImplicit false

namespace Recollection.Random

variable {α β : Type}

/-! ## Values of every stream -/

/-- A draw gives only values of a kind, from any stream. -/
def Draw.Gives (draw : Draw α) (kind : α → Prop) : Prop :=
  ∀ stream, kind (draw.run stream).1

namespace Draw.Gives

variable {draw : Draw α} {next : α → Draw β} {kind : α → Prop} {result : β → Prop}

theorem ofPure {value : α} (hvalue : kind value) : Draw.Gives (pure value) kind :=
  fun _ => hvalue

theorem any (draw : Draw α) : draw.Gives fun _ => True :=
  fun _ => trivial

theorem ofBind (hdraw : draw.Gives kind) (hnext : ∀ value, kind value → (next value).Gives result) :
    Draw.Gives (draw >>= next) result := by
  intro stream
  exact hnext _ (hdraw stream) (draw.run stream).2

/-- Drawing for the items of a list gives a list, item by item. -/
theorem ofMapM {items : List α} {draw : α → Draw β} {relation : α → β → Prop}
    (hdraw : ∀ item ∈ items, (draw item).Gives (relation item)) :
    Draw.Gives (items.mapM draw) (List.Forall₂ relation items) := by
  induction items with
  | nil => exact ofPure .nil
  | cons item rest ih =>
    rw [List.mapM_cons]
    refine ofBind (hdraw item List.mem_cons_self) fun value hvalue => ?_
    refine ofBind (ih fun other hother => hdraw other (List.mem_cons_of_mem _ hother))
      fun values hvalues => ?_
    exact ofPure (.cons hvalue hvalues)

end Draw.Gives

/-! ## Numbers -/

/-- A word scaled to a bound is below it. -/
theorem scaled?_lt {width bound word value : Nat} (hword : word < 2 ^ width)
    (hscaled : scaled? width bound word = some value) : value < bound := by
  simp only [scaled?, Option.ite_none_right_eq_some, Option.some.injEq] at hscaled
  obtain ⟨hlow, rfl⟩ := hscaled
  have hbound : 0 < bound := Nat.pos_of_mul_pos_right (Nat.zero_lt_of_lt hlow)
  refine Nat.div_lt_of_lt_mul ?_
  exact Nat.mul_lt_mul_of_pos_right hword hbound

theorem scaledWithin_gives {width bound : Nat} (hbound : 0 < bound) {word : Draw Nat}
    (hword : word.Gives (· < 2 ^ width)) (attempts : Nat) :
    (scaledWithin width bound word attempts).Gives (· < bound) := by
  induction attempts with
  | zero => exact .ofPure hbound
  | succ attempts ih =>
    rw [scaledWithin]
    refine .ofBind hword fun drawn hdrawn => ?_
    cases hscaled : scaled? width bound drawn with
    | some value => exact .ofPure (scaled?_lt hdrawn hscaled)
    | none => exact ih

theorem below32_gives {bound : Nat} (hbound : 0 < bound) : (below32 bound).Gives (· < bound) :=
  scaledWithin_gives hbound (.ofBind (.any word32) fun word _ => .ofPure word.toNat_lt) attempts

theorem between64_gives {low high : Nat} (hle : low ≤ high) :
    (between64 low high).Gives fun value => low ≤ value ∧ value ≤ high := by
  have hword : Draw.Gives (do return (← word64).toNat) (· < 2 ^ 64) :=
    .ofBind (.any word64) fun word _ => .ofPure word.toNat_lt
  refine .ofBind (scaledWithin_gives (Nat.succ_pos (high - low)) hword attempts)
    fun distance hdistance => .ofPure ?_
  omega

/-! ## Choices from a list -/

/-- Some indices of which a choice has drawn a number, all of them below a length. -/
structure Indices (length count : Nat) (indices : List Nat) : Prop where
  /-- As many as were asked for. -/
  count : indices.length = count
  /-- Below the length. -/
  below : ∀ index ∈ indices, index < length

namespace Indices

variable {length count : Nat} {chosen : List Nat}

theorem nil (length : Nat) : Indices length 0 [] where
  count := rfl
  below := by simp

/-- One more index is drawn from a range that is longer by one. -/
theorem chooseNext (hchosen : Indices length count chosen) :
    (chooseNext chosen length).Gives (Indices (length + 1) (count + 1)) := by
  have hold : ∀ index ∈ chosen, index < length + 1 := fun index hindex =>
    Nat.lt_succ_of_lt (hchosen.below index hindex)
  unfold Random.chooseNext
  refine .ofBind (below32_gives (Nat.succ_pos length)) fun drawn hdrawn => ?_
  cases hplace : chosen.idxOf? drawn with
  | none =>
    refine .ofPure ⟨by simp [hchosen.count], ?_⟩
    rw [List.forall_mem_append]
    exact ⟨hold, by simpa using hdrawn⟩
  | some place =>
    have hle : place ≤ chosen.length := by
      have := (List.idxOf?_eq_some_iff.1 hplace).1
      omega
    refine .ofPure ⟨by rw [List.length_insertIdx_of_le_length hle, hchosen.count], ?_⟩
    intro index hindex
    rcases (List.mem_insertIdx hle).1 hindex with rfl | hindex
    · exact Nat.lt_succ_self _
    · exact hold index hindex

theorem foldlM_chooseNext (hchosen : Indices length count chosen) (more : Nat) :
    Draw.Gives ((List.range' length more).foldlM Random.chooseNext chosen)
      (Indices (length + more) (count + more)) := by
  induction more generalizing length count chosen with
  | zero => exact .ofPure hchosen
  | succ more ih =>
    rw [List.range'_succ, List.foldlM_cons]
    refine .ofBind hchosen.chooseNext fun next hnext => ?_
    have hrest := ih hnext
    rwa [Nat.add_right_comm length, Nat.add_right_comm count] at hrest

end Indices

theorem chooseIndices_gives {length count : Nat} (hcount : count ≤ length) :
    (chooseIndices length count).Gives (Indices length count) := by
  have hchosen := (Indices.nil (length - count)).foldlM_chooseNext count
  rwa [Nat.sub_add_cancel hcount, Nat.zero_add] at hchosen

/-- A choice has as many elements as were asked for, if there are so many, all from the list. -/
theorem choose_gives (items : List α) (count : Nat) :
    (choose items count).Gives fun chosen =>
      chosen.length = min count items.length ∧ ∀ item ∈ chosen, item ∈ items := by
  refine .ofBind (chooseIndices_gives (Nat.min_le_right count items.length))
    fun indices hindices => .ofPure ⟨?_, ?_⟩
  · rw [List.length_filterMap_eq_countP, List.countP_eq_length.2, hindices.count]
    intro index hindex
    simp [hindices.below index hindex]
  · intro item hitem
    obtain ⟨index, -, hitem⟩ := List.mem_filterMap.1 hitem
    exact List.mem_of_getElem? hitem

end Recollection.Random
