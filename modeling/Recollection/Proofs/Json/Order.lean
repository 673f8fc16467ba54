import Mathlib.Data.List.Forall2
import Mathlib.Data.List.Perm.Basic
import Mathlib.Data.String.Basic
import Recollection.Json.Value
import Recollection.Proofs.Number.Shortest
/-!
# Documents up to the order of members

Two documents match if they are built alike and their numbers are related; they are alike if they
match after the members of objects have been brought into another order, on every level. The normal
form puts members in the order of their keys, and in a document no object has two members with one
key, so documents are alike exactly when their normal forms match.
-/

set_option autoImplicit false

namespace Recollection.Json

/-! ## Documents with unique keys -/

mutual

/-- Binary64 numbers are finite, and no object has two members with one key. -/
def WellFormed : Json → Prop
  | .null | .bool _ | .integer _ | .string _ => True
  | .double value => value.isFinite = true
  | .array items => WellFormedItems items
  | .object members => (members.map Prod.fst).Nodup ∧ WellFormedMembers members

/-- Every item is well formed. -/
def WellFormedItems : List Json → Prop
  | [] => True
  | item :: rest => item.WellFormed ∧ WellFormedItems rest

/-- The value of every member is well formed. -/
def WellFormedMembers : List (String × Json) → Prop
  | [] => True
  | (_, value) :: rest => value.WellFormed ∧ WellFormedMembers rest

end

theorem wellFormedMembers_iff {members : List (String × Json)} :
    WellFormedMembers members ↔ ∀ member ∈ members, member.2.WellFormed := by
  induction members with
  | nil => simp [WellFormedMembers]
  | cons member rest ih => simp [WellFormedMembers, ih]

/-! ## Likeness -/

section Relations

variable (R : Binary64 → Binary64 → Prop)

mutual

/-- Two documents are written alike, except that binary64 numbers are related by `R`. -/
def Matches : Json → Json → Prop
  | .null, .null => True
  | .bool a, .bool b => a = b
  | .integer a, .integer b => a = b
  | .double a, .double b => R a b
  | .string a, .string b => a = b
  | .array a, .array b => ItemsMatch a b
  | .object a, .object b => MembersMatch a b
  | _, _ => False

/-- Two lists match item by item. -/
def ItemsMatch : List Json → List Json → Prop
  | [], [] => True
  | a :: as, b :: bs => Matches a b ∧ ItemsMatch as bs
  | _, _ => False

/-- Two lists of members match member by member. -/
def MembersMatch : List (String × Json) → List (String × Json) → Prop
  | [], [] => True
  | (i, a) :: as, (j, b) :: bs => i = j ∧ Matches a b ∧ MembersMatch as bs
  | _, _ => False

end

mutual

/-- Two documents are the same up to the order of the members of objects, on every level, and up to
`R` in binary64 numbers. -/
def Alike : Json → Json → Prop
  | .null, .null => True
  | .bool a, .bool b => a = b
  | .integer a, .integer b => a = b
  | .double a, .double b => R a b
  | .string a, .string b => a = b
  | .array a, .array b => ItemsAlike a b
  | .object a, .object b => ∃ reordered, reordered.Perm b ∧ MembersAlike a reordered
  | _, _ => False

/-- Two lists are alike item by item. -/
def ItemsAlike : List Json → List Json → Prop
  | [], [] => True
  | a :: as, b :: bs => Alike a b ∧ ItemsAlike as bs
  | _, _ => False

/-- Two lists of members are alike member by member. -/
def MembersAlike : List (String × Json) → List (String × Json) → Prop
  | [], [] => True
  | (i, a) :: as, (j, b) :: bs => i = j ∧ Alike a b ∧ MembersAlike as bs
  | _, _ => False

end

end Relations

variable {R : Binary64 → Binary64 → Prop}

theorem membersMatch_iff_forall₂ {a b : List (String × Json)} :
    MembersMatch R a b ↔ List.Forall₂ (fun m n => m.1 = n.1 ∧ Matches R m.2 n.2) a b := by
  induction a generalizing b with
  | nil => cases b <;> simp [MembersMatch]
  | cons m as ih => cases b <;> simp [MembersMatch, ih, and_assoc]

mutual

/-- Documents that match up to equality of numbers are equal. -/
theorem matches_eq_iff : ∀ {a b : Json}, Matches (· = ·) a b ↔ a = b
  | .null, b => by cases b <;> simp [Matches]
  | .bool _, b => by cases b <;> simp [Matches]
  | .integer _, b => by cases b <;> simp [Matches]
  | .double _, b => by cases b <;> simp [Matches]
  | .string _, b => by cases b <;> simp [Matches]
  | .array items, b => by cases b <;> simp [Matches, itemsMatch_eq_iff (a := items)]
  | .object members, b => by cases b <;> simp [Matches, membersMatch_eq_iff (a := members)]

theorem itemsMatch_eq_iff : ∀ {a b : List Json}, ItemsMatch (· = ·) a b ↔ a = b
  | [], b => by cases b <;> simp [ItemsMatch]
  | item :: rest, b => by
    cases b <;> simp [ItemsMatch, matches_eq_iff (a := item), itemsMatch_eq_iff (a := rest)]

theorem membersMatch_eq_iff : ∀ {a b : List (String × Json)}, MembersMatch (· = ·) a b ↔ a = b
  | [], b => by cases b <;> simp [MembersMatch]
  | (key, value) :: rest, b => by
    rcases b with - | ⟨⟨other, present⟩, b⟩
    · simp [MembersMatch]
    · simp [MembersMatch, matches_eq_iff (a := value), membersMatch_eq_iff (a := rest), and_assoc]

end

mutual

/-- Equality of values compares binary64 numbers as numbers. -/
theorem agrees_iff_matches : ∀ {a b : Json},
    a.agrees b = true ↔ Matches (fun x y => x.same y = true) a b
  | .null, b => by cases b <;> simp [agrees, Matches]
  | .bool _, b => by cases b <;> simp [agrees, Matches]
  | .integer _, b => by cases b <;> simp [agrees, Matches]
  | .double _, b => by cases b <;> simp [agrees, Matches]
  | .string _, b => by cases b <;> simp [agrees, Matches]
  | .array items, b => by cases b <;> simp [agrees, Matches, itemsAgree_iff_match (a := items)]
  | .object members, b => by
    cases b <;> simp [agrees, Matches, membersAgree_iff_match (a := members)]

theorem itemsAgree_iff_match : ∀ {a b : List Json},
    itemsAgree a b = true ↔ ItemsMatch (fun x y => x.same y = true) a b
  | [], b => by cases b <;> simp [itemsAgree, ItemsMatch]
  | item :: rest, b => by
    cases b <;> simp [itemsAgree, ItemsMatch, agrees_iff_matches (a := item),
      itemsAgree_iff_match (a := rest)]

theorem membersAgree_iff_match : ∀ {a b : List (String × Json)},
    membersAgree a b = true ↔ MembersMatch (fun x y => x.same y = true) a b
  | [], b => by cases b <;> simp [membersAgree, MembersMatch]
  | (key, value) :: rest, b => by
    rcases b with - | ⟨⟨other, present⟩, b⟩
    · simp [membersAgree, MembersMatch]
    · simp [membersAgree, MembersMatch, agrees_iff_matches (a := value),
        membersAgree_iff_match (a := rest), and_assoc]

end

mutual

/-- Documents that match in two ways match in every way that follows from the two. -/
theorem Matches.and {S T : Binary64 → Binary64 → Prop} (hboth : ∀ x y, R x y → S x y → T x y) :
    ∀ {a b : Json}, Matches R a b → Matches S a b → Matches T a b
  | .null, b, ha, _ => by cases b <;> exact ha
  | .bool _, b, ha, _ => by cases b <;> exact ha
  | .integer _, b, ha, _ => by cases b <;> exact ha
  | .double x, b, ha, hb => by cases b <;> first | exact hboth _ _ ha hb | exact ha
  | .string _, b, ha, _ => by cases b <;> exact ha
  | .array items, b, ha, hb => by
    cases b <;> first | exact ItemsMatch.and hboth ha hb | exact ha
  | .object members, b, ha, hb => by
    cases b <;> first | exact MembersMatch.and hboth ha hb | exact ha

theorem ItemsMatch.and {S T : Binary64 → Binary64 → Prop} (hboth : ∀ x y, R x y → S x y → T x y) :
    ∀ {a b : List Json}, ItemsMatch R a b → ItemsMatch S a b → ItemsMatch T a b
  | [], b, ha, _ => by cases b <;> exact ha
  | _ :: _, [], ha, _ => ha
  | _ :: _, _ :: _, ha, hb => ⟨Matches.and hboth ha.1 hb.1, ItemsMatch.and hboth ha.2 hb.2⟩

theorem MembersMatch.and {S T : Binary64 → Binary64 → Prop}
    (hboth : ∀ x y, R x y → S x y → T x y) :
    ∀ {a b : List (String × Json)}, MembersMatch R a b → MembersMatch S a b → MembersMatch T a b
  | [], b, ha, _ => by cases b <;> exact ha
  | _ :: _, [], ha, _ => ha
  | _ :: _, _ :: _, ha, hb =>
    ⟨ha.1, Matches.and hboth ha.2.1 hb.2.1, MembersMatch.and hboth ha.2.2 hb.2.2⟩

end

/-- Binary64 numbers that correspond have one sign. -/
def SameSigns (a b : Json) : Prop :=
  Matches (fun x y => x.isNegative = y.isNegative) a.normal b.normal

/-- One value is written in one way, except for the signs of zeros. -/
theorem normal_eq_of_sameValue {a b : Json} (hvalue : a.sameValue b = true)
    (hsigns : a.SameSigns b) : a.normal = b.normal :=
  matches_eq_iff.1 ((agrees_iff_matches.1 hvalue).and (fun _ _ => Binary64.eq_of_same) hsigns)

/-! ## Members in the order of their keys -/

/-- Members are ordered by their keys, no two of which are equal. -/
def Sorted (members : List (String × Json)) : Prop :=
  members.Pairwise fun m n => m.1 < n.1

theorem insertMember_perm {key : String} {value : Json} {members : List (String × Json)}
    (hfresh : key ∉ members.map Prod.fst) :
    (insertMember key value members).Perm ((key, value) :: members) := by
  induction members with
  | nil => rfl
  | cons member rest ih =>
    obtain ⟨other, present⟩ := member
    rw [List.map_cons, List.mem_cons, not_or] at hfresh
    rw [insertMember]
    split
    · rfl
    · rw [if_neg hfresh.1]
      exact ((ih hfresh.2).cons _).trans (List.Perm.swap _ _ _)

theorem keys_insertMember {key : String} {value : Json} {members : List (String × Json)}
    {other : String} (hmem : other ∈ (insertMember key value members).map Prod.fst) :
    other = key ∨ other ∈ members.map Prod.fst := by
  induction members with
  | nil => simpa [insertMember] using hmem
  | cons member rest ih =>
    obtain ⟨head, present⟩ := member
    rw [insertMember] at hmem
    split at hmem
    · simpa using hmem
    · split at hmem
      · rcases List.mem_cons.1 hmem with rfl | hrest
        · exact .inl rfl
        · exact .inr (List.mem_cons_of_mem _ hrest)
      · rcases List.mem_cons.1 hmem with rfl | hrest
        · exact .inr List.mem_cons_self
        · exact (ih hrest).imp_right (List.mem_cons_of_mem _)

theorem insertMember_sorted {key : String} {value : Json} {members : List (String × Json)}
    (hsorted : Sorted members) : Sorted (insertMember key value members) := by
  induction members with
  | nil => exact List.pairwise_singleton _ _
  | cons member rest ih =>
    obtain ⟨other, present⟩ := member
    obtain ⟨hfirst, hrest⟩ := List.pairwise_cons.1 hsorted
    rw [insertMember]
    split
    case isTrue hless =>
      refine List.pairwise_cons.2 ⟨?_, hsorted⟩
      rintro member hmem
      rcases List.mem_cons.1 hmem with rfl | hbehind
      · exact hless
      · exact lt_trans hless (hfirst member hbehind)
    case isFalse hnotLess =>
      split
      case isTrue hsame =>
        subst hsame
        exact List.pairwise_cons.2 ⟨hfirst, hrest⟩
      case isFalse hother =>
        refine List.pairwise_cons.2 ⟨?_, ih hrest⟩
        intro member hmem
        rcases keys_insertMember (List.mem_map_of_mem hmem) with hkey | hold
        · rw [hkey]
          exact lt_of_le_of_ne (not_lt.1 hnotLess) (Ne.symm hother)
        · obtain ⟨original, hbehind, hkey⟩ := List.mem_map.1 hold
          rw [← hkey]
          exact hfirst original hbehind

theorem sortMembers_sorted (members : List (String × Json)) : Sorted (sortMembers members) := by
  have hfold : ∀ sorted, Sorted sorted →
      Sorted (members.foldl (fun sorted member => insertMember member.1 member.2 sorted)
        sorted) := by
    induction members with
    | nil => exact fun _ hsorted => hsorted
    | cons member rest ih => exact fun _ hsorted => ih _ (insertMember_sorted hsorted)
  exact hfold [] List.Pairwise.nil

theorem sortMembers_perm {members : List (String × Json)}
    (hunique : (members.map Prod.fst).Nodup) : (sortMembers members).Perm members := by
  have hfold : ∀ sorted, ((members ++ sorted).map Prod.fst).Nodup →
      (members.foldl (fun sorted member => insertMember member.1 member.2 sorted) sorted).Perm
        (members ++ sorted) := by
    induction members with
    | nil => exact fun _ _ => List.Perm.refl _
    | cons member rest ih =>
      intro sorted hall
      obtain ⟨key, value⟩ := member
      have hfresh : key ∉ sorted.map Prod.fst := by
        intro hmem
        refine (List.nodup_cons.1 hall).1 ?_
        exact List.map_append ▸ List.mem_append_right _ hmem
      have hinserted : (insertMember key value sorted).Perm ((key, value) :: sorted) :=
        insertMember_perm hfresh
      have hmoved : (rest ++ insertMember key value sorted).Perm
          ((key, value) :: (rest ++ sorted)) :=
        (hinserted.append_left rest).trans List.perm_middle
      refine (ih (List.nodup_cons.1 hunique).2 _ ?_).trans hmoved
      exact (hmoved.map Prod.fst).nodup_iff.2 hall
  have hall := hfold []
  rw [List.append_nil] at hall
  exact hall hunique

/-- The order of the members does not matter to their order by keys. -/
theorem sortMembers_eq_of_perm {a b : List (String × Json)} (hunique : (a.map Prod.fst).Nodup)
    (hperm : a.Perm b) : sortMembers a = sortMembers b := by
  have hunique' : (b.map Prod.fst).Nodup := (hperm.map Prod.fst).nodup_iff.1 hunique
  have hsame : (sortMembers a).Perm (sortMembers b) :=
    (sortMembers_perm hunique).trans (hperm.trans (sortMembers_perm hunique').symm)
  refine hsame.eq_of_pairwise ?_ (sortMembers_sorted a) (sortMembers_sorted b)
  intro m n _ _ hless hmore
  exact absurd (lt_trans hless hmore) (lt_irrefl _)

/-! ## Normal forms of documents that are alike -/

theorem insertMember_match {key : String} {v w : Json} (hvalue : Matches R v w)
    {a b : List (String × Json)} (hmatch : MembersMatch R a b) :
    MembersMatch R (insertMember key v a) (insertMember key w b) := by
  induction a generalizing b with
  | nil =>
    cases b with
    | nil => exact ⟨rfl, hvalue, trivial⟩
    | cons member b => simp [MembersMatch] at hmatch
  | cons member a ih =>
    obtain ⟨other, present⟩ := member
    rcases b with - | ⟨⟨other', present'⟩, b⟩
    · simp [MembersMatch] at hmatch
    · obtain ⟨rfl, hpresent, hrest⟩ := hmatch
      rw [insertMember, insertMember]
      split
      · exact ⟨rfl, hvalue, rfl, hpresent, hrest⟩
      · split
        · exact ⟨rfl, hvalue, hrest⟩
        · exact ⟨rfl, hpresent, ih hrest⟩

theorem sortMembers_match {a b : List (String × Json)} (hmatch : MembersMatch R a b) :
    MembersMatch R (sortMembers a) (sortMembers b) := by
  have hfold : ∀ sorted sorted', MembersMatch R sorted sorted' →
      MembersMatch R
        (a.foldl (fun sorted member => insertMember member.1 member.2 sorted) sorted)
        (b.foldl (fun sorted member => insertMember member.1 member.2 sorted) sorted') := by
    induction a generalizing b with
    | nil =>
      cases b with
      | nil => exact fun _ _ hsorted => hsorted
      | cons member b => simp [MembersMatch] at hmatch
    | cons member a ih =>
      obtain ⟨key, value⟩ := member
      rcases b with - | ⟨⟨key', value'⟩, b⟩
      · simp [MembersMatch] at hmatch
      · obtain ⟨rfl, hvalue, hrest⟩ := hmatch
        exact fun _ _ hsorted => ih hrest _ _ (insertMember_match hvalue hsorted)
  exact hfold [] [] trivial

theorem keys_normalMembers (members : List (String × Json)) :
    (normalMembers members).map Prod.fst = members.map Prod.fst := by
  induction members with
  | nil => rfl
  | cons member rest ih => rw [normalMembers, List.map_cons, List.map_cons, ih]

theorem normalMembers_eq_map (members : List (String × Json)) :
    normalMembers members = members.map fun (key, value) => (key, value.normal) := by
  induction members with
  | nil => rfl
  | cons member rest ih => rw [normalMembers, List.map_cons, ih]

/-- Members whose normal forms are a reordering of others have a reordering themselves. -/
theorem exists_perm_of_normalMembers {members sorted : List (String × Json)}
    (hperm : sorted.Perm (normalMembers members)) :
    ∃ reordered, reordered.Perm members ∧ normalMembers reordered = sorted := by
  rw [normalMembers_eq_map] at hperm
  have himage : List.Forall₂ (fun normal member => normal = (member.1, member.2.normal))
      (members.map fun (key, value) => (key, value.normal)) members :=
    List.forall₂_map_left_iff.2 (List.forall₂_same.2 fun _ _ => rfl)
  obtain ⟨reordered, hsorted, hreordered⟩ := List.perm_comp_forall₂ hperm himage
  refine ⟨reordered, hreordered, ?_⟩
  rw [normalMembers_eq_map]
  exact (List.forall₂_eq_eq_eq ▸ List.forall₂_map_right_iff.2 hsorted).symm

/-- Members with unique keys can be brought into an order in which they match exactly when they
match in the order of their keys. -/
theorem sortMembers_match_iff {a b : List (String × Json)} (ha : (a.map Prod.fst).Nodup)
    (hb : (b.map Prod.fst).Nodup) :
    MembersMatch R (sortMembers a) (sortMembers b) ↔
      ∃ reordered, reordered.Perm b ∧ MembersMatch R a reordered := by
  constructor
  · intro hmatch
    obtain ⟨reordered, hmatch', hperm⟩ :=
      List.perm_comp_forall₂ (sortMembers_perm ha).symm (membersMatch_iff_forall₂.1 hmatch)
    exact ⟨reordered, hperm.trans (sortMembers_perm hb), membersMatch_iff_forall₂.2 hmatch'⟩
  · rintro ⟨reordered, hperm, hmatch⟩
    rw [← sortMembers_eq_of_perm ((hperm.map Prod.fst).nodup_iff.2 hb) hperm]
    exact sortMembers_match hmatch

mutual

/-- Documents are alike exactly when their normal forms match. -/
theorem alike_iff_normal_matches : ∀ {a b : Json}, a.WellFormed → b.WellFormed →
    (Alike R a b ↔ Matches R a.normal b.normal)
  | .null, b, _, _ => by cases b <;> simp [Alike, normal, Matches]
  | .bool _, b, _, _ => by cases b <;> simp [Alike, normal, Matches]
  | .integer _, b, _, _ => by cases b <;> simp [Alike, normal, Matches]
  | .double _, b, _, _ => by cases b <;> simp [Alike, normal, Matches]
  | .string _, b, _, _ => by cases b <;> simp [Alike, normal, Matches]
  | .array items, b, ha, hb => by
    cases b with
    | array others =>
      simp only [Alike, normal, Matches]
      exact itemsAlike_iff_normal_match ha hb
    | _ => simp [Alike, normal, Matches]
  | .object members, b, ha, hb => by
    cases b with
    | object others =>
      simp only [WellFormed] at ha hb
      simp only [Alike, normal, Matches]
      rw [sortMembers_match_iff (by rw [keys_normalMembers]; exact ha.1)
        (by rw [keys_normalMembers]; exact hb.1)]
      constructor
      · rintro ⟨reordered, hperm, halike⟩
        have hwell : WellFormedMembers reordered :=
          wellFormedMembers_iff.2 fun member hmem =>
            wellFormedMembers_iff.1 hb.2 member (hperm.mem_iff.1 hmem)
        refine ⟨normalMembers reordered, ?_, (membersAlike_iff_normal_match ha.2 hwell).1 halike⟩
        rw [normalMembers_eq_map, normalMembers_eq_map]
        exact hperm.map _
      · rintro ⟨sorted, hperm, hmatch⟩
        obtain ⟨reordered, hreordered, rfl⟩ := exists_perm_of_normalMembers hperm
        have hwell : WellFormedMembers reordered :=
          wellFormedMembers_iff.2 fun member hmem =>
            wellFormedMembers_iff.1 hb.2 member (hreordered.mem_iff.1 hmem)
        exact ⟨reordered, hreordered, (membersAlike_iff_normal_match ha.2 hwell).2 hmatch⟩
    | _ => simp [Alike, normal, Matches]

theorem itemsAlike_iff_normal_match : ∀ {a b : List Json}, WellFormedItems a → WellFormedItems b →
    (ItemsAlike R a b ↔ ItemsMatch R (normalItems a) (normalItems b))
  | [], b, _, _ => by cases b <;> simp [ItemsAlike, normalItems, ItemsMatch]
  | item :: rest, [], _, _ => by simp [ItemsAlike, normalItems, ItemsMatch]
  | item :: rest, other :: others, ha, hb => by
    simp only [ItemsAlike, normalItems, ItemsMatch]
    rw [alike_iff_normal_matches ha.1 hb.1, itemsAlike_iff_normal_match ha.2 hb.2]

theorem membersAlike_iff_normal_match : ∀ {a b : List (String × Json)}, WellFormedMembers a →
    WellFormedMembers b →
    (MembersAlike R a b ↔ MembersMatch R (normalMembers a) (normalMembers b))
  | [], b, _, _ => by cases b <;> simp [MembersAlike, normalMembers, MembersMatch]
  | member :: rest, [], _, _ => by simp [MembersAlike, normalMembers, MembersMatch]
  | (key, value) :: rest, (other, present) :: others, ha, hb => by
    simp only [MembersAlike, normalMembers, MembersMatch]
    rw [alike_iff_normal_matches ha.1 hb.1, membersAlike_iff_normal_match ha.2 hb.2]

end

/-- Documents with one normal form are the same up to the order of members. -/
theorem normal_eq_iff_alike {a b : Json} (ha : a.WellFormed) (hb : b.WellFormed) :
    a.normal = b.normal ↔ Alike (· = ·) a b := by
  rw [alike_iff_normal_matches ha hb, matches_eq_iff]

/-- Documents are the same value if they are alike with numbers compared as numbers. -/
theorem sameValue_iff_alike {a b : Json} (ha : a.WellFormed) (hb : b.WellFormed) :
    a.sameValue b = true ↔ Alike (fun x y => x.same y = true) a b := by
  rw [alike_iff_normal_matches ha hb, sameValue, agrees_iff_matches]

mutual

/-- The normal form of a document is one. -/
theorem WellFormed.normal : ∀ {a : Json}, a.WellFormed → a.normal.WellFormed
  | .null, h | .bool _, h | .integer _, h | .double _, h | .string _, h => h
  | .array _, h => WellFormed.normalItems h
  | .object members, h => by
    simp only [WellFormed] at h
    have hunique : ((Json.normalMembers members).map Prod.fst).Nodup := by
      rw [keys_normalMembers]
      exact h.1
    have hperm := sortMembers_perm hunique
    simp only [Json.normal, WellFormed]
    refine ⟨(hperm.map Prod.fst).nodup_iff.2 hunique, wellFormedMembers_iff.2 ?_⟩
    intro member hmem
    exact wellFormedMembers_iff.1 (WellFormed.normalMembers h.2) member (hperm.mem_iff.1 hmem)

theorem WellFormed.normalItems : ∀ {items : List Json}, WellFormedItems items →
    WellFormedItems (Json.normalItems items)
  | [], _ => trivial
  | _ :: _, h => ⟨WellFormed.normal h.1, WellFormed.normalItems h.2⟩

theorem WellFormed.normalMembers : ∀ {members : List (String × Json)}, WellFormedMembers members →
    WellFormedMembers (Json.normalMembers members)
  | [], _ => trivial
  | _ :: _, h => ⟨WellFormed.normal h.1, WellFormed.normalMembers h.2⟩

end

end Recollection.Json
