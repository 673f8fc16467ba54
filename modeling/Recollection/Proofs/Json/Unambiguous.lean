import Recollection.Proofs.Json.Number
import Recollection.Proofs.Json.Order
/-!
# The compact form is unambiguous

The first character of a document tells its kind, and the rest of its text can be told from what
stands behind it: strings end at their closing quotation mark, lists and objects at their closing
bracket, numbers where something stands that does not go on with them. So no two documents have one
compact text, and no two values have one canonical text.
-/

set_option autoImplicit false

namespace Recollection.Json

/-! ## Numbers -/

/-- A number that is written can be told from what stands behind it. -/
theorem WrittenNumber.Proper.text_unique {number other : WrittenNumber} (hproper : number.Proper)
    (hother : other.Proper) {rest behind : List Char} (hrest : EndsNumber rest)
    (hbehind : EndsNumber behind) (htext : number.text ++ rest = other.text ++ behind) :
    number = other ∧ rest = behind := by
  have hreads := hproper.reads hrest
  rw [htext] at hreads
  exact hreads.unique (hother.reads hbehind)

theorem integerParts_injective {value other : Int}
    (hparts : integerParts value = integerParts other) : value = other := by
  have hsign : decide (value < 0) = decide (other < 0) := congrArg WrittenNumber.negative hparts
  have hdigits : value.natAbs = other.natAbs := by
    rw [← Numeral.digitsValue_toString value.natAbs, ← Numeral.digitsValue_toString other.natAbs]
    exact congrArg (Numeral.digitsValue ·.whole) hparts
  rw [decide_eq_decide] at hsign
  omega

/-- A numeral of a binary64 number is none of an integer. -/
theorem integerParts_not_isDouble (value : Int) (x : Binary64) :
    ¬ (integerParts value).IsDouble x := by
  intro hdouble
  rcases hdouble.marked with hfraction | hexponent
  · exact hfraction rfl
  · exact hexponent rfl

/-! ## Where a value starts and ends -/

theorem endsNumber_writeItems (items : List Json) (rest : List Char) :
    EndsNumber (writeItems items ++ rest) := by
  cases items <;> simp [writeItems, EndsNumber]

theorem endsNumber_writeMembers (members : List (String × Json)) (rest : List Char) :
    EndsNumber (writeMembers members ++ rest) := by
  rcases members with - | ⟨⟨key, value⟩, members⟩ <;> simp [writeMembers, EndsNumber]

/-- The kind of value that starts with a character. -/
def kindStartedBy (c : Char) : String :=
  if c = 'n' then "null"
  else if c = 't' ∨ c = 'f' then "boolean"
  else if c = '"' then "string"
  else if c = '[' then "sequence"
  else if c = '\x7b' then "mapping"
  else "number"

theorem WrittenNumber.Proper.starts {number : WrittenNumber} (hproper : number.Proper) :
    ∃ first rest, number.text = first :: rest ∧ (first = '-' ∨ first.isDigit = true) := by
  obtain ⟨first, digits, hwhole⟩ := List.exists_cons_of_ne_nil hproper.whole_ne_nil
  have hdigit := hproper.whole_digits first (hwhole ▸ List.mem_cons_self)
  rw [text, hwhole]
  cases number.negative with
  | true => exact ⟨'-', _, rfl, .inl rfl⟩
  | false => exact ⟨first, _, rfl, .inr hdigit⟩

theorem kindStartedBy_number {c : Char} (hnumber : c = '-' ∨ c.isDigit = true) :
    kindStartedBy c = "number" ∧ c ≠ ']' := by
  have hother : ∀ mark, mark ≠ '-' → mark.isDigit = false → c ≠ mark := by
    rintro mark hminus hdigit rfl
    rcases hnumber with rfl | hnumber
    · exact hminus rfl
    · rw [hdigit] at hnumber
      exact absurd hnumber (by decide)
  refine ⟨?_, hother ']' (by decide) (by decide)⟩
  unfold kindStartedBy
  rw [if_neg (hother _ (by decide) (by decide)), if_neg (not_or.2
    ⟨hother _ (by decide) (by decide), hother _ (by decide) (by decide)⟩),
    if_neg (hother _ (by decide) (by decide)), if_neg (hother _ (by decide) (by decide)),
    if_neg (hother _ (by decide) (by decide))]

/-- The first character of a document tells its kind, and no document starts like the end of a
list. -/
theorem write_starts {document : Json} (hwell : document.WellFormed) :
    ∃ first rest, document.write = first :: rest ∧ kindStartedBy first = document.kind ∧
      first ≠ ']' := by
  cases document with
  | null => exact ⟨'n', _, rfl, rfl, by decide⟩
  | bool value =>
    cases value with
    | true => exact ⟨'t', _, rfl, rfl, by decide⟩
    | false => exact ⟨'f', _, rfl, rfl, by decide⟩
  | integer value =>
    obtain ⟨first, rest, htext, hnumber⟩ := (integerParts_proper value).starts
    refine ⟨first, rest, ?_, kindStartedBy_number hnumber⟩
    rw [write, ← integerParts_text, htext]
  | double x =>
    have hfinite : x.isFinite = true := hwell
    obtain ⟨number, hdouble⟩ := exists_isDouble hfinite
    obtain ⟨first, rest, htext, hnumber⟩ := hdouble.proper.starts
    refine ⟨first, rest, ?_, kindStartedBy_number hnumber⟩
    rw [write, writeDouble, if_pos hfinite, ← hdouble.text_eq, htext]
  | string value => exact ⟨'"', _, rfl, rfl, by decide⟩
  | array items =>
    cases items with
    | nil => exact ⟨'[', _, rfl, rfl, by decide⟩
    | cons item rest => exact ⟨'[', _, rfl, rfl, by decide⟩
  | object members =>
    rcases members with - | ⟨⟨key, value⟩, rest⟩
    · exact ⟨'\x7b', _, rfl, rfl, by decide⟩
    · exact ⟨'\x7b', _, rfl, rfl, by decide⟩

theorem kind_eq_of_write_eq {a b : Json} (ha : a.WellFormed) (hb : b.WellFormed)
    {rest behind : List Char} (htext : a.write ++ rest = b.write ++ behind) : a.kind = b.kind := by
  obtain ⟨first, more, hwrite, hkind, -⟩ := write_starts ha
  obtain ⟨first', more', hwrite', hkind', -⟩ := write_starts hb
  rw [hwrite, hwrite'] at htext
  obtain ⟨rfl, -⟩ := List.cons.inj htext
  rw [← hkind, ← hkind']

/-! ## Documents -/

theorem writeString_unique {text other : String} {rest behind : List Char}
    (htext : writeString text ++ rest = writeString other ++ behind) :
    text = other ∧ rest = behind := by
  have hbody : ∀ (text : String) (rest : List Char),
      writeString text ++ rest = '"' :: (text.toList.flatMap writeChar ++ '"' :: rest) := by
    intro text rest
    simp [writeString]
  rw [hbody, hbody] at htext
  have hreads := reads_readString text rest
  rw [(List.cons.inj htext).2] at hreads
  exact hreads.unique (reads_readString other behind)

theorem integer_unique {value other : Int} {rest behind : List Char} (hrest : EndsNumber rest)
    (hbehind : EndsNumber behind)
    (htext : (toString value).toList ++ rest = (toString other).toList ++ behind) :
    value = other ∧ rest = behind := by
  rw [← integerParts_text, ← integerParts_text] at htext
  exact ((integerParts_proper value).text_unique (integerParts_proper other) hrest hbehind
    htext).imp_left integerParts_injective

theorem double_unique {x y : Binary64} (hx : x.isFinite = true) (hy : y.isFinite = true)
    {rest behind : List Char} (hrest : EndsNumber rest) (hbehind : EndsNumber behind)
    (htext : writeDouble x ++ rest = writeDouble y ++ behind) : x = y ∧ rest = behind := by
  rw [writeDouble, if_pos hx, writeDouble, if_pos hy] at htext
  have hreads := reads_readNumber_double hx hrest
  rw [htext] at hreads
  obtain ⟨hvalue, hsame⟩ := hreads.unique (reads_readNumber_double hy hbehind)
  exact ⟨Json.double.inj hvalue, hsame⟩

theorem integer_ne_double {value : Int} {x : Binary64} (hx : x.isFinite = true)
    {rest behind : List Char} (hrest : EndsNumber rest) (hbehind : EndsNumber behind) :
    (toString value).toList ++ rest ≠ writeDouble x ++ behind := by
  intro htext
  obtain ⟨number, hnumber⟩ := exists_isDouble hx
  rw [writeDouble, if_pos hx, ← hnumber.text_eq, ← integerParts_text] at htext
  obtain ⟨rfl, -⟩ :=
    (integerParts_proper value).text_unique hnumber.proper hrest hbehind htext
  exact integerParts_not_isDouble value x hnumber

/-- A list that has an item is not written like the empty list. -/
theorem write_array_cons_ne_nil {item : Json} {items : List Json} (hwell : item.WellFormed)
    {rest behind : List Char} :
    (Json.array (item :: items)).write ++ rest ≠ (Json.array []).write ++ behind := by
  intro htext
  obtain ⟨first, more, hwrite, -, hopen⟩ := write_starts hwell
  simp only [write, hwrite, List.cons_append, List.nil_append] at htext
  exact hopen (List.cons.inj (List.cons.inj htext).2).1

mutual

/-- A document can be told from what stands behind it. -/
theorem write_unique : ∀ {a b : Json} {rest behind : List Char}, a.WellFormed → b.WellFormed →
    EndsNumber rest → EndsNumber behind → a.write ++ rest = b.write ++ behind →
      a = b ∧ rest = behind
  | .null, b, rest, behind, ha, hb, hrest, hbehind, htext => by
    have hkind := kind_eq_of_write_eq ha hb htext
    cases b <;> simp [kind] at hkind
    exact ⟨rfl, List.append_cancel_left htext⟩
  | .bool value, b, rest, behind, ha, hb, hrest, hbehind, htext => by
    have hkind := kind_eq_of_write_eq ha hb htext
    cases b <;> simp [kind] at hkind
    rename_i other
    cases value <;> cases other <;> simp [write] at htext ⊢ <;> exact htext
  | .integer value, b, rest, behind, ha, hb, hrest, hbehind, htext => by
    have hkind := kind_eq_of_write_eq ha hb htext
    cases b <;> simp [kind] at hkind
    case integer other =>
      obtain ⟨rfl, hsame⟩ := integer_unique hrest hbehind htext
      exact ⟨rfl, hsame⟩
    case double x => exact absurd htext (integer_ne_double hb hrest hbehind)
  | .double x, b, rest, behind, ha, hb, hrest, hbehind, htext => by
    have hkind := kind_eq_of_write_eq ha hb htext
    cases b <;> simp [kind] at hkind
    case integer other => exact absurd htext.symm (integer_ne_double ha hbehind hrest)
    case double y =>
      obtain ⟨rfl, hsame⟩ := double_unique ha hb hrest hbehind htext
      exact ⟨rfl, hsame⟩
  | .string value, b, rest, behind, ha, hb, hrest, hbehind, htext => by
    have hkind := kind_eq_of_write_eq ha hb htext
    cases b <;> simp [kind] at hkind
    obtain ⟨rfl, hsame⟩ := writeString_unique htext
    exact ⟨rfl, hsame⟩
  | .array items, b, rest, behind, ha, hb, hrest, hbehind, htext => by
    have hkind := kind_eq_of_write_eq ha hb htext
    cases b <;> simp [kind] at hkind
    rename_i others
    -- behind the opening bracket an item is written as behind a comma
    cases items with
    | nil =>
      cases others with
      | nil => exact ⟨rfl, List.append_cancel_left htext⟩
      | cons other others =>
        exact absurd htext.symm (write_array_cons_ne_nil hb.1)
    | cons item items =>
      cases others with
      | nil => exact absurd htext (write_array_cons_ne_nil ha.1)
      | cons other others =>
        obtain ⟨hitems, hsame⟩ := writeItems_unique ha hb
          (congrArg (',' :: ·) (List.cons.inj htext).2)
        exact ⟨congrArg Json.array hitems, hsame⟩
  | .object members, b, rest, behind, ha, hb, hrest, hbehind, htext => by
    have hkind := kind_eq_of_write_eq ha hb htext
    cases b <;> simp [kind] at hkind
    rename_i others
    rcases members with - | ⟨⟨key, value⟩, members⟩
    · rcases others with - | ⟨⟨other, present⟩, others⟩
      · exact ⟨rfl, List.append_cancel_left htext⟩
      · simp [write, writeString] at htext
    · rcases others with - | ⟨⟨other, present⟩, others⟩
      · simp [write, writeString] at htext
      · obtain ⟨hmembers, hsame⟩ := writeMembers_unique ha.2 hb.2
          (congrArg (',' :: ·) (List.cons.inj htext).2)
        exact ⟨congrArg Json.object hmembers, hsame⟩

theorem writeItems_unique : ∀ {items others : List Json} {rest behind : List Char},
    WellFormedItems items → WellFormedItems others →
      writeItems items ++ rest = writeItems others ++ behind → items = others ∧ rest = behind
  | [], [], _, _, _, _, htext => ⟨rfl, List.append_cancel_left htext⟩
  | [], _ :: _, _, _, _, _, htext => by simp [writeItems] at htext
  | _ :: _, [], _, _, _, _, htext => by simp [writeItems] at htext
  | item :: items, other :: others, rest, behind, ha, hb, htext => by
    have htexts : item.write ++ (writeItems items ++ rest) =
        other.write ++ (writeItems others ++ behind) := by
      simpa [writeItems] using htext
    obtain ⟨rfl, hmore⟩ := write_unique ha.1 hb.1 (endsNumber_writeItems _ _)
      (endsNumber_writeItems _ _) htexts
    obtain ⟨rfl, hsame⟩ := writeItems_unique ha.2 hb.2 hmore
    exact ⟨rfl, hsame⟩

theorem writeMembers_unique : ∀ {members others : List (String × Json)} {rest behind : List Char},
    WellFormedMembers members → WellFormedMembers others →
      writeMembers members ++ rest = writeMembers others ++ behind →
        members = others ∧ rest = behind
  | [], [], _, _, _, _, htext => ⟨rfl, List.append_cancel_left htext⟩
  | [], _ :: _, _, _, _, _, htext => by simp [writeMembers] at htext
  | _ :: _, [], _, _, _, _, htext => by simp [writeMembers] at htext
  | (key, value) :: members, (other, present) :: others, rest, behind, ha, hb, htext => by
    have htexts : writeString key ++ (':' :: value.write ++ (writeMembers members ++ rest)) =
        writeString other ++ (':' :: present.write ++ (writeMembers others ++ behind)) := by
      simpa [writeMembers] using htext
    obtain ⟨rfl, hvalues⟩ := writeString_unique htexts
    obtain ⟨rfl, hmore⟩ := write_unique ha.1 hb.1 (endsNumber_writeMembers _ _)
      (endsNumber_writeMembers _ _) (List.cons.inj hvalues).2
    obtain ⟨rfl, hsame⟩ := writeMembers_unique ha.2 hb.2 hmore
    exact ⟨rfl, hsame⟩

end

/-- No two documents have one compact text. -/
theorem compact_injective {a b : Json} (ha : a.WellFormed) (hb : b.WellFormed)
    (htext : a.compact = b.compact) : a = b := by
  have hwrite : a.write ++ [] = b.write ++ [] := by
    rw [List.append_nil, List.append_nil]
    exact String.ofList_injective htext
  exact (write_unique ha hb endsNumber_nil endsNumber_nil hwrite).1

end Recollection.Json
