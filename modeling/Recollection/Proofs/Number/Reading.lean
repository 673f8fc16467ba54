import Mathlib.Algebra.Group.Nat.Defs
import Recollection.Number.Reading
import Recollection.Text.Blank
import Recollection.Text.Padded
/-!
# Numerals that are read back

The decimal digits of a natural number are a numeral of it, and a visible one.
-/

set_option autoImplicit false

namespace Recollection

theorem Text.isBlank_eq_false_of_isDigit {c : Char} (hdigit : c.isDigit = true) :
    isBlank c = false := by
  have hbounds : 48 ≤ c.toNat ∧ c.toNat ≤ 57 := by
    simp only [Char.isDigit, Bool.and_eq_true, decide_eq_true_eq, ge_iff_le,
      UInt32.le_iff_toNat_le] at hdigit
    exact hdigit
  -- the digits lie between the blank and the next white space
  rw [isBlank, CodeSet.contains, whiteSpace, CodeSet.memberFrom, if_neg (by omega),
    CodeSet.memberFrom, if_neg (by omega), CodeSet.memberFrom, if_neg (by omega),
    CodeSet.memberFrom, if_neg (by omega), CodeSet.memberFrom, if_pos (by omega)]
  rfl

namespace Numeral

/-- The digits of a number are decimal ones. -/
theorem isDigit_of_mem_toString {n : Nat} {c : Char} (hmem : c ∈ (toString n).toList) :
    c.isDigit = true := by
  rw [Nat.toString_eq_repr, Nat.repr_eq_ofList_toDigits, String.toList_ofList] at hmem
  exact Nat.isDigit_of_mem_toDigits (by decide) (by decide) hmem

theorem toString_ne_nil (n : Nat) : (toString n).toList ≠ [] := by
  rw [Nat.toString_eq_repr, Nat.repr_eq_ofList_toDigits, String.toList_ofList]
  exact Nat.toDigits_ne_nil

theorem digitsValue_toString (n : Nat) : digitsValue (toString n).toList = n := by
  rw [Nat.toString_eq_repr, Nat.repr_eq_ofList_toDigits, String.toList_ofList]
  exact Nat.ofDigitChars_toDigits (by decide) (by decide)

theorem length_toString_le_iff {n places : Nat} (hpos : 0 < places) :
    (toString n).toList.length ≤ places ↔ n < 10 ^ places := by
  rw [Nat.toString_eq_repr, Nat.repr_eq_ofList_toDigits, String.toList_ofList]
  exact Nat.length_toDigits_le_iff (by decide) hpos

theorem digitsValue_append (digits more : List Char) :
    digitsValue (digits ++ more) = 10 ^ more.length * digitsValue digits + digitsValue more := by
  have happend : digitsValue (digits ++ more) = Nat.ofDigitChars 10 more (digitsValue digits) :=
    Nat.ofDigitChars_append 0
  rw [happend]
  exact Nat.ofDigitChars_eq_ofDigitChars_zero

theorem digitsValue_zeros (places : Nat) : digitsValue (List.replicate places '0') = 0 :=
  Nat.ofDigitChars_replicate_zero

/-- Digits have fewer values than there are runs of as many digits. -/
theorem digitsValue_lt {digits : List Char} (hdigits : ∀ c ∈ digits, c.isDigit = true) :
    digitsValue digits < 10 ^ digits.length := by
  induction digits with
  | nil => decide
  | cons first rest ih =>
    have hrest := ih fun c hmem => hdigits c (List.mem_cons_of_mem _ hmem)
    have hfirst : digitsValue [first] ≤ 9 := by
      have hdigit := hdigits first List.mem_cons_self
      simp only [Char.isDigit, Bool.and_eq_true, decide_eq_true_eq, ge_iff_le,
        UInt32.le_iff_toNat_le] at hdigit
      have hbelow : first.toNat ≤ 57 := hdigit.2
      have hzero : '0'.toNat = 48 := rfl
      simp only [digitsValue, digitValue, List.foldl_cons, List.foldl_nil]
      omega
    have hsplit : digitsValue (first :: rest) =
        10 ^ rest.length * digitsValue [first] + digitsValue rest :=
      digitsValue_append [first] rest
    have hscaled := Nat.mul_le_mul_left (10 ^ rest.length) hfirst
    rw [hsplit, List.length_cons, Nat.pow_succ]
    omega

/-- A number other than zero is written without a zero in front. -/
theorem head?_toString_ne_zero {n : Nat} (hpos : n ≠ 0) :
    (toString n).toList.head? ≠ some '0' := by
  intro hhead
  obtain ⟨rest, htext⟩ := List.head?_eq_some_iff.1 hhead
  have hvalue := digitsValue_toString n
  have hdigits : ∀ c ∈ rest, c.isDigit = true := by
    intro c hmem
    exact isDigit_of_mem_toString (n := n) (htext ▸ List.mem_cons_of_mem _ hmem)
  have hrest : digitsValue rest = n := by
    rw [htext] at hvalue
    simpa [digitsValue, digitValue] using hvalue
  have hless := hrest ▸ digitsValue_lt hdigits
  -- what is left would have a digit fewer than the number has
  have hplaces : 0 < rest.length := by
    rcases Nat.eq_zero_or_pos rest.length with hnil | hplaces
    · rw [hnil] at hless
      omega
    · exact hplaces
  have hle := (length_toString_le_iff hplaces).2 hless
  rw [htext, List.length_cons] at hle
  omega

/-- A numeral of a number: one or more decimal digits, behind a plus sign or nothing. -/
def IsNumeral (text : List Char) (value : Nat) : Prop :=
  ∃ digits, digits ≠ [] ∧ (∀ c ∈ digits, c.isDigit = true) ∧
    (text = digits ∨ text = '+' :: digits) ∧ digitsValue digits = value

theorem ite_value_eq_some_iff {bound value : Nat} {digits : List Char} :
    (if digits.isEmpty || !digits.all Char.isDigit then none
      else if digitsValue digits < bound then some (digitsValue digits) else none) = some value ↔
    digits ≠ [] ∧ (∀ c ∈ digits, c.isDigit = true) ∧ digitsValue digits = value ∧
      value < bound := by
  rw [← List.all_eq_true]
  cases digits with
  | nil => simp
  | cons first rest =>
    cases hall : (first :: rest).all Char.isDigit with
    | false => simp
    | true =>
      simp only [List.isEmpty_cons, Bool.not_true, Bool.or_false, Bool.false_eq_true, if_false,
        Option.ite_none_right_eq_some, Option.some.injEq, ne_eq, reduceCtorEq, not_false_eq_true,
        true_and]
      constructor
      · rintro ⟨hless, rfl⟩
        exact ⟨rfl, hless⟩
      · rintro ⟨rfl, hless⟩
        exact ⟨hless, rfl⟩

/-- What is read are the numerals of numbers below the bound. -/
theorem readNat?_eq_some_iff {bound value : Nat} {text : List Char} :
    readNat? bound text = some value ↔ IsNumeral text value ∧ value < bound := by
  unfold readNat?
  dsimp only
  split
  · rename_i rest
    rw [ite_value_eq_some_iff]
    constructor
    · rintro ⟨hne, hdigits, hvalue, hless⟩
      exact ⟨⟨rest, hne, hdigits, .inr rfl, hvalue⟩, hless⟩
    · rintro ⟨⟨digits, hne, hdigits, htext, hvalue⟩, hless⟩
      rcases htext with rfl | htext
      · -- a plus sign is not a digit
        exact absurd (hdigits _ List.mem_cons_self) (by decide)
      · obtain ⟨-, rfl⟩ := List.cons.inj htext
        exact ⟨hne, hdigits, hvalue, hless⟩
  · rename_i hunsigned
    rw [ite_value_eq_some_iff]
    constructor
    · rintro ⟨hne, hdigits, hvalue, hless⟩
      exact ⟨⟨text, hne, hdigits, .inl rfl, hvalue⟩, hless⟩
    · rintro ⟨⟨digits, hne, hdigits, htext, hvalue⟩, hless⟩
      rcases htext with rfl | htext
      · exact ⟨hne, hdigits, hvalue, hless⟩
      · exact absurd htext (hunsigned digits)

/-- What is read into words are the numerals of their numbers. -/
theorem map_readNat?_eq_some_iff {α : Type} {bound : Nat} {ofNat : Nat → α} {toNat : α → Nat}
    (hlt : ∀ word, toNat word < bound) (hof : ∀ word, ofNat (toNat word) = word)
    (hto : ∀ value < bound, toNat (ofNat value) = value) {text : List Char} {word : α} :
    (readNat? bound text).map ofNat = some word ↔ IsNumeral text (toNat word) := by
  rw [Option.map_eq_some_iff]
  constructor
  · rintro ⟨value, hread, rfl⟩
    obtain ⟨hnumeral, hless⟩ := readNat?_eq_some_iff.1 hread
    rwa [hto value hless]
  · intro hnumeral
    exact ⟨toNat word, readNat?_eq_some_iff.2 ⟨hnumeral, hlt word⟩, hof word⟩

theorem readUInt32?_eq_some_iff {text : String} {number : UInt32} :
    readUInt32? text = some number ↔ IsNumeral text.toList number.toNat :=
  map_readNat?_eq_some_iff UInt32.toNat_lt (fun _ => UInt32.ofNat_toNat)
    fun _ => UInt32.toNat_ofNat_of_lt'

theorem readUInt64?_eq_some_iff {text : String} {number : UInt64} :
    readUInt64? text = some number ↔ IsNumeral text.toList number.toNat :=
  map_readNat?_eq_some_iff UInt64.toNat_lt (fun _ => UInt64.ofNat_toNat)
    fun _ => UInt64.toNat_ofNat_of_lt'

theorem isNumeral_toString (n : Nat) : IsNumeral (toString n).toList n := by
  exact ⟨(toString n).toList, toString_ne_nil n, fun _ => isDigit_of_mem_toString, .inl rfl,
    digitsValue_toString n⟩

/-- Reading a written number gives the number. -/
theorem readUInt64?_toString {n : Nat} (hless : n < UInt64.size) :
    readUInt64? (toString n) = some (.ofNat n) := by
  rw [readUInt64?_eq_some_iff, UInt64.toNat_ofNat_of_lt' hless]
  exact isNumeral_toString n

/-- A written number is not blank. -/
theorem isBlankText_toString (n : Nat) : Text.isBlankText (toString n) = false := by
  obtain ⟨c, hmem⟩ := List.exists_mem_of_ne_nil _ (toString_ne_nil n)
  rw [Text.isBlankText, List.all_eq_false]
  refine ⟨c, hmem, ?_⟩
  rw [Text.isBlank_eq_false_of_isDigit (isDigit_of_mem_toString hmem)]
  decide

/-! ## Numerals of a set width -/

theorem isDigit_of_mem_decimal {width n : Nat} {c : Char}
    (hmem : c ∈ (Text.decimal width n).toList) : c.isDigit = true := by
  rw [Text.decimal, Text.padded, String.toList_ofList, List.mem_append] at hmem
  rcases hmem with hzero | hdigit
  · rw [List.eq_of_mem_replicate hzero]
    decide
  · exact Nat.isDigit_of_mem_toDigits (by decide) (by decide) hdigit

/-- Zeros in front do not change what a numeral stands for. -/
theorem digitsValue_decimal (width n : Nat) : digitsValue (Text.decimal width n).toList = n := by
  rw [Text.decimal, Text.padded, String.toList_ofList, digitsValue_append, digitsValue_zeros,
    Nat.mul_zero, Nat.zero_add]
  exact Nat.ofDigitChars_toDigits (by decide) (by decide)

end Numeral

end Recollection
