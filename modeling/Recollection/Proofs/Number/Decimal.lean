import Recollection.Proofs.Number.Reading
import Recollection.Proofs.Text.AsciiCase
/-!
# The grammar of decimal numerals

A decimal numeral has a sign or none, digits with a point among them or none, and an exponent or
none. What it stands for is told by the grammar alone, and the reader of decimal numbers agrees: it
gives a finite number for exactly the numerals of that number. What it reads besides, the words for
the infinities and for NaN, is not finite.
-/

set_option autoImplicit false

namespace Recollection.Numeral

/-! ## The grammar -/

/-- A sign or none, and whether it is a minus. -/
inductive IsSign : List Char → Bool → Prop
  /-- No sign. -/
  | none : IsSign [] false
  /-- A plus sign. -/
  | plus : IsSign ['+'] false
  /-- A minus sign. -/
  | minus : IsSign ['-'] true

/-- One or more digits, with a point among them or none: their value without the point, and how many
of them are behind it. -/
inductive IsMantissa : List Char → Nat → Nat → Prop
  /-- Digits without a point. -/
  | whole {digits : List Char} : digits ≠ [] → (∀ c ∈ digits, c.isDigit = true) →
    IsMantissa digits (digitsValue digits) 0
  /-- Digits with a point in front of them, among them or behind them. -/
  | pointed {digits fraction : List Char} : digits ++ fraction ≠ [] →
    (∀ c ∈ digits, c.isDigit = true) → (∀ c ∈ fraction, c.isDigit = true) →
    IsMantissa (digits ++ '.' :: fraction) (digitsValue (digits ++ fraction)) fraction.length

/-- Nothing, or a mark with an integer behind it: the power of ten that it names. -/
inductive IsExponent : List Char → Int → Prop
  /-- No exponent. -/
  | none : IsExponent [] 0
  /-- A mark, a sign or none, and one or more digits. -/
  | marked {mark : Char} {sign digits : List Char} {negative : Bool} : mark = 'e' ∨ mark = 'E' →
    IsSign sign negative → digits ≠ [] → (∀ c ∈ digits, c.isDigit = true) →
    IsExponent (mark :: (sign ++ digits))
      (if negative then -(digitsValue digits : Int) else digitsValue digits)

/-- A decimal numeral of a number: the number is the nearest one to its digits times a power of
ten. -/
inductive IsDecimal : List Char → Binary64 → Prop
  /-- A sign, digits and an exponent. -/
  | mk {sign mantissa behind : List Char} {negative : Bool} {digits places : Nat} {power : Int} :
    IsSign sign negative → IsMantissa mantissa digits places → IsExponent behind power →
    IsDecimal (sign ++ (mantissa ++ behind)) (Binary64.ofDecimal negative digits (power - places))

/-! ## Signs -/

theorem IsSign.takeSign_append {sign : List Char} {negative : Bool} (hsign : IsSign sign negative)
    {rest : List Char} (hrest : ∀ c ∈ rest.head?, c ≠ '-' ∧ c ≠ '+') :
    takeSign (sign ++ rest) = (negative, rest) := by
  cases hsign with
  | none =>
    rw [List.nil_append]
    unfold takeSign
    split
    · exact absurd rfl (hrest '-' rfl).1
    · exact absurd rfl (hrest '+' rfl).2
    · rfl
  | plus => rfl
  | minus => rfl

theorem exists_isSign_takeSign (text : List Char) :
    ∃ sign, IsSign sign (takeSign text).1 ∧ text = sign ++ (takeSign text).2 := by
  unfold takeSign
  split
  · exact ⟨['-'], .minus, rfl⟩
  · exact ⟨['+'], .plus, rfl⟩
  · exact ⟨[], .none, rfl⟩

theorem ne_sign_of_isDigit {c : Char} (hdigit : c.isDigit = true) : c ≠ '-' ∧ c ≠ '+' := by
  constructor <;> rintro rfl <;> cases hdigit

/-- Digits are not taken for a sign. -/
theorem ne_sign_of_mem_head? {digits : List Char} (hdigits : ∀ c ∈ digits, c.isDigit = true) :
    ∀ c ∈ digits.head?, c ≠ '-' ∧ c ≠ '+' :=
  fun c hmem => ne_sign_of_isDigit (hdigits c (List.mem_of_head? hmem))

/-! ## Exponents -/

theorem isEmpty_or_not_all_eq_true_iff {digits : List Char} :
    ¬(digits.isEmpty || !digits.all Char.isDigit) = true ↔
      digits ≠ [] ∧ ∀ c ∈ digits, c.isDigit = true := by
  rw [Bool.not_eq_true, Bool.or_eq_false_iff, List.isEmpty_eq_false_iff, Bool.not_eq_false',
    List.all_eq_true]

/-- An exponent starts with its mark. -/
theorem IsExponent.head? {text : List Char} {power : Int} (hexponent : IsExponent text power) :
    ∀ c ∈ text.head?, c = 'e' ∨ c = 'E' := by
  cases hexponent with
  | none => nofun
  | marked hmark =>
    rintro c hmem
    obtain rfl := Option.some.inj hmem
    exact hmark

theorem readExponent?_eq_some_iff {text : List Char} {power : Int} :
    readExponent? text = some power ↔ IsExponent text power := by
  constructor
  · intro hread
    cases text with
    | nil =>
      obtain rfl := Option.some.inj hread
      exact .none
    | cons mark rest =>
      rw [readExponent?] at hread
      split at hread
      · rename_i hmark
        rw [Bool.or_eq_true, beq_iff_eq, beq_iff_eq] at hmark
        obtain ⟨sign, hsign, htext⟩ := exists_isSign_takeSign rest
        dsimp only at hread
        generalize takeSign rest = taken at hread hsign htext
        split at hread
        · cases hread
        · rename_i hdigits
          rw [isEmpty_or_not_all_eq_true_iff] at hdigits
          obtain rfl := Option.some.inj hread
          rw [htext]
          exact .marked hmark hsign hdigits.1 hdigits.2
      · cases hread
  · rintro (- | ⟨hmark, hsign, hne, hdigits⟩)
    · rfl
    · rw [readExponent?, if_pos (by simpa using hmark),
        hsign.takeSign_append (ne_sign_of_mem_head? hdigits)]
      dsimp only
      rw [if_neg (isEmpty_or_not_all_eq_true_iff.2 ⟨hne, hdigits⟩)]

/-! ## Digits -/

/-- A run of digits ends where something else follows. -/
theorem span_digits {digits rest : List Char} (hdigits : ∀ c ∈ digits, c.isDigit = true)
    (hrest : ∀ c ∈ rest.head?, c.isDigit = false) :
    (digits ++ rest).takeWhile Char.isDigit = digits ∧
      (digits ++ rest).dropWhile Char.isDigit = rest := by
  rw [List.takeWhile_append_of_pos hdigits, List.dropWhile_append_of_pos hdigits]
  cases rest with
  | nil => exact ⟨List.append_nil _, rfl⟩
  | cons c rest =>
    have hother := hrest c rfl
    rw [List.takeWhile_cons_of_neg (by simp [hother]),
      List.dropWhile_cons_of_neg (by simp [hother])]
    exact ⟨List.append_nil _, rfl⟩

theorem isDigit_of_mem_takeWhile {text : List Char} :
    ∀ c ∈ text.takeWhile Char.isDigit, c.isDigit = true :=
  List.all_eq_true.1 List.all_takeWhile

theorem IsExponent.not_isDigit {text : List Char} {power : Int}
    (hexponent : IsExponent text power) : ∀ c ∈ text.head?, c.isDigit = false := by
  intro c hmem
  rcases hexponent.head? c hmem with rfl | rfl <;> rfl

/-- What is made of the digits in front of the point, those behind it, and the exponent. -/
theorem ite_magnitude_eq_some_iff {negative : Bool} {digits fraction behind : List Char}
    {x : Binary64} :
    (if digits.isEmpty && fraction.isEmpty then none
      else (readExponent? behind).map fun exponent =>
        Binary64.ofDecimal negative (digitsValue (digits ++ fraction))
          (exponent - fraction.length)) = some x ↔
      digits ++ fraction ≠ [] ∧ ∃ power, IsExponent behind power ∧
        x = Binary64.ofDecimal negative (digitsValue (digits ++ fraction))
          (power - fraction.length) := by
  rw [Option.ite_none_left_eq_some, Option.map_eq_some_iff, Bool.and_eq_true,
    List.isEmpty_iff, List.isEmpty_iff, ne_eq, List.append_eq_nil_iff]
  exact and_congr_right fun _ =>
    exists_congr fun power => and_congr readExponent?_eq_some_iff eq_comm

/-- The unsigned part of a decimal numeral is read as its digits and its exponent. -/
theorem readMagnitude?_eq_some_iff {negative : Bool} {text : List Char} {x : Binary64} :
    readMagnitude? negative text = some x ↔
      ∃ mantissa behind digits places power, text = mantissa ++ behind ∧
        IsMantissa mantissa digits places ∧ IsExponent behind power ∧
        x = Binary64.ofDecimal negative digits (power - (places : Nat)) := by
  constructor
  · intro hread
    have htext := List.takeWhile_append_dropWhile (p := Char.isDigit) (l := text)
    unfold readMagnitude? at hread
    dsimp only at hread
    split at hread
    · rename_i after hafter
      obtain ⟨hne, power, hexponent, rfl⟩ := ite_magnitude_eq_some_iff.1 hread
      refine ⟨_, _, _, _, power, ?_, .pointed hne isDigit_of_mem_takeWhile isDigit_of_mem_takeWhile,
        hexponent, rfl⟩
      rw [List.append_assoc, List.cons_append, List.takeWhile_append_dropWhile, ← hafter, htext]
    · obtain ⟨hne, power, hexponent, rfl⟩ := ite_magnitude_eq_some_iff.1 hread
      rw [List.append_nil] at hne ⊢
      exact ⟨_, _, _, _, power, htext.symm, .whole hne isDigit_of_mem_takeWhile, hexponent, rfl⟩
  · rintro ⟨mantissa, behind, digits, places, power, rfl, hmantissa, hexponent, rfl⟩
    unfold readMagnitude?
    cases hmantissa with
    | whole hne hdigits =>
      obtain ⟨htaken, hdropped⟩ := span_digits hdigits hexponent.not_isDigit
      rw [htaken, hdropped]
      dsimp only
      split
      · exact absurd (hexponent.head? '.' rfl) (by decide)
      · refine ite_magnitude_eq_some_iff.2 ?_
        rw [List.append_nil]
        exact ⟨hne, power, hexponent, rfl⟩
    | @pointed digits fraction hne hdigits hfraction =>
      have hpoint : ∀ c ∈ ('.' :: (fraction ++ behind)).head?, c.isDigit = false := by
        rintro c hmem
        obtain rfl := Option.some.inj hmem
        rfl
      obtain ⟨htaken, hdropped⟩ := span_digits hdigits hpoint
      obtain ⟨hfractionTaken, hfractionDropped⟩ := span_digits hfraction hexponent.not_isDigit
      rw [List.append_assoc, List.cons_append, htaken, hdropped]
      simp only [hfractionTaken, hfractionDropped]
      exact ite_magnitude_eq_some_iff.2 ⟨hne, power, hexponent, rfl⟩

/-! ## Decimal numerals -/

/-- A numeral without its sign starts with a digit or with the point. -/
theorem IsMantissa.exists_cons {text : List Char} {digits places : Nat}
    (hmantissa : IsMantissa text digits places) :
    ∃ c rest, text = c :: rest ∧ (c.isDigit = true ∨ c = '.') := by
  cases hmantissa with
  | whole hne hdigits =>
    obtain ⟨c, rest, rfl⟩ := List.exists_cons_of_ne_nil hne
    exact ⟨c, rest, rfl, .inl (hdigits c List.mem_cons_self)⟩
  | @pointed digits fraction _ hdigits _ =>
    cases digits with
    | nil => exact ⟨'.', fraction, rfl, .inr rfl⟩
    | cons c digits =>
      exact ⟨c, digits ++ '.' :: fraction, rfl, .inl (hdigits c List.mem_cons_self)⟩

/-- A digit or the point stays apart from the letters with which the words start. -/
theorem toLower_ne {c first : Char} (hc : c.isDigit = true ∨ c = '.') (hfirst : 65 ≤ first.toNat) :
    c.toLower ≠ first := by
  intro hlower
  have hbelow : c.toNat ≤ 57 := by
    rcases hc with hdigit | rfl
    · simp only [Char.isDigit, Bool.and_eq_true, decide_eq_true_eq, ge_iff_le,
        UInt32.le_iff_toNat_le] at hdigit
      exact hdigit.2
    · decide
  have hsame := Text.toNat_toLower c
  rw [hlower, if_neg (by omega)] at hsame
  omega

/-- What starts with a digit or with the point is none of the words. -/
theorem ofList_toLower_ne {c first : Char} (hc : c.isDigit = true ∨ c = '.')
    (hfirst : 65 ≤ first.toNat) (rest more : List Char) :
    (String.ofList ((c :: rest).map Char.toLower) == String.ofList (first :: more)) = false := by
  rw [beq_eq_false_iff_ne, ne_eq, String.ofList_inj, List.map_cons, List.cons.injEq, not_and]
  exact fun hlower => absurd hlower (toLower_ne hc hfirst)

/-- A finite number is read from its decimal numerals, and from nothing else. -/
theorem readBinary64?_eq_some_iff {text : String} {x : Binary64} (hfinite : x.isFinite = true) :
    readBinary64? text = some x ↔ IsDecimal text.toList x := by
  unfold readBinary64?
  generalize text.toList = chars
  dsimp only
  constructor
  · intro hread
    obtain ⟨sign, hsign, htext⟩ := exists_isSign_takeSign chars
    generalize takeSign chars = taken at hread hsign htext
    split at hread
    · obtain rfl := Option.some.inj hread
      cases hnegative : taken.1 <;> rw [hnegative] at hfinite <;> cases hfinite
    · split at hread
      · obtain rfl := Option.some.inj hread
        cases hfinite
      · obtain ⟨mantissa, behind, digits, places, power, hunsigned, hmantissa, hexponent, rfl⟩ :=
          readMagnitude?_eq_some_iff.1 hread
        rw [htext, hunsigned]
        exact .mk hsign hmantissa hexponent
  · rintro ⟨hsign, hmantissa, hexponent⟩
    obtain ⟨c, rest, rfl, hc⟩ := hmantissa.exists_cons
    have hhead : ∀ tail, ∀ d ∈ (c :: tail).head?, d ≠ '-' ∧ d ≠ '+' := by
      rintro tail d hmem
      obtain rfl := Option.some.inj hmem
      rcases hc with hdigit | rfl
      · exact ne_sign_of_isDigit hdigit
      · decide
    have hinf : ∀ tail, (String.ofList ((c :: tail).map Char.toLower) == "inf") = false :=
      fun tail => ofList_toLower_ne hc (by decide) tail ['n', 'f']
    have hinfinity : ∀ tail, (String.ofList ((c :: tail).map Char.toLower) == "infinity") = false :=
      fun tail => ofList_toLower_ne hc (by decide) tail ['n', 'f', 'i', 'n', 'i', 't', 'y']
    have hnan : ∀ tail, (String.ofList ((c :: tail).map Char.toLower) == "nan") = false :=
      fun tail => ofList_toLower_ne hc (by decide) tail ['a', 'n']
    rw [List.cons_append, hsign.takeSign_append (hhead _)]
    dsimp only
    rw [hinf, hinfinity, hnan, Bool.or_false, if_neg Bool.false_ne_true,
      if_neg Bool.false_ne_true]
    exact readMagnitude?_eq_some_iff.2 ⟨_, _, _, _, _, rfl, hmantissa, hexponent, rfl⟩

end Recollection.Numeral
