import Recollection.Json.Writer
import Recollection.Proofs.Json.Token
import Recollection.Proofs.Number.Reading
import Recollection.Proofs.Number.Shortest
/-!
# Numbers are read back

A number of a document has parts: a sign, digits, a fraction and an exponent. A text made of proper
parts is read as these parts, unless what stands behind it goes on with the number. The writer of
documents makes such texts, of an integer without fraction and exponent, of a binary64 number with
one of them; what is read of the latter is the number that was written.
-/

set_option autoImplicit false

namespace Recollection.Json

open Numeral

/-- What stands behind a number does not go on with it. -/
def EndsNumber (rest : List Char) : Prop :=
  ∀ c ∈ rest.head?, c.isDigit = false ∧ c ≠ '.' ∧ c ≠ 'e' ∧ c ≠ 'E'

theorem endsNumber_nil : EndsNumber [] := by
  simp [EndsNumber]

theorem EndsNumber.not_isDigit {rest : List Char} (hends : EndsNumber rest) :
    ∀ c ∈ rest.head?, c.isDigit = false :=
  fun c hmem => (hends c hmem).1

/-! ## The parts of a number -/

theorem reads_readDigits {digits rest : List Char} (hne : digits ≠ [])
    (hdigits : ∀ c ∈ digits, c.isDigit = true) (hrest : ∀ c ∈ rest.head?, c.isDigit = false)
    (atEnd atOther : List Char → SyntaxFault) :
    Reads (readDigits atEnd atOther) (digits ++ rest) digits rest := by
  have hstop : rest.takeWhile Char.isDigit = [] ∧ rest.dropWhile Char.isDigit = rest := by
    cases rest with
    | nil => exact ⟨rfl, rfl⟩
    | cons c rest =>
      have hother := hrest c rfl
      exact ⟨List.takeWhile_cons_of_neg (by simp [hother]),
        List.dropWhile_cons_of_neg (by simp [hother])⟩
  cases digits with
  | nil => exact absurd rfl hne
  | cons first digits =>
    have hfirst := hdigits first List.mem_cons_self
    have hothers : ∀ c ∈ digits, c.isDigit = true :=
      fun c hmem => hdigits c (List.mem_cons_of_mem _ hmem)
    have htaken : (digits ++ rest).takeWhile Char.isDigit = digits := by
      rw [List.takeWhile_append_of_pos hothers, hstop.1, List.append_nil]
    have hdropped : (digits ++ rest).dropWhile Char.isDigit = rest := by
      rw [List.dropWhile_append_of_pos hothers, hstop.2]
    refine ⟨by simp only [List.cons_append, List.length_cons, List.length_append]; omega, ?_⟩
    simp only [List.cons_append, readDigits, hfirst, if_true, htaken, hdropped]

/-- How a fraction is written. -/
def fractionText : List Char → List Char
  | [] => []
  | first :: digits => '.' :: first :: digits

/-- How an exponent is written. -/
def exponentText : Option (Bool × List Char) → List Char
  | none => []
  | some (true, power) => 'e' :: '-' :: power
  | some (false, power) => 'e' :: '+' :: power

/-- The power of ten that an exponent names. -/
def exponentValue : Option (Bool × List Char) → Int
  | none => 0
  | some (true, digits) => -(digitsValue digits : Int)
  | some (false, digits) => digitsValue digits

theorem head?_fractionText {fraction : List Char} {c : Char}
    (hmem : c ∈ (fractionText fraction).head?) : c = '.' := by
  cases fraction with
  | nil => simp [fractionText] at hmem
  | cons first digits => simpa [fractionText, eq_comm] using hmem

theorem head?_exponentText {exponent : Option (Bool × List Char)} {c : Char}
    (hmem : c ∈ (exponentText exponent).head?) : c = 'e' := by
  rcases exponent with - | ⟨- | -, power⟩
  · simp [exponentText] at hmem
  · simpa [exponentText, eq_comm] using hmem
  · simpa [exponentText, eq_comm] using hmem

theorem readFraction_append {fraction rest : List Char}
    (hdigits : ∀ c ∈ fraction, c.isDigit = true)
    (hrest : ∀ c ∈ rest.head?, c.isDigit = false ∧ c ≠ '.') :
    ∃ hle, readFraction (fractionText fraction ++ rest) = .ok ⟨(fraction, rest), hle⟩ := by
  cases fraction with
  | nil =>
    refine ⟨Nat.le_refl _, ?_⟩
    show readFraction rest = _
    unfold readFraction
    split
    · exact absurd rfl (hrest '.' rfl).2
    · rfl
  | cons first digits =>
    obtain ⟨hshorter, hread⟩ :=
      reads_readDigits (List.cons_ne_nil _ _) hdigits (fun c hmem => (hrest c hmem).1)
        (.next .endInValue) (.next .invalidNumber)
    refine ⟨Nat.le_succ_of_le (Nat.le_of_lt hshorter), ?_⟩
    show (readDigits _ _ (first :: digits ++ rest)).map _ = _
    rw [hread]
    rfl

theorem readExponent_of_endsNumber {rest : List Char} (hends : EndsNumber rest) :
    readExponent rest = .ok ⟨(none, rest), Nat.le_refl _⟩ := by
  cases rest with
  | nil => rfl
  | cons c rest =>
    obtain ⟨-, -, hlower, hupper⟩ := hends c rfl
    unfold readExponent
    exact if_neg (by simp [hlower, hupper])

theorem readExponent_append {exponent : Option (Bool × List Char)} {rest : List Char}
    (hdigits : ∀ below power, exponent = some (below, power) →
      power ≠ [] ∧ ∀ c ∈ power, c.isDigit = true)
    (hends : EndsNumber rest) :
    ∃ hle, readExponent (exponentText exponent ++ rest) = .ok ⟨(exponent, rest), hle⟩ := by
  rcases exponent with - | ⟨below, power⟩
  · exact ⟨Nat.le_refl _, readExponent_of_endsNumber hends⟩
  · obtain ⟨hne, hpower⟩ := hdigits below power rfl
    obtain ⟨hshorter, hread⟩ :=
      reads_readDigits hne hpower hends.not_isDigit (.before .endInValue) (.next .invalidNumber)
    cases below with
    | true =>
      refine ⟨Nat.le_succ_of_le (Nat.le_succ_of_le (Nat.le_of_lt hshorter)), ?_⟩
      show (readDigits _ _ (power ++ rest)).map _ = _
      rw [hread]
      rfl
    | false =>
      refine ⟨Nat.le_succ_of_le (Nat.le_succ_of_le (Nat.le_of_lt hshorter)), ?_⟩
      show (readDigits _ _ (power ++ rest)).map _ = _
      rw [hread]
      rfl

namespace WrittenNumber

variable {number : WrittenNumber}

/-- How a number is written. -/
def text (number : WrittenNumber) : List Char :=
  (if number.negative then ['-'] else []) ++
    (number.whole ++ (fractionText number.fraction ++ exponentText number.exponent))

/-- The parts of a number are digits, no zero stands in front without need, and an exponent has at
least one digit. -/
structure Proper (number : WrittenNumber) : Prop where
  /-- There is a digit in front of the point. -/
  whole_ne_nil : number.whole ≠ []
  /-- In front of the point there are digits only. -/
  whole_digits : ∀ c ∈ number.whole, c.isDigit = true
  /-- A zero in front stands alone. -/
  zero_alone : number.whole.head? = some '0' → number.whole = ['0']
  /-- Behind the point there are digits only. -/
  fraction_digits : ∀ c ∈ number.fraction, c.isDigit = true
  /-- The exponent has digits, and digits only. -/
  power_digits : ∀ below power, number.exponent = some (below, power) →
    power ≠ [] ∧ ∀ c ∈ power, c.isDigit = true

/-- What stands behind a part of a number starts with the next part that there is, or else behind
the number. -/
theorem mem_head?_append {part rest : List Char} {c : Char} (hmem : c ∈ (part ++ rest).head?) :
    c ∈ part.head? ∨ c ∈ rest.head? := by
  cases part with
  | nil => exact .inr hmem
  | cons first part => exact .inl hmem

theorem bind_eq_of_eq_ok {ε α β : Type} {x : Except ε α} {f : α → Except ε β} {a : α}
    (hok : x = .ok a) : x >>= f = f a := by
  rw [hok]
  rfl

/-- A number is read part by part. -/
theorem readWrittenNumber_eq (text : List Char) (negative : Bool)
    (hsign : (match text with
      | '-' :: _ => true
      | _ => false) = negative)
    {whole : Reading (List Char) (text.drop (if negative then 1 else 0))}
    (hwhole : readDigits (.before .endInValue) (.next .invalidNumber)
      (text.drop (if negative then 1 else 0)) = .ok whole)
    (hzero : whole.value.head? = some '0' → whole.value = ['0'])
    {fraction : { r : List Char × List Char // r.2.length ≤ whole.rest.length }}
    (hfraction : readFraction whole.rest = .ok fraction)
    {exponent : { r : Option (Bool × List Char) × List Char //
      r.2.length ≤ fraction.val.2.length }}
    (hexponent : readExponent fraction.val.2 = .ok exponent) :
    Reads readWrittenNumber text
      ⟨negative, whole.value, fraction.val.1, exponent.val.1⟩ exponent.val.2 := by
  have hlength : exponent.val.2.length < text.length := by
    have := whole.shorter
    have := fraction.property
    have := exponent.property
    have := (List.drop_sublist (if negative then 1 else 0) text).length_le
    omega
  refine ⟨hlength, ?_⟩
  subst hsign
  unfold readWrittenNumber
  refine (bind_eq_of_eq_ok hwhole).trans ?_
  split
  · rename_i hmore
    rw [hmore] at hzero
    simp at hzero
  · refine (bind_eq_of_eq_ok hfraction).trans ?_
    refine (bind_eq_of_eq_ok hexponent).trans ?_
    rfl

/-- A number is read as its parts. -/
theorem Proper.reads (hproper : number.Proper) {rest : List Char} (hends : EndsNumber rest) :
    Reads readWrittenNumber (number.text ++ rest) number rest := by
  have hbehindFraction : ∀ c ∈ (exponentText number.exponent ++ rest).head?,
      c.isDigit = false ∧ c ≠ '.' := by
    intro c hmem
    rcases mem_head?_append hmem with hexponent | hrest
    · rw [head?_exponentText hexponent]
      decide
    · exact ⟨(hends c hrest).1, (hends c hrest).2.1⟩
  have hbehindWhole : ∀ c ∈ (fractionText number.fraction ++
      (exponentText number.exponent ++ rest)).head?, c.isDigit = false := by
    intro c hmem
    rcases mem_head?_append hmem with hfraction | hbehind
    · rw [head?_fractionText hfraction]
      decide
    · exact (hbehindFraction c hbehind).1
  obtain ⟨hshorter, hwhole⟩ :=
    reads_readDigits hproper.whole_ne_nil hproper.whole_digits hbehindWhole (.before .endInValue)
      (.next .invalidNumber)
  obtain ⟨hleFraction, hfraction⟩ := readFraction_append hproper.fraction_digits hbehindFraction
  obtain ⟨hleExponent, hexponent⟩ := readExponent_append hproper.power_digits hends
  obtain ⟨negative, whole, fraction, exponent⟩ := number
  have htext : text ⟨negative, whole, fraction, exponent⟩ ++ rest =
      (if negative then ['-'] else []) ++
        (whole ++ (fractionText fraction ++ (exponentText exponent ++ rest))) := by
    simp only [text, List.append_assoc]
  rw [htext]
  cases negative with
  | true =>
    exact readWrittenNumber_eq ('-' :: _) true rfl hwhole hproper.zero_alone hfraction hexponent
  | false =>
    refine readWrittenNumber_eq _ false ?_ hwhole hproper.zero_alone hfraction hexponent
    -- a digit is not a minus
    obtain ⟨first, digits, rfl⟩ := List.exists_cons_of_ne_nil hproper.whole_ne_nil
    show (match first :: (digits ++ _) with
      | '-' :: _ => true
      | _ => false) = false
    split
    · rename_i hminus
      obtain ⟨rfl, -⟩ := List.cons.inj hminus
      exact absurd (hproper.whole_digits '-' List.mem_cons_self) (by decide)
    · rfl

/-! ## The value of a number -/

/-- The digits of a number, without the point. -/
def digits (number : WrittenNumber) : Nat :=
  digitsValue (number.whole ++ number.fraction)

/-- A number with a fraction or an exponent has the value of its digits at their place. -/
theorem evaluate_eq_double (hmarked : number.fraction ≠ [] ∨ number.exponent ≠ none)
    (hpower : exponentValue number.exponent ≤ exponentLimit) {x : Binary64}
    (hfinite : x.isFinite = true)
    (hvalue : Binary64.ofDecimal number.negative number.digits
      (exponentValue number.exponent - number.fraction.length) = x) (rest : List Char) :
    number.evaluate rest = .ok (.double x) := by
  obtain ⟨negative, whole, fraction, exponent⟩ := number
  subst hvalue
  rcases exponent with - | ⟨below, scale⟩
  · have hplaces : (decide (fraction.length = 0)) = false := by
      rcases hmarked with hmarked | hmarked
      · simpa using hmarked
      · exact absurd rfl hmarked
    have hscale : (exponentValue none - fraction.length : Int) = -fraction.length := Int.zero_sub _
    simp only [hscale, digits] at hfinite ⊢
    simp only [evaluate, hplaces, Bool.false_and, Bool.false_eq_true, if_false, hfinite, if_true]
  · have hscale : (exponentValue (some (below, scale)) : Int) =
        if below then -(digitsValue scale : Int) else digitsValue scale := by
      cases below <;> rfl
    have hlimit : (!below && decide (0 < digitsValue (whole ++ fraction)) &&
        decide (exponentLimit < digitsValue scale)) = false := by
      cases below with
      | true => rfl
      | false =>
        have : digitsValue scale ≤ exponentLimit := Int.ofNat_le.1 hpower
        simp only [Bool.and_eq_false_iff, decide_eq_false_iff_not]
        exact .inr (by omega)
    simp only [hscale, digits] at hfinite ⊢
    simp only [evaluate, hlimit, Bool.false_eq_true, if_false, hfinite, if_true]

/-- What a number with these parts is read as. -/
theorem reads_readNumber (hproper : number.Proper) {rest : List Char} (hends : EndsNumber rest)
    {value : Json} (hvalue : number.evaluate rest = .ok value) :
    Reads readNumber (number.text ++ rest) value rest := by
  obtain ⟨hshorter, hread⟩ := hproper.reads hends
  refine ⟨hshorter, ?_⟩
  unfold readNumber
  refine (bind_eq_of_eq_ok hread).trans ?_
  exact (bind_eq_of_eq_ok hvalue).trans rfl

end WrittenNumber

/-! ## Integers -/

theorem toString_toList_of_nonneg {value : Int} (hnonneg : 0 ≤ value) :
    (toString value).toList = (toString value.natAbs).toList := by
  rw [Int.toString_eq_repr, Int.repr_eq_if, if_pos hnonneg, Nat.toString_eq_repr]
  congr 2
  omega

theorem toString_toList_of_neg {value : Int} (hneg : value < 0) :
    (toString value).toList = '-' :: (toString value.natAbs).toList := by
  have habs : (-value).toNat = value.natAbs := by omega
  rw [Int.toString_eq_repr, Int.repr_eq_if, if_neg (by omega), String.toList_append, habs,
    Nat.toString_eq_repr]
  rfl

/-- The parts of a numeral of an integer. -/
def integerParts (value : Int) : WrittenNumber :=
  ⟨decide (value < 0), (toString value.natAbs).toList, [], none⟩

theorem integerParts_text (value : Int) :
    (integerParts value).text = (toString value).toList := by
  by_cases hneg : value < 0
  · rw [toString_toList_of_neg hneg]
    simp [integerParts, WrittenNumber.text, fractionText, exponentText, hneg]
  · rw [toString_toList_of_nonneg (by omega)]
    simp [integerParts, WrittenNumber.text, fractionText, exponentText, hneg]

/-- The digits of a natural number may stand in front of a point. -/
theorem toString_zero_alone {n : Nat} (hhead : (toString n).toList.head? = some '0') :
    (toString n).toList = ['0'] := by
  by_cases hzero : n = 0
  · rw [hzero]
    rfl
  · exact absurd hhead (head?_toString_ne_zero hzero)

theorem integerParts_proper (value : Int) : (integerParts value).Proper where
  whole_ne_nil := toString_ne_nil _
  whole_digits := fun _ => isDigit_of_mem_toString
  zero_alone := toString_zero_alone
  fraction_digits := by simp [integerParts]
  power_digits := by simp [integerParts]

/-! ## Binary64 numbers -/

/-- The parts of a number are those of a decimal with a sign, as it is written in a document. -/
structure WrittenNumber.Writes (number : WrittenNumber) (negative : Bool) (decimal : Decimal)
    (written : String) : Prop where
  /-- The parts make the text. -/
  text_eq : number.text = (if negative then ['-'] else []) ++ written.toList
  /-- They can be read. -/
  proper : number.Proper
  /-- The sign is that of the decimal. -/
  negative_eq : number.negative = negative
  /-- There is a fraction or an exponent. -/
  marked : number.fraction ≠ [] ∨ number.exponent ≠ none
  /-- The exponent is not out of all proportion. -/
  power_le : exponentValue number.exponent ≤ exponentLimit
  /-- The value is that of the decimal. -/
  value_eq : Binary64.ofDecimal negative number.digits
      (exponentValue number.exponent - number.fraction.length) =
    Binary64.ofDecimal negative decimal.digits decimal.exponent

section Decimal

variable (negative : Bool) {decimal : Decimal}

/-- A decimal without places behind the point. -/
theorem writes_whole {places : Nat} (hexponent : decimal.exponent = places)
    (hplain : decimal = ⟨0, 0⟩ ∨ decimal.digits ≠ 0 ∧ places ≤ 400) :
    (⟨negative, (toString decimal.digits).toList ++ List.replicate places '0', ['0'], none⟩ :
      WrittenNumber).Writes negative decimal (decimal.positional true) where
  text_eq := by
    have hpositional : decimal.positional true =
        String.ofList (toString decimal.digits).toList ++ Decimal.zeros places ++ ".0" := by
      simp [Decimal.positional, hexponent]
    rw [hpositional]
    simp [WrittenNumber.text, fractionText, exponentText, Decimal.zeros]
  proper := by
    refine ⟨by simp, ?_, ?_, by simp, by simp⟩
    · intro c hmem
      rcases List.mem_append.1 hmem with hdigit | hzero
      · exact isDigit_of_mem_toString hdigit
      · rw [List.eq_of_mem_replicate hzero]
        rfl
    · intro hhead
      rw [List.head?_append, List.head?_eq_some_head (toString_ne_nil _), Option.some_or,
        ← List.head?_eq_some_head] at hhead
      rcases hplain with rfl | ⟨hdigits, -⟩
      · obtain rfl : places = 0 := by simpa using hexponent.symm
        rfl
      · exact absurd hhead (head?_toString_ne_zero hdigits)
  negative_eq := rfl
  marked := .inl (List.cons_ne_nil _ _)
  power_le := Int.natCast_nonneg _
  value_eq := by
    have hdigits : WrittenNumber.digits
        ⟨negative, (toString decimal.digits).toList ++ List.replicate places '0', ['0'], none⟩ =
          decimal.digits * 10 ^ (places + 1) := by
      rw [WrittenNumber.digits, List.append_assoc, ← List.replicate_succ', digitsValue_append,
        digitsValue_zeros, digitsValue_toString, List.length_replicate, Nat.mul_comm, Nat.add_zero]
    rw [hdigits, hexponent]
    rcases hplain with rfl | ⟨hpos, hbound⟩
    · simp [Binary64.ofDecimal]
    · exact Binary64.ofDecimal_mul_ten_pow negative hpos hbound

/-- A decimal with digits on both sides of the point. -/
theorem writes_inside (hbelow : decimal.exponent < 0) {whole : Nat}
    (hwhole : (toString decimal.digits).toList.length + decimal.exponent = whole)
    (hpos : 0 < whole) :
    (⟨negative, (toString decimal.digits).toList.take whole,
      (toString decimal.digits).toList.drop whole, none⟩ : WrittenNumber).Writes
        negative decimal (decimal.positional true) where
  text_eq := by
    have hpositional : decimal.positional true =
        Decimal.pointAfter whole (toString decimal.digits).toList := by
      simp only [Decimal.positional, hwhole]
      rw [if_neg (by omega), if_pos (by omega), Int.toNat_natCast]
    have hfraction : fractionText ((toString decimal.digits).toList.drop whole) =
        '.' :: (toString decimal.digits).toList.drop whole := by
      obtain ⟨first, rest, hdrop⟩ :=
        List.exists_cons_of_ne_nil (l := (toString decimal.digits).toList.drop whole) (by
          rw [ne_eq, List.drop_eq_nil_iff]
          omega)
      rw [hdrop]
      rfl
    rw [hpositional]
    simp only [WrittenNumber.text, hfraction, exponentText, Decimal.pointAfter,
      String.toList_append, String.toList_ofList, List.append_nil, List.append_assoc]
    rfl
  proper := by
    refine ⟨?_, ?_, ?_, ?_, by simp⟩
    · rw [ne_eq, List.take_eq_nil_iff]
      exact not_or.2 ⟨by omega, toString_ne_nil _⟩
    · exact fun c hmem => isDigit_of_mem_toString (List.mem_of_mem_take hmem)
    · intro hhead
      rw [List.head?_take, if_neg (by omega)] at hhead
      have hlength := congrArg List.length (toString_zero_alone hhead)
      rw [List.length_singleton] at hlength
      omega
    · exact fun c hmem => isDigit_of_mem_toString (List.mem_of_mem_drop hmem)
  negative_eq := rfl
  marked := by
    left
    rw [ne_eq, List.drop_eq_nil_iff]
    omega
  power_le := Int.natCast_nonneg _
  value_eq := by
    have hscale : exponentValue none - ((toString decimal.digits).toList.drop whole).length =
        decimal.exponent := by
      rw [List.length_drop, exponentValue]
      omega
    rw [WrittenNumber.digits, List.take_append_drop, digitsValue_toString, hscale]

/-- A decimal with nothing but a zero in front of the point. -/
theorem writes_below {zeros : Nat}
    (hzeros : (toString decimal.digits).toList.length + decimal.exponent = -(zeros : Int)) :
    (⟨negative, ['0'], List.replicate zeros '0' ++ (toString decimal.digits).toList, none⟩ :
      WrittenNumber).Writes negative decimal (decimal.positional true) where
  text_eq := by
    have hnonempty := List.length_pos_iff.2 (toString_ne_nil decimal.digits)
    have hpositional : decimal.positional true =
        "0." ++ Decimal.zeros zeros ++ String.ofList (toString decimal.digits).toList := by
      simp only [Decimal.positional, hzeros]
      rw [if_neg (by omega), if_neg (by omega), Int.neg_neg, Int.toNat_natCast]
    have hfraction : fractionText
        (List.replicate zeros '0' ++ (toString decimal.digits).toList) =
          '.' :: (List.replicate zeros '0' ++ (toString decimal.digits).toList) := by
      obtain ⟨first, rest, hdigits⟩ :=
        List.exists_cons_of_ne_nil
          (l := List.replicate zeros '0' ++ (toString decimal.digits).toList)
          (by simp)
      rw [hdigits]
      rfl
    rw [hpositional]
    simp only [WrittenNumber.text, hfraction, exponentText, Decimal.zeros, String.toList_append,
      String.toList_ofList, List.append_nil]
    rfl
  proper := by
    refine ⟨List.cons_ne_nil _ _, by simp, fun _ => rfl, ?_, by simp⟩
    intro c hmem
    rcases List.mem_append.1 hmem with hzero | hdigit
    · rw [List.eq_of_mem_replicate hzero]
      rfl
    · exact isDigit_of_mem_toString hdigit
  negative_eq := rfl
  marked := .inl (by simp)
  power_le := Int.natCast_nonneg _
  value_eq := by
    have hdigits : WrittenNumber.digits
        ⟨negative, ['0'], List.replicate zeros '0' ++ (toString decimal.digits).toList, none⟩ =
          decimal.digits := by
      rw [WrittenNumber.digits, ← List.append_assoc, digitsValue_append, digitsValue_toString]
      have hnothing : digitsValue (['0'] ++ List.replicate zeros '0') = 0 :=
        digitsValue_zeros (zeros + 1)
      rw [hnothing, Nat.mul_zero, Nat.zero_add]
    have hscale : exponentValue none - (List.replicate zeros '0' ++
        (toString decimal.digits).toList).length = decimal.exponent := by
      rw [List.length_append, List.length_replicate, exponentValue]
      omega
    rw [hdigits, hscale]

theorem exponentText_eq (scale : Int) :
    exponentText (some (decide (scale < 0), (toString scale.natAbs).toList)) =
      'e' :: ((if 0 ≤ scale then "+" else "") ++ toString scale).toList := by
  by_cases hneg : scale < 0
  · rw [if_neg (by omega), decide_eq_true hneg, exponentText, String.empty_append,
      toString_toList_of_neg hneg]
  · rw [if_pos (by omega), decide_eq_false hneg, exponentText, String.toList_append,
      toString_toList_of_nonneg (by omega)]
    rfl

theorem exponentValue_eq (scale : Int) :
    exponentValue (some (decide (scale < 0), (toString scale.natAbs).toList)) = scale := by
  by_cases hneg : scale < 0
  · rw [decide_eq_true hneg, exponentValue, digitsValue_toString]
    omega
  · rw [decide_eq_false hneg, exponentValue, digitsValue_toString]
    omega

/-- A decimal with an exponent. -/
theorem writes_scientific {first : Char} {more : List Char}
    (hdigits : (toString decimal.digits).toList = first :: more)
    (hsize : decimal.exponent + more.length ≤ exponentLimit) :
    (⟨negative, [first], more, some (decide (decimal.exponent + more.length < 0),
      (toString (decimal.exponent + more.length).natAbs).toList)⟩ : WrittenNumber).Writes
        negative decimal (decimal.scientific true) where
  text_eq := by
    have hscale : decimal.exponent + (first :: more).length - 1 =
        decimal.exponent + more.length := by
      rw [List.length_cons]
      omega
    have hmantissa : (if (first :: more).length = 1 then String.ofList (first :: more)
        else Decimal.pointAfter 1 (first :: more)).toList = first :: fractionText more := by
      cases more with
      | nil =>
        rw [if_pos List.length_singleton, String.toList_ofList]
        rfl
      | cons second more =>
        rw [if_neg (by simp)]
        simp [Decimal.pointAfter, fractionText]
    simp only [Decimal.scientific, hdigits, hscale, Bool.true_and, decide_eq_true_eq]
    simp only [String.toList_append, hmantissa, WrittenNumber.text, exponentText_eq]
    simp
  proper := by
    refine ⟨List.cons_ne_nil _ _, ?_, ?_, ?_, ?_⟩
    · intro c hmem
      rw [List.mem_singleton.1 hmem]
      exact isDigit_of_mem_toString (hdigits ▸ List.mem_cons_self)
    · intro hhead
      rw [Option.some.inj hhead]
    · exact fun c hmem => isDigit_of_mem_toString (hdigits ▸ List.mem_cons_of_mem _ hmem)
    · rintro below scale hexponent
      obtain ⟨-, rfl⟩ := Prod.mk.inj (Option.some.inj hexponent)
      exact ⟨toString_ne_nil _, fun _ => isDigit_of_mem_toString⟩
  negative_eq := rfl
  marked := .inr (Option.some_ne_none _)
  power_le := by
    rw [exponentValue_eq]
    exact hsize
  value_eq := by
    rw [exponentValue_eq, WrittenNumber.digits, List.singleton_append, ← hdigits,
      digitsValue_toString, Int.add_sub_cancel]

/-- What is written of a decimal in a document are the parts of a number. -/
theorem exists_writes (hplain : decimal = ⟨0, 0⟩ ∨ decimal.digits ≠ 0 ∧
      (Binary64.ofDecimal false decimal.digits decimal.exponent).isFinite = true) :
    ∃ number : WrittenNumber, number.Writes negative decimal (decimal.render .wire) := by
  have hlimit : (Binary64.wholeDigitsLimit : Int) = 309 := rfl
  have hnonempty := List.length_pos_iff.2 (toString_ne_nil decimal.digits)
  have hsize : decimal.digits ≠ 0 →
      ((toString decimal.digits).toList.length : Int) + decimal.exponent ≤ 309 := by
    intro hdigits
    rcases hplain with rfl | ⟨-, hfinite⟩
    · exact absurd rfl hdigits
    · exact Binary64.length_add_exponent_le hdigits hfinite
  have hpositional : ∃ number : WrittenNumber,
      number.Writes negative decimal (decimal.positional true) := by
    by_cases hpointless : 0 ≤ decimal.exponent
    · obtain ⟨places, hplaces⟩ := Int.eq_ofNat_of_zero_le hpointless
      refine ⟨_, writes_whole negative hplaces (hplain.imp_right ?_)⟩
      rintro ⟨hdigits, -⟩
      have := hsize hdigits
      exact ⟨hdigits, by omega⟩
    · by_cases hpos : 0 < (toString decimal.digits).toList.length + decimal.exponent
      · obtain ⟨whole, hwhole⟩ := Int.eq_ofNat_of_zero_le (Int.le_of_lt hpos)
        exact ⟨_, writes_inside negative (by omega) hwhole (by omega)⟩
      · obtain ⟨zeros, hzeros⟩ := Int.eq_ofNat_of_zero_le
          (show 0 ≤ -((toString decimal.digits).toList.length + decimal.exponent) by omega)
        have hbelow : (toString decimal.digits).toList.length + decimal.exponent =
            -(zeros : Int) := by omega
        exact ⟨_, writes_below negative hbelow⟩
  simp only [Decimal.render, NumeralStyle.wire]
  split
  · exact hpositional
  · rename_i hlarge
    have hdigits : decimal.digits ≠ 0 := by
      intro hzero
      simp [hzero] at hlarge
    obtain ⟨first, more, hmore⟩ := List.exists_cons_of_ne_nil (toString_ne_nil decimal.digits)
    have hbound := hsize hdigits
    rw [hmore, List.length_cons] at hbound
    have hexponent : (exponentLimit : Int) = 2147483647 := rfl
    exact ⟨_, writes_scientific negative hmore (by omega)⟩

end Decimal

theorem render_wire_toList {x : Binary64} (hfinite : x.isFinite = true) :
    (x.render .wire).toList = (if x.isNegative then ['-'] else []) ++
      ((x.shortestDecimal .toEven).render .wire).toList := by
  have hnumber : x.isNaN = false := by
    have : x.magnitude < Binary64.infinityMagnitude := of_decide_eq_true hfinite
    exact decide_eq_false (by omega)
  rw [Binary64.render, if_neg (by simp [hnumber]), if_pos hfinite, String.toList_append,
    Binary64.signText]
  split <;> rfl

/-- The parts of a number are those of the numeral of a binary64 number. -/
structure WrittenNumber.IsDouble (number : WrittenNumber) (x : Binary64) : Prop where
  /-- They make the numeral. -/
  text_eq : number.text = (x.render .wire).toList
  /-- They can be read. -/
  proper : number.Proper
  /-- There is a fraction or an exponent. -/
  marked : number.fraction ≠ [] ∨ number.exponent ≠ none
  /-- The exponent is not out of all proportion. -/
  power_le : exponentValue number.exponent ≤ exponentLimit
  /-- They have the value of the number. -/
  value_eq : Binary64.ofDecimal number.negative number.digits
    (exponentValue number.exponent - number.fraction.length) = x

theorem exists_isDouble {x : Binary64} (hfinite : x.isFinite = true) :
    ∃ number : WrittenNumber, number.IsDouble x := by
  obtain ⟨number, hwrites⟩ :=
    exists_writes x.isNegative (Binary64.shortestDecimal_eq_zero_or .toEven hfinite)
  refine ⟨number, ?_, hwrites.proper, hwrites.marked, hwrites.power_le, ?_⟩
  · rw [hwrites.text_eq, render_wire_toList hfinite]
  · rw [hwrites.negative_eq, hwrites.value_eq, Binary64.ofDecimal_shortestDecimal _ hfinite]

/-- A binary64 number is read back from its numeral. -/
theorem reads_readNumber_double {x : Binary64} (hfinite : x.isFinite = true) {rest : List Char}
    (hends : EndsNumber rest) :
    Reads readNumber ((x.render .wire).toList ++ rest) (.double x) rest := by
  obtain ⟨number, hdouble⟩ := exists_isDouble hfinite
  rw [← hdouble.text_eq]
  exact number.reads_readNumber hdouble.proper hends
    (number.evaluate_eq_double hdouble.marked hdouble.power_le hfinite hdouble.value_eq rest)

end Recollection.Json
