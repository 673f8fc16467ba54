import Recollection.Json.SyntaxFault
import Recollection.Json.Value
import Recollection.Number.Reading
import Recollection.Text.Hexadecimal
/-!
# Words, strings and numbers of a document

A reader takes the text that is left and yields a value and the shorter text behind it; the
shortening is part of its result, so that what is made of several tokens is read by recursion on the
length of the text.
-/

set_option autoImplicit false

namespace Recollection.Json

/-- A value that was read, and the text behind it. -/
structure Reading (α : Type) (text : List Char) where
  /-- The value. -/
  value : α
  /-- The text behind it. -/
  rest : List Char
  /-- Something was read. -/
  shorter : rest.length < text.length

/-- A reader of values. -/
abbrev Reader (α : Type) :=
  (text : List Char) → Except SyntaxFault (Reading α text)

/-- The blanks between the tokens of a document. -/
def isSpace (c : Char) : Bool :=
  c == ' ' || c == '\n' || c == '\t' || c == '\r'

/-- The text without leading blanks. -/
def skipSpace (text : List Char) : List Char :=
  text.dropWhile isSpace

theorem length_skipSpace_le (text : List Char) : (skipSpace text).length ≤ text.length :=
  (List.dropWhile_sublist isSpace).length_le

/-- What was read from the end of a text was read from the text. -/
def Reading.widen {α : Type} {inner outer : List Char} (reading : Reading α inner)
    (h : inner.length ≤ outer.length) : Reading α outer :=
  ⟨reading.value, reading.rest, Nat.lt_of_lt_of_le reading.shorter h⟩

/-- What was read, made into another value. -/
def Reading.map {α β : Type} {text : List Char} (f : α → β) (reading : Reading α text) :
    Reading β text :=
  ⟨f reading.value, reading.rest, reading.shorter⟩

/-! ## Words -/

/-- Reads the given characters. -/
def readWord : (word text : List Char) → Except SyntaxFault { rest : List Char //
    rest.length ≤ text.length }
  | [], text => .ok ⟨text, Nat.le_refl _⟩
  | _ :: _, [] => .error (.before .endInValue [])
  | expected :: word, c :: rest =>
    if c = expected then
      match readWord word rest with
      | .ok ⟨left, h⟩ => .ok ⟨left, Nat.le_succ_of_le h⟩
      | .error fault => .error fault
    else .error (.next .wordExpected (c :: rest))

/-! ## Strings -/

/-- The four hexadecimal digits of an escape. -/
def readHex : Reader Nat := fun text =>
  if byteLength (text.take 4) < 4 then .error (.before .endInString [])
  else
    match text with
    | a :: b :: c :: d :: rest =>
      match Text.hexValue? a, Text.hexValue? b, Text.hexValue? c, Text.hexValue? d with
      | some a, some b, some c, some d =>
        .ok ⟨((a * 16 + b) * 16 + c) * 16 + d, rest, by simp only [List.length_cons]; omega⟩
      | _, _, _, _ => .error ⟨.invalidEscape, byteLength text - 4⟩
    | _ => .error ⟨.invalidEscape, byteLength text - 4⟩

/-- Reads the given character inside an escaped surrogate pair. -/
def readPairMark (mark : Char) : Reader Unit
  | [] => .error (.before .endInString [])
  | c :: rest =>
    if c = mark then .ok ⟨(), rest, by simp⟩ else .error (.next .unpairedSurrogate (c :: rest))

/-- The escaped character behind `\u`: one escape, or two for a surrogate pair. -/
def readEscapedPoint : Reader Char := fun text => do
  let first ← readHex text
  if first.value < 0xD800 || 0xDFFF < first.value then
    return ⟨Char.ofNat first.value, first.rest, first.shorter⟩
  else if 0xDC00 ≤ first.value then
    throw (.before .loneSurrogate first.rest)
  else
    let backslash ← readPairMark '\\' first.rest
    let letter ← readPairMark 'u' backslash.rest
    let second ← readHex letter.rest
    if second.value < 0xDC00 || 0xDFFF < second.value then
      throw (.before .loneSurrogate second.rest)
    else
      return ⟨Char.ofNat (0x10000 + (first.value - 0xD800) * 0x400 + (second.value - 0xDC00)),
        second.rest, by
          have h₁ := first.shorter
          have h₂ := backslash.shorter
          have h₃ := letter.shorter
          have h₄ := second.shorter
          omega⟩

/-- The character that a letter behind a backslash stands for. -/
def simpleEscape? : Char → Option Char
  | '"' => some '"'
  | '\\' => some '\\'
  | '/' => some '/'
  | 'b' => some '\x08'
  | 'f' => some '\x0c'
  | 'n' => some '\n'
  | 'r' => some '\r'
  | 't' => some '\t'
  | _ => none

/-- The character behind a backslash. -/
def readEscape : Reader Char
  | [] => .error (.before .endInString [])
  | c :: rest =>
    if c = 'u' then
      (readEscapedPoint rest).map fun reading => reading.widen (by simp)
    else
      match simpleEscape? c with
      | some escaped => .ok ⟨escaped, rest, by simp⟩
      | none => .error (.next .invalidEscape (c :: rest))

/-- The characters of a string up to its closing quotation mark. -/
def readStringBody (text : List Char) : Except SyntaxFault (Reading (List Char) text) :=
  match text with
  | [] => .error (.before .endInString [])
  | c :: rest =>
    if c = '"' then .ok ⟨[], rest, by simp⟩
    else if c = '\\' then
      match readEscape rest with
      | .error fault => .error fault
      | .ok escape =>
        have := escape.shorter
        match readStringBody escape.rest with
        | .error fault => .error fault
        | .ok body => .ok ⟨escape.value :: body.value, body.rest, by
            have := body.shorter; simp only [List.length_cons]; omega⟩
    else if c.toNat < 0x20 then .error (.before .controlCharacter rest)
    else
      match readStringBody rest with
      | .error fault => .error fault
      | .ok body => .ok ⟨c :: body.value, body.rest, by
          have := body.shorter; simp only [List.length_cons]; omega⟩
termination_by text.length
decreasing_by all_goals simp_all <;> omega

/-- The text of a string behind its opening quotation mark. -/
def readString : Reader String := fun text =>
  (readStringBody text).map (Reading.map String.ofList)

/-! ## Numbers -/

/-- One or more digits. The two faults differ in whether the next byte counts as read. -/
def readDigits (atEnd atOther : List Char → SyntaxFault) (text : List Char) :
    Except SyntaxFault (Reading (List Char) text) :=
  match text with
  | [] => .error (atEnd [])
  | c :: rest =>
    if c.isDigit then
      .ok ⟨c :: rest.takeWhile Char.isDigit, rest.dropWhile Char.isDigit, by
        have := (List.dropWhile_sublist (l := rest) Char.isDigit).length_le
        simp only [List.length_cons]; omega⟩
    else .error (atOther (c :: rest))

/-- The largest exponent that is followed digit by digit. -/
def exponentLimit : Nat := 2147483647

/-- How many digits of an exponent are read when its value passes the limit on the way. -/
def digitsToLimit (value count : Nat) : List Char → Nat
  | [] => count
  | c :: rest =>
    let value := 10 * value + Numeral.digitValue c
    if exponentLimit < value then count + 1 else digitsToLimit value (count + 1) rest

/-- The fraction of a number, if there is one: its digits and the text behind them. -/
def readFraction (text : List Char) :
    Except SyntaxFault { r : List Char × List Char // r.2.length ≤ text.length } :=
  match text with
  | '.' :: rest =>
    (readDigits (.next .endInValue) (.next .invalidNumber) rest).map fun digits =>
      ⟨(digits.value, digits.rest), Nat.le_succ_of_le (Nat.le_of_lt digits.shorter)⟩
  | other => .ok ⟨([], other), Nat.le_refl _⟩

/-- The exponent of a number, if there is one: its sign, its digits and the text behind them. -/
def readExponent (text : List Char) :
    Except SyntaxFault { r : Option (Bool × List Char) × List Char // r.2.length ≤ text.length } :=
  match text with
  | [] => .ok ⟨(none, []), Nat.le_refl _⟩
  | mark :: rest =>
    if mark = 'e' || mark = 'E' then
      let sign := match rest with
        | '+' :: _ => (false, 1)
        | '-' :: _ => (true, 1)
        | _ => (false, 0)
      (readDigits (.before .endInValue) (.next .invalidNumber) (rest.drop sign.2)).map fun digits =>
        ⟨(some (sign.1, digits.value), digits.rest), by
          have := digits.shorter
          have := (List.drop_sublist sign.2 rest).length_le
          simp only [List.length_cons]
          omega⟩
    else .ok ⟨(none, mark :: rest), Nat.le_refl _⟩

/-- The greatest magnitude of a negative integer. -/
def negativeLimit : Nat :=
  0x8000000000000000

/-- A number as it is written. -/
structure WrittenNumber where
  /-- Whether it has a minus. -/
  negative : Bool
  /-- The digits in front of the point. -/
  whole : List Char
  /-- The digits behind the point. -/
  fraction : List Char
  /-- The exponent, if there is one: whether it has a minus, and its digits. -/
  exponent : Option (Bool × List Char)

/-- The value of a number; `rest` is the text behind it. -/
def WrittenNumber.evaluate (number : WrittenNumber) (rest : List Char) :
    Except SyntaxFault Json :=
  let digits := Numeral.digitsValue (number.whole ++ number.fraction)
  let places := number.fraction.length
  match number.exponent with
  | none =>
    if places = 0 && !number.negative && decide (digits < UInt64.size) then .ok (.integer digits)
    else if places = 0 && number.negative && decide (0 < digits) &&
        decide (digits ≤ negativeLimit) then
      .ok (.integer (-digits))
    else
      let x := Binary64.ofDecimal number.negative digits (-places)
      if x.isFinite then .ok (.double x) else .error (.before .numberOutOfRange rest)
  | some (below, power) =>
    let value := Numeral.digitsValue power
    if !below && decide (0 < digits) && decide (exponentLimit < value) then
      let unread := power.length - digitsToLimit 0 0 power
      .error ⟨.numberOutOfRange, byteLength rest + unread⟩
    else
      let scale : Int := (if below then -(value : Int) else value) - places
      let x := Binary64.ofDecimal number.negative digits scale
      if x.isFinite then .ok (.double x) else .error (.before .numberOutOfRange rest)

/-- A number: an optional minus, digits without a superfluous zero in front, and optionally a
fraction and an exponent. -/
def readWrittenNumber : Reader WrittenNumber := fun text => do
  let negative := match text with
    | '-' :: _ => true
    | _ => false
  let unsigned := text.drop (if negative then 1 else 0)
  let whole ← readDigits (.before .endInValue) (.next .invalidNumber) unsigned
  match whole.value with
  | '0' :: _ :: _ => throw ⟨.invalidNumber, byteLength unsigned - 2⟩
  | _ =>
    let fraction ← readFraction whole.rest
    let exponent ← readExponent fraction.val.2
    return ⟨⟨negative, whole.value, fraction.val.1, exponent.val.1⟩, exponent.val.2, by
      have := whole.shorter
      have := fraction.property
      have := exponent.property
      have : unsigned.length ≤ text.length := (List.drop_sublist _ text).length_le
      omega⟩

/-- A number, by its value. -/
def readNumber : Reader Json := fun text => do
  let written ← readWrittenNumber text
  let value ← written.value.evaluate written.rest
  return written.map fun _ => value

end Recollection.Json
