import Recollection.Number.Reading
import Recollection.Text.Blank
import Recollection.Text.Padded
import Recollection.Time.Calendar
/-!
# Timestamps

An instant in universal time, to the nanosecond. It is written as a date, the letter `T`, a time and
the offset, with a fraction of three, six or nine digits if it is not a whole second. A leap second
is the second behind the last one of its minute.

More spellings are read than are written: any offset from universal time, a space for the letter,
and white space around the numbers of date and time.
-/

set_option autoImplicit false

namespace Recollection

/-- An instant. -/
structure Timestamp where
  /-- The seconds since 1970 began, leap seconds apart. -/
  seconds : Int
  /-- The nanoseconds behind that second; a billion and more within a leap second. -/
  nanos : Nat
deriving DecidableEq, Repr

namespace Timestamp

/-- The instant some milliseconds after 1970 began. -/
def ofMillis (millis : Int) : Timestamp :=
  ⟨millis / 1000, (millis % 1000).toNat * 1000000⟩

/-- The instant some nanoseconds after 1970 began. -/
def ofNanos (nanos : Int) : Timestamp :=
  ⟨nanos / 1000000000, (nanos % 1000000000).toNat⟩

/-! ## Writing -/

/-- A year; those that have not four digits have a sign. -/
def yearText (year : Int) : String :=
  if 0 ≤ year && year ≤ 9999 then Text.decimal 4 year.toNat
  else (if year < 0 then "-" else "+") ++ Text.decimal 4 year.natAbs

/-- A fraction of a second, in the fewest groups of three digits. -/
def fractionText (nanos : Nat) : String :=
  if nanos = 0 then ""
  else if nanos % 1000000 = 0 then "." ++ Text.decimal 3 (nanos / 1000000)
  else if nanos % 1000 = 0 then "." ++ Text.decimal 6 (nanos / 1000)
  else "." ++ Text.decimal 9 nanos

/-- A date. -/
def dateText (date : Calendar.Date) : String :=
  yearText date.year ++ "-" ++ Text.decimal 2 date.month ++ "-" ++ Text.decimal 2 date.day

/-- The text of an instant, with the given spelling of universal time at its end. -/
def render (zone : String) (instant : Timestamp) : String :=
  let second := (instant.seconds % 86400).toNat
  let leap := instant.nanos / 1000000000
  dateText (.ofDay (instant.seconds / 86400)) ++ "T" ++ Text.decimal 2 (second / 3600) ++ ":" ++
    Text.decimal 2 (second / 60 % 60) ++ ":" ++ Text.decimal 2 (second % 60 + leap) ++
    fractionText (instant.nanos % 1000000000) ++ zone

/-! ## Reading -/

/-- Reads from the front of a text. -/
abbrev Reader (α : Type) : Type :=
  List Char → Option (α × List Char)

/-- The text behind white space. -/
def skipBlanks (text : List Char) : List Char :=
  text.dropWhile Text.isBlank

/-- A number of at least one and at most `width` digits, behind white space. -/
def readNumber (width : Nat) : Reader Nat := fun text =>
  let text := skipBlanks text
  let digits := (text.take width).takeWhile Char.isDigit
  if digits.isEmpty then none else some (Numeral.digitsValue digits, text.drop digits.length)

/-- A number in a range. -/
def readBetween (low high width : Nat) : Reader Nat := fun text => do
  let (value, rest) ← readNumber width text
  if low ≤ value && value ≤ high then some (value, rest) else none

/-- The text behind a mark, which may have white space in front. -/
def readMark (mark : Char) (text : List Char) : Option (List Char) :=
  match skipBlanks text with
  | c :: rest => if c == mark then some rest else none
  | [] => none

/-- A year: up to four digits, or a sign and any number of digits. -/
def readYear : Reader Int := fun text =>
  let signed (rest : List Char) : Option (Nat × List Char) :=
    if rest.head?.any Char.isDigit then readNumber rest.length rest else none
  match skipBlanks text with
  | '-' :: rest => (signed rest).map fun (year, rest) => (-(year : Int), rest)
  | '+' :: rest => (signed rest).map fun (year, rest) => ((year : Int), rest)
  | text => (readNumber 4 text).map fun (year, rest) => ((year : Int), rest)

/-- The years that are kept count of. -/
def isKnownYear (year : Int) : Bool :=
  -262143 ≤ year && year ≤ 262142

/-- A date. -/
def readDate : Reader Calendar.Date := fun text => do
  let (year, rest) ← readYear text
  let (month, rest) ← readBetween 1 12 2 (← readMark '-' rest)
  let (day, rest) ← readBetween 1 31 2 (← readMark '-' rest)
  let date : Calendar.Date := ⟨year, month, day⟩
  if isKnownYear year && date.isValid then some (date, rest) else none

/-- The nanoseconds of a fraction, if there is one; digits beyond the ninth do not count. -/
def readFraction : Reader Nat
  | '.' :: rest =>
    let digits := rest.takeWhile Char.isDigit
    let counted := digits.take 9
    if digits.isEmpty then none
    else
      some (Numeral.digitsValue counted * Nat.pow 10 (9 - counted.length), rest.drop digits.length)
  | text => some (0, text)

/-- The seconds and nanoseconds of a time of day; the sixtieth second is a leap second. -/
def readTime : Reader (Nat × Nat) := fun text => do
  let (hour, rest) ← readBetween 0 23 2 text
  let (minute, rest) ← readBetween 0 59 2 (← readMark ':' rest)
  let (second, rest) ← readBetween 0 60 2 (← readMark ':' rest)
  let (nanos, rest) ← readFraction rest
  let start := hour * 3600 + minute * 60
  return (if second = 60 then (start + 59, 1000000000 + nanos) else (start + second, nanos), rest)

/-- Two digits. -/
def readPair : Reader Nat
  | a :: b :: rest =>
    if a.isDigit && b.isDigit then some (Numeral.digitsValue [a, b], rest) else none
  | _ => none

/-- The seconds of an offset behind its sign: hours and minutes, with any colons and white space
between them, less than a day together. -/
def readOffsetSize : Reader Nat := fun text => do
  let (hours, rest) ← readPair text
  let (minutes, rest) ← readPair (rest.dropWhile fun c => c == ':' || Text.isBlank c)
  if minutes ≤ 59 && hours ≤ 23 then some (hours * 3600 + minutes * 60, rest) else none

/-- The seconds of an offset from universal time. -/
def readOffset : Reader Int := fun text =>
  if (text.take 3).map Char.toUpper == ['U', 'T', 'C'] then some (0, text.drop 3)
  else
    match text with
    | 'Z' :: rest | 'z' :: rest => some (0, rest)
    | '+' :: rest => (readOffsetSize rest).map fun (size, rest) => ((size : Int), rest)
    | '-' :: rest | '\u2212' :: rest =>
      (readOffsetSize rest).map fun (size, rest) => (-(size : Int), rest)
    | _ => none

/-- The instant that a text names. -/
def read (text : String) : Option Timestamp := do
  let (date, rest) ← readDate text.toList
  let rest ← match rest with
    | 'T' :: rest | 't' :: rest | ' ' :: rest => some rest
    | _ => none
  let ((second, nanos), rest) ← readTime rest
  let (offset, rest) ← readOffset (skipBlanks rest)
  let seconds := date.toDay * 86400 + second - offset
  if (skipBlanks rest).isEmpty && isKnownYear (Calendar.yearOfDay (seconds / 86400)) then
    some ⟨seconds, nanos⟩
  else none

end Timestamp

end Recollection
