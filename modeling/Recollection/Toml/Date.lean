import Recollection.Time.Calendar
import Recollection.Toml.Scalar
/-!
# Dates of a TOML text

No setting is a date, but a value that is ignored may be one: a date, a time of day, or both with or
without an offset from universal time. A date stands for an object whose only member holds its text,
so that it is neither a string nor a record with a declared member.
-/

set_option autoImplicit false

namespace Recollection.Toml

/-- The text behind the given character, if it starts with it. -/
def skipMark (mark : Char) : List Char → Option (List Char)
  | c :: rest => if c == mark then some rest else none
  | [] => none

/-- A number of a set count of digits, at most the greatest one. -/
def readPart (count greatest : Nat) : Reader Nat := fun text =>
  let digits := text.take count
  let part := Numeral.digitsValue digits
  if digits.length = count && digits.all Char.isDigit && decide (part ≤ greatest) then
    some (part, text.drop count)
  else none

/-- The text behind a date. -/
def skipDate (text : List Char) : Option (List Char) := do
  let (year, rest) ← readPart 4 9999 text
  let (month, rest) ← readPart 2 12 (← skipMark '-' rest)
  let (day, rest) ← readPart 2 31 (← skipMark '-' rest)
  if (Calendar.Date.mk year month day).isValid then some rest else none

/-- The text behind a time of day; the sixtieth second is a leap second. -/
def skipTime (text : List Char) : Option (List Char) := do
  let (_, rest) ← readPart 2 23 text
  let (_, rest) ← readPart 2 59 (← skipMark ':' rest)
  let (_, rest) ← readPart 2 60 (← skipMark ':' rest)
  match rest with
  | '.' :: fraction =>
    if fraction.head?.any Char.isDigit then some (fraction.dropWhile Char.isDigit) else some rest
  | rest => some rest

/-- The text behind an offset from universal time. -/
def skipOffset : List Char → Option (List Char)
  | c :: rest =>
    if c == 'Z' || c == 'z' then some rest
    else if c == '+' || c == '-' then do
      let (_, rest) ← readPart 2 23 rest
      let (_, rest) ← readPart 2 59 (← skipMark ':' rest)
      return rest
    else none
  | [] => none

/-- The text behind the time of day of a date, if there is one: it follows a letter or a space, and
may be followed by an offset. -/
def skipTimeOfDate : List Char → List Char
  | c :: rest =>
    if c == 'T' || c == 't' || c == ' ' then
      match skipTime rest with
      | some behind => (skipOffset behind).getD behind
      | none => c :: rest
    else c :: rest
  | [] => []

/-- A date, a time of day, or both. -/
def readDate : Reader Json := fun text => do
  let rest ← ((skipDate text).map skipTimeOfDate).or (skipTime text)
  let written := String.ofList (text.take (text.length - rest.length))
  return (.object [("datetime", .string written)], rest)

end Recollection.Toml
