import Recollection.Number.Reading
import Recollection.Json.Value
import Recollection.Text.Hexadecimal
/-!
# Keys, strings and numbers of a TOML text

A reader takes what it reads from the front of a text and hands back the rest, or fails. What may
follow is decided by whoever reads on: a number that is not followed by the end of its value is
refused there.
-/

set_option autoImplicit false

namespace Recollection.Toml

/-- Reads from the front of a text. -/
abbrev Reader (α : Type) : Type :=
  List Char → Option (α × List Char)

/-! ## Characters -/

/-- Whether a character is a space or a tab. -/
def isSpace (c : Char) : Bool :=
  c == ' ' || c == '\t'

/-- Whether a character may stand as itself in strings and comments. -/
def isTextChar (c : Char) : Bool :=
  c == '\t' || (0x20 ≤ c.toNat && c.toNat != 0x7F)

/-- Whether a character may stand in a key without quotes. -/
def isBareKeyChar (c : Char) : Bool :=
  c.isAlphanum || c == '_' || c == '-'

/-- The text behind spaces and tabs. -/
def skipSpaces (text : List Char) : List Char :=
  text.dropWhile isSpace

/-- The text behind a line break, if it starts with one. -/
def afterBreak? : List Char → Option (List Char)
  | '\n' :: rest => some rest
  | '\r' :: '\n' :: rest => some rest
  | _ => none

/-- The text behind spaces and line breaks. -/
def skipBreaks : List Char → List Char
  | [] => []
  | '\n' :: rest => skipBreaks rest
  | '\r' :: '\n' :: rest => skipBreaks rest
  | c :: rest => if isSpace c then skipBreaks rest else c :: rest

/-- The text behind spaces, line breaks and comments. -/
def skipLines (inComment : Bool) : List Char → List Char
  | [] => []
  | '\n' :: rest => skipLines false rest
  | '\r' :: '\n' :: rest => skipLines false rest
  | c :: rest =>
    if inComment then if isTextChar c then skipLines true rest else c :: rest
    else if isSpace c then skipLines false rest
    else if c == '#' then skipLines true rest
    else c :: rest

/-- The text behind the end of a line, which may hold a comment. -/
def readLineEnd (text : List Char) : Option (List Char) :=
  let rest := match skipSpaces text with
    | '#' :: comment => comment.dropWhile isTextChar
    | other => other
  if rest.isEmpty then some [] else afterBreak? rest

/-! ## Strings -/

/-- The character with a code of a set number of hexadecimal digits. -/
def readCode (count : Nat) : Reader Char := fun text =>
  let digits := text.take count
  let code := Text.valueInBase 16 digits
  if digits.length = count && digits.all Text.isHexDigit && code.isValidChar then
    some (Char.ofNat code, text.drop count)
  else none

/-- The character of an escape, behind the backslash. -/
def readEscape : Reader Char
  | 'b' :: rest => some ('\x08', rest)
  | 't' :: rest => some ('\t', rest)
  | 'n' :: rest => some ('\n', rest)
  | 'f' :: rest => some ('\x0c', rest)
  | 'r' :: rest => some ('\r', rest)
  | '"' :: rest => some ('"', rest)
  | '\\' :: rest => some ('\\', rest)
  | 'u' :: rest => readCode 4 rest
  | 'U' :: rest => readCode 8 rest
  | _ => none

/-- The rest of a string of one line, in at most `steps` characters; only a string between double
quotes has escapes. -/
def readLineString (quote : Char) : (steps : Nat) → List Char → Reader String
  | 0, _, _ => none
  | _, _, [] => none
  | steps + 1, taken, c :: rest =>
    if c == quote then some (String.ofList taken.reverse, rest)
    else if c == '\\' && quote == '"' then do
      let (escaped, rest) ← readEscape rest
      readLineString quote steps (escaped :: taken) rest
    else if isTextChar c then readLineString quote steps (c :: taken) rest
    else none

/-- The rest of a string of several lines, in at most `steps` steps. It ends at three quotes, and up
to two more quotes before them belong to it. Between double quotes, a backslash at the end of a line
takes away the line break, and all spaces and line breaks behind it. -/
def readBlockString (quote : Char) : (steps : Nat) → List Char → Reader String
  | 0, _, _ => none
  | _, _, [] => none
  | steps + 1, taken, c :: rest =>
    if c == quote then
      let more := (rest.takeWhile (· == quote)).length
      let behind := rest.drop more
      if more < 2 then
        readBlockString quote steps (List.replicate (more + 1) quote ++ taken) behind
      else if more < 5 then
        some (String.ofList (List.replicate (more - 2) quote ++ taken).reverse, behind)
      else none
    else if c == '\\' && quote == '"' then
      match afterBreak? (skipSpaces rest) with
      | some behind => readBlockString quote steps taken (skipBreaks behind)
      | none => do
        let (escaped, rest) ← readEscape rest
        readBlockString quote steps (escaped :: taken) rest
    else
      match afterBreak? (c :: rest) with
      | some behind => readBlockString quote steps ('\n' :: taken) behind
      | none => if isTextChar c then readBlockString quote steps (c :: taken) rest else none

/-- A string, behind its first quote; a line break right behind three quotes does not count. -/
def readString (quote : Char) : Reader String := fun text =>
  match text with
  | a :: b :: rest =>
    if a == quote && b == quote then
      readBlockString quote text.length [] ((afterBreak? rest).getD rest)
    else readLineString quote text.length [] text
  | _ => readLineString quote text.length [] text

/-! ## Keys -/

/-- One key: bare characters, or a string of one line. -/
def readSimpleKey : Reader String
  | '"' :: rest => readLineString '"' (rest.length + 1) [] rest
  | '\'' :: rest => readLineString '\'' (rest.length + 1) [] rest
  | text =>
    let bare := text.takeWhile isBareKeyChar
    if bare.isEmpty then none else some (String.ofList bare, text.dropWhile isBareKeyChar)

/-- The greatest depth of lists and tables within each other, and the greatest number of keys with
dots between them. -/
def depthLimit : Nat := 79

/-- One or more keys with dots between them and spaces around them, at most `count`. -/
def readKeys : (count : Nat) → Reader (List String)
  | 0, _ => none
  | count + 1, text => do
    let (key, rest) ← readSimpleKey (skipSpaces text)
    match skipSpaces rest with
    | '.' :: rest => do
      let (keys, rest) ← readKeys count rest
      return (key :: keys, rest)
    | rest => return ([key], rest)

/-- The keys of a line or a header: those on the way, and the last one. -/
def readPath : Reader (List String × String) := fun text => do
  let (keys, rest) ← readKeys depthLimit text
  return ((keys.dropLast, keys.getLastD ""), rest)

/-! ## Numbers -/

/-- The digits at the front, which may have single underscores between them. -/
def moreDigits (isDigit : Char → Bool) : List Char → List Char × List Char
  | '_' :: c :: rest =>
    if isDigit c then
      let (digits, rest) := moreDigits isDigit rest
      (c :: digits, rest)
    else ([], '_' :: c :: rest)
  | c :: rest =>
    if isDigit c then
      let (digits, rest) := moreDigits isDigit rest
      (c :: digits, rest)
    else ([], c :: rest)
  | [] => ([], [])

/-- One or more digits. -/
def readDigits (isDigit : Char → Bool) : Reader (List Char)
  | c :: rest =>
    if isDigit c then
      let (digits, rest) := moreDigits isDigit rest
      some (c :: digits, rest)
    else none
  | [] => none

/-- A decimal integer without sign; only zero itself starts with a zero. -/
def readWhole : Reader (List Char)
  | '0' :: rest => some (['0'], rest)
  | text => readDigits Char.isDigit text

/-- An integer in `-2 ^ 63 ≤ n < 2 ^ 63`. -/
def integer? (value : Int) : Option Json :=
  if Int64.minValue.toInt ≤ value && value ≤ Int64.maxValue.toInt then some (.integer value)
  else none

/-- An integer in a base that is a power of two. -/
def readInBase (base : Nat) (isDigit : Char → Bool) : Reader Json := fun text => do
  let (digits, rest) ← readDigits isDigit text
  return (← integer? (Text.valueInBase base digits), rest)

/-- The fraction of a number, if there is one. -/
def readFraction : Reader (Option (List Char))
  | '.' :: rest => do
    let (digits, rest) ← readDigits Char.isDigit rest
    return (some digits, rest)
  | text => some (none, text)

/-- The exponent of a number, if there is one. -/
def readExponent : Reader (Option Int)
  | c :: rest =>
    if c == 'e' || c == 'E' then do
      let (negative, rest) := Numeral.takeSign rest
      let (digits, rest) ← readDigits Char.isDigit rest
      let size : Int := Numeral.digitsValue digits
      return (some (if negative then -size else size), rest)
    else some (none, c :: rest)
  | [] => some (none, [])

/-- A number behind its sign: one with a fraction or an exponent is a binary64 number, which must
not lie above them all. -/
def readUnsigned (negative : Bool) : Reader Json
  | 'i' :: 'n' :: 'f' :: rest => some (.double (.infinity negative), rest)
  | 'n' :: 'a' :: 'n' :: rest => some (.double .nan, rest)
  | text => do
    let (whole, rest) ← readWhole text
    let (fraction, rest) ← readFraction rest
    let (exponent, rest) ← readExponent rest
    if fraction.isNone && exponent.isNone then
      let size : Int := Numeral.digitsValue whole
      return (← integer? (if negative then -size else size), rest)
    let fraction := fraction.getD []
    let number := Binary64.ofDecimal negative (Numeral.digitsValue (whole ++ fraction))
      (exponent.getD 0 - fraction.length)
    if number = .infinity false then none else return (.double number, rest)

/-- A number. -/
def readNumber : Reader Json
  | '0' :: 'x' :: rest => readInBase 16 Text.isHexDigit rest
  | '0' :: 'o' :: rest => readInBase 8 (fun c => '0' ≤ c && c ≤ '7') rest
  | '0' :: 'b' :: rest => readInBase 2 (fun c => c == '0' || c == '1') rest
  | text =>
    let (negative, rest) := Numeral.takeSign text
    readUnsigned negative rest

end Recollection.Toml
