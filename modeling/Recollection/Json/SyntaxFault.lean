/-!
# Faults of syntax

A text that holds no document has a fault of syntax, which names its cause and the number of bytes
behind the place where it shows. Line and column follow from that number and the whole text.
-/

set_option autoImplicit false

namespace Recollection

/-- What makes a text no document. -/
inductive SyntaxCause
  /-- The text ends where a value is due. -/
  | endInValue
  /-- The text ends inside a list. -/
  | endInList
  /-- The text ends inside an object. -/
  | endInObject
  /-- The text ends inside a string. -/
  | endInString
  /-- No value starts here. -/
  | valueExpected
  /-- A word that starts like `null`, `true` or `false` and goes on differently. -/
  | wordExpected
  /-- An item is followed by neither a comma nor the end of the list. -/
  | listSeparatorExpected
  /-- A member is followed by neither a comma nor the end of the object. -/
  | objectSeparatorExpected
  /-- A key is not followed by a colon. -/
  | colonExpected
  /-- A comma is followed by the end of its list or object. -/
  | trailingComma
  /-- A member does not start with a string. -/
  | keyNotString
  /-- Lists and objects are nested too deeply. -/
  | tooDeep
  /-- A control character stands in a string. -/
  | controlCharacter
  /-- A backslash is followed by no escape. -/
  | invalidEscape
  /-- An escaped surrogate has no partner. -/
  | loneSurrogate
  /-- An escaped leading surrogate is not followed by an escape. -/
  | unpairedSurrogate
  /-- A number is malformed. -/
  | invalidNumber
  /-- A number is beyond the binary64 numbers. -/
  | numberOutOfRange
  /-- The document is followed by more than blanks. -/
  | trailingCharacters
deriving DecidableEq, Repr

namespace SyntaxCause

/-- The wording of a cause. -/
def text : SyntaxCause → String
  | endInValue => "EOF while parsing a value"
  | endInList => "EOF while parsing a list"
  | endInObject => "EOF while parsing an object"
  | endInString => "EOF while parsing a string"
  | valueExpected => "expected value"
  | wordExpected => "expected ident"
  | listSeparatorExpected => "expected `,` or `]`"
  | objectSeparatorExpected => "expected `,` or `\x7d`"
  | colonExpected => "expected `:`"
  | trailingComma => "trailing comma"
  | keyNotString => "key must be a string"
  | tooDeep => "recursion limit exceeded"
  | controlCharacter => "control character (\\u0000-\\u001F) found while parsing a string"
  | invalidEscape => "invalid escape"
  | loneSurrogate => "lone leading surrogate in hex escape"
  | unpairedSurrogate => "unexpected end of hex escape"
  | invalidNumber => "invalid number"
  | numberOutOfRange => "number out of range"
  | trailingCharacters => "trailing characters"

end SyntaxCause

/-- Why and where a text is no document. -/
structure SyntaxFault where
  /-- The cause. -/
  cause : SyntaxCause
  /-- The bytes behind the place of the fault. -/
  left : Nat
deriving DecidableEq, Repr

/-- The length of some characters in bytes. -/
def byteLength (text : List Char) : Nat :=
  text.foldl (fun bytes c => bytes + c.utf8Size) 0

namespace SyntaxFault

/-- A fault that shows where the text `rest` starts. -/
def before (cause : SyntaxCause) (rest : List Char) : SyntaxFault :=
  ⟨cause, byteLength rest⟩

/-- A fault that shows behind the next byte of `rest`, or at the end if there is none. -/
def next (cause : SyntaxCause) (rest : List Char) : SyntaxFault :=
  ⟨cause, byteLength rest - 1⟩

/-- Line and column of the place with `count` bytes before it; columns count bytes. -/
def position (count : Nat) : List Char → Nat → Nat → Nat × Nat
  | [], line, column => (line, column + count)
  | c :: rest, line, column =>
    if count = 0 then (line, column)
    else if c = '\n' then position (count - 1) rest (line + 1) 0
    else position (count - c.utf8Size) rest line (column + min count c.utf8Size)

/-- The wording of a fault in a text. -/
def message (fault : SyntaxFault) (text : String) : String :=
  let characters := text.toList
  let (line, column) := position (byteLength characters - fault.left) characters 1 0
  s!"{fault.cause.text} at line {line} column {column}"

end SyntaxFault

end Recollection
