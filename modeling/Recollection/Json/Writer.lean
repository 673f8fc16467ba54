import Recollection.Json.Value
import Recollection.Number.Numeral
/-!
# Writing documents

The compact form has no blanks. The canonical form of a document is the compact form of its normal
form, so it depends only on the value. The pretty form puts every item and every member on a line of
its own, members in the order of the object.
-/

set_option autoImplicit false

namespace Recollection.Json

/-- The two lower-case hexadecimal digits of a code below 32. -/
def controlDigits (code : Nat) : List Char :=
  [if code < 16 then '0' else '1', (code % 16).digitChar]

/-- A character inside a string: quotation marks, backslashes and controls are escaped. -/
def writeChar (c : Char) : List Char :=
  match c with
  | '"' => ['\\', '"']
  | '\\' => ['\\', '\\']
  | '\x08' => ['\\', 'b']
  | '\x0c' => ['\\', 'f']
  | '\n' => ['\\', 'n']
  | '\r' => ['\\', 'r']
  | '\t' => ['\\', 't']
  | c => if c.toNat < 32 then ['\\', 'u', '0', '0'] ++ controlDigits c.toNat else [c]

/-- A string between quotation marks. -/
def writeString (text : String) : List Char :=
  '"' :: text.toList.flatMap writeChar ++ ['"']

/-- A binary64 number; one that has no numeral is written as null. -/
def writeDouble (x : Binary64) : List Char :=
  if x.isFinite then (x.render .wire).toList else "null".toList

mutual

/-- The compact form. -/
def write : Json → List Char
  | .null => "null".toList
  | .bool true => "true".toList
  | .bool false => "false".toList
  | .integer value => (toString value).toList
  | .double value => writeDouble value
  | .string value => writeString value
  | .array [] => ['[', ']']
  | .array (item :: rest) => '[' :: item.write ++ writeItems rest
  | .object [] => ['\x7b', '\x7d']
  | .object ((key, value) :: rest) =>
    '\x7b' :: writeString key ++ ':' :: value.write ++ writeMembers rest

/-- The items behind the first one, and the end of the list. -/
def writeItems : List Json → List Char
  | [] => [']']
  | item :: rest => ',' :: item.write ++ writeItems rest

/-- The members behind the first one, and the end of the object. -/
def writeMembers : List (String × Json) → List Char
  | [] => ['\x7d']
  | (key, value) :: rest => ',' :: writeString key ++ ':' :: value.write ++ writeMembers rest

end

/-- The compact text of a document. -/
def compact (document : Json) : String :=
  String.ofList document.write

/-- The canonical text of a value. -/
def canonical (document : Json) : String :=
  document.normal.compact

/-- The length of the compact text in bytes. -/
def compactSize (document : Json) : Nat :=
  document.compact.utf8ByteSize

/-- A line break and the indentation of a level. -/
def newLine (level : Nat) : List Char :=
  '\n' :: List.replicate (2 * level) ' '

mutual

/-- The pretty form at a level of nesting. -/
def writePretty (level : Nat) : Json → List Char
  | .array [] => ['[', ']']
  | .array (item :: rest) =>
    '[' :: newLine (level + 1) ++ item.writePretty (level + 1) ++ writePrettyItems level rest
  | .object [] => ['\x7b', '\x7d']
  | .object ((key, value) :: rest) =>
    '\x7b' :: newLine (level + 1) ++ writeString key ++ ':' :: ' ' ::
      value.writePretty (level + 1) ++ writePrettyMembers level rest
  | .null => "null".toList
  | .bool true => "true".toList
  | .bool false => "false".toList
  | .integer value => (toString value).toList
  | .double value => writeDouble value
  | .string value => writeString value

/-- The items behind the first one, and the end of the list, at a level of nesting. -/
def writePrettyItems (level : Nat) : List Json → List Char
  | [] => newLine level ++ [']']
  | item :: rest =>
    ',' :: newLine (level + 1) ++ item.writePretty (level + 1) ++ writePrettyItems level rest

/-- The members behind the first one, and the end of the object, at a level of nesting. -/
def writePrettyMembers (level : Nat) : List (String × Json) → List Char
  | [] => newLine level ++ ['\x7d']
  | (key, value) :: rest =>
    ',' :: newLine (level + 1) ++ writeString key ++ ':' :: ' ' ::
      value.writePretty (level + 1) ++ writePrettyMembers level rest

end

/-- The pretty text of a document. -/
def pretty (document : Json) : String :=
  String.ofList (document.writePretty 0)

end Recollection.Json
