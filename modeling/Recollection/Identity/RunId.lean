import Recollection.Json.Record
import Recollection.Text.Hexadecimal
import Recollection.Text.Padded
/-!
# Run identifiers

Every run of a benchmark has an identifier of 128 bits. It is written as thirty-two hexadecimal
digits in five groups with hyphens between them. It is also read without hyphens, and with hyphens
inside braces or behind the name of its scheme, which is written in any ASCII case.
-/

set_option autoImplicit false

namespace Recollection

/-- An identifier of a run. -/
structure RunId where
  /-- Its bits. -/
  bits : BitVec 128
deriving DecidableEq, Repr

namespace RunId

/-- Digits in groups of eight, four, four, four and twelve. -/
def groups (digits : List Char) : List (List Char) :=
  [digits.take 8, (digits.drop 8).take 4, (digits.drop 12).take 4, (digits.drop 16).take 4,
    digits.drop 20]

/-- The text of an identifier. -/
def render (id : RunId) : String :=
  let digits := (Text.padded 32 (Text.hexadecimal id.bits.toNat)).toList
  "-".intercalate ((groups digits).map String.ofList)

/-- Reads thirty-two digits. -/
def readDigits? (digits : List Char) : Option RunId :=
  if digits.length = 32 && digits.all Text.isHexDigit then
    some ⟨.ofNat 128 (Text.valueInBase 16 digits)⟩
  else none

/-- Reads five groups of digits with hyphens between them. -/
def readGroups? (text : List Char) : Option RunId :=
  let digits := text.filter (· != '-')
  if text = ['-'].intercalate (groups digits) then readDigits? digits else none

/-- The name of the scheme, which may stand before the groups in any ASCII case. -/
def scheme : List Char :=
  "urn:uuid:".toList

/-- The identifier that a text names. -/
def read? (text : String) : Option RunId :=
  let text := text.toList
  if text.length = 32 then readDigits? text
  else if text.head? = some '\x7b' && text.getLast? = some '\x7d' then
    readGroups? text.tail.dropLast
  else if (text.take scheme.length).map Char.toLower = scheme then
    readGroups? (text.drop scheme.length)
  else readGroups? text

/-- The identifier made of random bits, six of which give way to the mark of random identifiers. -/
def ofRandom (bits : BitVec 128) : RunId :=
  ⟨bits.extractLsb' 80 48 ++ 4#4 ++ bits.extractLsb' 64 12 ++ 2#2 ++ bits.extractLsb' 0 62⟩

/-- Loads an identifier. -/
def load : Load RunId := fun document =>
  Load.ofOption (document.text?.bind read?)

end RunId

end Recollection
