import Recollection.Contract.Shape
/-!
# Leaves

The shapes without parts: texts, truth values, unsigned integers of two widths, finite numbers,
documents without a schema, and the names of a closed list.

An integer counts as a number, but a binary64 number never counts as an integer, whatever its value.
-/

set_option autoImplicit false

namespace Recollection.Leaf

/-- Any string. -/
def text : Leaf String where
  expected := "string"
  read := Json.text?
  write := .string

/-- A truth value. -/
def flag : Leaf Bool where
  expected := "boolean"
  read := Json.bool?
  write := .bool

/-- An integer in `0 ≤ n < 2 ^ 64`. -/
def word64 : Leaf UInt64 where
  expected := "non-negative integer"
  read document := (document.natBelow? UInt64.size).map UInt64.ofNat
  write := .ofUInt64

/-- An integer in `0 ≤ n < 2 ^ 32`. -/
def word32 : Leaf UInt32 where
  expected := "non-negative 32-bit integer"
  read document := (document.natBelow? UInt32.size).map UInt32.ofNat
  write := .ofUInt32

/-- A finite number. -/
def number : Leaf Binary64 where
  expected := "finite number"
  read document := document.number?.filter Binary64.isFinite
  write := .ofBinary64

/-- Any document, taken as it is. -/
def document : Leaf Json where
  expected := "document"
  read := some
  write := id

/-- One of some values, by its name. -/
def named {α : Type} (name : α → String) (values : List α) : Leaf α where
  expected := "one of " ++ ", ".intercalate (values.map name)
  read document := document.text?.bind fun text => values.find? fun value => name value == text
  write value := .string (name value)

end Recollection.Leaf
