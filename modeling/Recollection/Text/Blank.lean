import Recollection.Text.CodeSet
/-!
# Blank text

White space in the sense of the character database, and text trimmed of it. Identifiers are trimmed
on construction, and text that a contract requires must hold something besides blanks.
-/

set_option autoImplicit false

namespace Recollection.Text

/-- The characters with the property `White_Space`. -/
def whiteSpace : CodeSet := ⟨[
  0x0009, 0x000E, 0x0020, 0x0021, 0x0085, 0x0086, 0x00A0, 0x00A1, 0x1680, 0x1681, 0x2000, 0x200B,
  0x2028, 0x202A, 0x202F, 0x2030, 0x205F, 0x2060, 0x3000, 0x3001]⟩

/-- Whether a character is white space. -/
def isBlank (c : Char) : Bool :=
  whiteSpace.contains c

/-- The characters without the white space at the end. -/
def trimEndChars : List Char → List Char
  | [] => []
  | c :: rest =>
    match trimEndChars rest with
    | [] => if isBlank c then [] else [c]
    | kept => c :: kept

/-- The characters without the white space at either end. -/
def trimChars (text : List Char) : List Char :=
  trimEndChars (text.dropWhile isBlank)

/-- The text without the white space at either end. -/
def trim (text : String) : String :=
  String.ofList (trimChars text.toList)

/-- Whether the text holds nothing but white space. -/
def isBlankText (text : String) : Bool :=
  text.toList.all isBlank

theorem trimEndChars_trimEndChars (text : List Char) :
    trimEndChars (trimEndChars text) = trimEndChars text := by
  induction text with
  | nil => rfl
  | cons c rest ih =>
    cases h : trimEndChars rest with
    | nil =>
      cases blank : isBlank c <;> simp [trimEndChars, h, blank]
    | cons d kept =>
      rw [h] at ih
      have outer : trimEndChars (c :: rest) = c :: d :: kept := by rw [trimEndChars, h]
      rw [outer, trimEndChars, ih]

theorem trimEndChars_cons_of_not_blank {c : Char} (h : isBlank c = false) (rest : List Char) :
    trimEndChars (c :: rest) = c :: trimEndChars rest := by
  simp only [trimEndChars]
  split <;> simp_all

theorem dropWhile_trimChars (text : List Char) :
    (trimChars text).dropWhile isBlank = trimChars text := by
  unfold trimChars
  cases h : text.dropWhile isBlank with
  | nil => rfl
  | cons c rest =>
    have visible : isBlank c = false := by
      have := List.head?_dropWhile_not isBlank text
      simpa [h] using this
    rw [trimEndChars_cons_of_not_blank visible]
    simp [visible]

theorem trimChars_trimChars (text : List Char) : trimChars (trimChars text) = trimChars text := by
  calc trimChars (trimChars text)
      = trimEndChars ((trimChars text).dropWhile isBlank) := rfl
    _ = trimEndChars (trimChars text) := by rw [dropWhile_trimChars]
    _ = trimChars text := trimEndChars_trimEndChars _

/-- Trimming a trimmed text changes nothing. -/
theorem trim_trim (text : String) : trim (trim text) = trim text := by
  simp [trim, trimChars_trimChars]

/-- The text with ASCII capitals lowered, and nothing else changed. -/
def lowerAscii (text : String) : String :=
  String.ofList (text.toList.map Char.toLower)

end Recollection.Text
