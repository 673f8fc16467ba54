import Recollection.Json.Reader
/-!
# Reading documents leniently

A record ignores the members that it does not declare, so what is written there may well have no
value: a number beyond the binary64 numbers, a string with an escaped surrogate that has no partner,
an object with such a string as a key. A text with such parts is still read if it keeps to the
grammar; a part without a value stands as null. Lists and objects may be nested to any depth.

A record that refuses null in all its members is therefore loaded exactly if its declared members
have values of their own.
-/

set_option autoImplicit false

namespace Recollection.Json

/-- Passes over what may stand behind a backslash; an escaped surrogate needs no partner. -/
def skipEscape : Reader Unit
  | [] => .error (.before .endInString [])
  | c :: rest =>
    if c = 'u' then (readHex rest).map fun code => (code.map fun _ => ()).widen (Nat.le_succ _)
    else if (simpleEscape? c).isSome then .ok ⟨(), rest, Nat.lt_succ_self _⟩
    else .error (.next .invalidEscape (c :: rest))

/-- Passes over a string up to and with its closing quotation mark. -/
def skipString (text : List Char) : Except SyntaxFault (Reading Unit text) :=
  match text with
  | [] => .error (.before .endInString [])
  | c :: rest =>
    if c = '"' then .ok ⟨(), rest, by simp⟩
    else if c = '\\' then
      match skipEscape rest with
      | .error fault => .error fault
      | .ok escape =>
        have := escape.shorter
        (skipString escape.rest).map fun body => body.widen (by simp only [List.length_cons]; omega)
    else if c.toNat < 0x20 then .error (.before .controlCharacter rest)
    else (skipString rest).map fun body => body.widen (by simp)
termination_by text.length
decreasing_by all_goals simp_all <;> omega

/-- The text of a string behind its opening quotation mark, if its escapes make one. -/
def readStringText? : Reader (Option String) := fun text =>
  match readString text with
  | .ok body => .ok (body.map some)
  | .error _ => (skipString text).map (Reading.map fun _ => none)

/-- A number, or null if it is out of range. -/
def readNumberOrNull : Reader Json := fun text =>
  (readWrittenNumber text).map fun written =>
    written.map fun number => (number.evaluate written.rest).toOption.getD .null

/-- The object with some members, or null if a key has no text. -/
def objectOrNull (members : List (Option String × Json)) : Json :=
  match members.mapM fun (key, value) => key.map fun key => (key, value) with
  | some members => .object members
  | none => .null

/-- A value in which at most `depth` lists and objects are nested; parts without a value are
null. -/
def readLenientValue : Nat → Reader Json := fun depth text =>
  match h : skipSpace text with
  | [] => .error (.next .endInValue [])
  | c :: rest =>
    have hrest : rest.length < text.length := by
      have := length_skipSpace_le text
      rw [h, List.length_cons] at this
      omega
    if c = '"' then
      (readStringText? rest).map fun body =>
        (body.map fun text => (text.map .string).getD .null).widen (Nat.le_of_lt hrest)
    else if c = '-' || c.isDigit then
      (readNumberOrNull (c :: rest)).map fun number => number.widen hrest
    else
      match c, depth with
      | '[', inner + 1 =>
        (readList (readLenientValue inner) rest).map fun items =>
          (items.map .array).widen (Nat.le_of_lt hrest)
      | '\x7b', inner + 1 =>
        (readObject readStringText? (readLenientValue inner) rest).map fun members =>
          (members.map objectOrNull).widen (Nat.le_of_lt hrest)
      | _, _ => (readValue 0 (c :: rest)).map fun word => word.widen hrest

/-- The document that a text holds, as it is written but for the parts without a value. -/
def readLenient (text : String) : Except SyntaxFault Json :=
  (readLenientValue text.length text.toList).bind Reading.whole

end Recollection.Json
