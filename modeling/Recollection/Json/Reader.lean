import Recollection.Json.Token
/-!
# Reading documents

Lists and objects are read by recursion on the length of the text, with a reader of what they hold.
The nesting that is still allowed is an argument of the reader of values: each list and each object
is read with one less.
-/

set_option autoImplicit false

namespace Recollection.Json

/-! ## Lists and objects -/

/-- The items of a list from one that is there, up to the closing bracket. -/
def readItems {α : Type} (readItem : Reader α) (text : List Char) :
    Except SyntaxFault (Reading (List α) text) :=
  match readItem text with
  | .error fault => .error fault
  | .ok item =>
    match h : skipSpace item.rest with
    | [] => .error (.next .endInList [])
    | c :: rest =>
      have hrest : rest.length < text.length := by
        have := item.shorter
        have := length_skipSpace_le item.rest
        rw [h, List.length_cons] at this
        omega
      if c = ']' then .ok ⟨[item.value], rest, hrest⟩
      else if c = ',' then
        if (skipSpace rest).head? = some ']' then
          .error (.next .trailingComma (skipSpace rest))
        else
          match readItems readItem rest with
          | .error fault => .error fault
          | .ok items => .ok ⟨item.value :: items.value, items.rest, by
              have := items.shorter; omega⟩
      else .error (.next .listSeparatorExpected (c :: rest))
termination_by text.length

/-- The items of a list behind its opening bracket. -/
def readList {α : Type} (readItem : Reader α) : Reader (List α) := fun text =>
  match h : skipSpace text with
  | [] => .error (.next .endInList [])
  | c :: rest =>
    if c = ']' then
      .ok ⟨[], rest, by
        have := length_skipSpace_le text
        rw [h, List.length_cons] at this
        omega⟩
    else readItems readItem text

/-- A key and the colon behind it; `text` starts where the key is due, and `readString` reads it
behind its opening quotation mark. -/
def readKey {κ : Type} (readString : Reader κ) (atEnd : SyntaxCause) : Reader κ := fun text =>
  match h : skipSpace text with
  | [] => .error (.next atEnd [])
  | c :: rest =>
    if c = '"' then
      match readString rest with
      | .error fault => .error fault
      | .ok key =>
        match h' : skipSpace key.rest with
        | [] => .error (.next .endInObject [])
        | c :: behind =>
          if c = ':' then .ok ⟨key.value, behind, by
            have := key.shorter
            have h₁ := length_skipSpace_le key.rest
            have h₂ := length_skipSpace_le text
            rw [h', List.length_cons] at h₁
            rw [h, List.length_cons] at h₂
            omega⟩
          else .error (.next .colonExpected (c :: behind))
    else .error (.next .keyNotString (c :: rest))

/-- The members of an object from one that is due, up to the closing brace. -/
def readMembers {κ α : Type} (readString : Reader κ) (readItem : Reader α) (atEnd : SyntaxCause)
    (text : List Char) : Except SyntaxFault (Reading (List (κ × α)) text) :=
  match readKey readString atEnd text with
  | .error fault => .error fault
  | .ok key =>
    match readItem key.rest with
    | .error fault => .error fault
    | .ok value =>
      match h : skipSpace value.rest with
      | [] => .error (.next .endInObject [])
      | c :: rest =>
        have hrest : rest.length < text.length := by
          have := key.shorter
          have := value.shorter
          have := length_skipSpace_le value.rest
          rw [h, List.length_cons] at this
          omega
        if c = '\x7d' then .ok ⟨[(key.value, value.value)], rest, hrest⟩
        else if c = ',' then
          if (skipSpace rest).head? = some '\x7d' then
            .error (.next .trailingComma (skipSpace rest))
          else
            match readMembers readString readItem .endInValue rest with
            | .error fault => .error fault
            | .ok members => .ok ⟨(key.value, value.value) :: members.value, members.rest, by
                have := members.shorter; omega⟩
        else .error (.next .objectSeparatorExpected (c :: rest))
termination_by text.length

/-- The members of an object behind its opening brace. -/
def readObject {κ α : Type} (readString : Reader κ) (readItem : Reader α) : Reader (List (κ × α)) :=
  fun text =>
  match h : skipSpace text with
  | [] => .error (.next .endInObject [])
  | c :: rest =>
    if c = '\x7d' then
      .ok ⟨[], rest, by
        have := length_skipSpace_le text
        rw [h, List.length_cons] at this
        omega⟩
    else readMembers readString readItem .endInObject text

/-! ## Documents -/

/-- A value in which at most `depth` lists and objects are nested. -/
def readValue : Nat → Reader Json := fun depth text =>
  match h : skipSpace text with
  | [] => .error (.next .endInValue [])
  | c :: rest =>
    have hrest : rest.length < text.length := by
      have := length_skipSpace_le text
      rw [h, List.length_cons] at this
      omega
    have hall : (c :: rest).length ≤ text.length := hrest
    let word (tail : String) (value : Json) : Except SyntaxFault (Reading Json text) :=
      (readWord tail.toList rest).map fun left =>
        ⟨value, left.val, Nat.lt_of_le_of_lt left.property hrest⟩
    if c = 'n' then word "ull" .null
    else if c = 't' then word "rue" (.bool true)
    else if c = 'f' then word "alse" (.bool false)
    else if c = '"' then
      (readString rest).map fun string => (string.map .string).widen (Nat.le_of_lt hrest)
    else if c = '-' || c.isDigit then
      (readNumber (c :: rest)).map fun number => number.widen hall
    else if c = '[' then
      match depth with
      | 0 => .error (.next .tooDeep (c :: rest))
      | inner + 1 =>
        (readList (readValue inner) rest).map fun items =>
          (items.map .array).widen (Nat.le_of_lt hrest)
    else if c = '\x7b' then
      match depth with
      | 0 => .error (.next .tooDeep (c :: rest))
      | inner + 1 =>
        (readObject readString (readValue inner) rest).map fun members =>
          (members.map .object).widen (Nat.le_of_lt hrest)
    else .error (.next .valueExpected (c :: rest))

/-- How deeply lists and objects may be nested. -/
def depthLimit : Nat := 127

/-- The document that was read, if nothing but blanks is behind it. -/
def Reading.whole {α : Type} {text : List Char} (document : Reading α text) :
    Except SyntaxFault α :=
  match skipSpace document.rest with
  | [] => .ok document.value
  | c :: rest => .error (.next .trailingCharacters (c :: rest))

/-- The document that a text holds, as it is written: members keep their order and may repeat
keys. -/
def readWritten (depth : Nat) (text : String) : Except SyntaxFault Json :=
  (readValue depth text.toList).bind Reading.whole

/-- The value of the document that a text holds. -/
def read (text : String) : Except SyntaxFault Json :=
  (readWritten depthLimit text).map normal

end Recollection.Json
