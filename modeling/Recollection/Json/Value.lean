import Recollection.Number.Rounding
/-!
# Documents

A document is null, a boolean, a number, a string, a list or an object. Numbers are integers or
binary64 numbers, and an integer is never equal to a binary64 number. Payloads and policy contexts
are documents too: they have no schema of their own.

An object lists its members in the order they are written. `Json.normal` orders them by key and
keeps the last of several members with one key; two documents are the same value when their normal
forms agree.
-/

set_option autoImplicit false

namespace Recollection

/-- A document. -/
inductive Json
  /-- The absent value. -/
  | null
  /-- A truth value. -/
  | bool (value : Bool)
  /-- A number written without fraction and exponent. -/
  | integer (value : Int)
  /-- Any other number. -/
  | double (value : Binary64)
  /-- A text. -/
  | string (value : String)
  /-- A list. -/
  | array (items : List Json)
  /-- An object, by its members. -/
  | object (members : List (String × Json))
deriving Repr, Inhabited

namespace Json

/-! ## Equality -/

mutual

/-- Whether two documents are written alike. -/
def decEq : (a b : Json) → Decidable (a = b)
  | .null, .null => isTrue rfl
  | .bool a, .bool b => decidable_of_iff (a = b) (by simp)
  | .integer a, .integer b => decidable_of_iff (a = b) (by simp)
  | .double a, .double b => decidable_of_iff (a = b) (by simp)
  | .string a, .string b => decidable_of_iff (a = b) (by simp)
  | .array a, .array b =>
    match decEqItems a b with
    | isTrue h => isTrue (by rw [h])
    | isFalse h => isFalse (by simpa using h)
  | .object a, .object b =>
    match decEqMembers a b with
    | isTrue h => isTrue (by rw [h])
    | isFalse h => isFalse (by simpa using h)
  | .null, .bool _ | .null, .integer _ | .null, .double _ | .null, .string _ | .null, .array _
  | .null, .object _ | .bool _, .null | .bool _, .integer _ | .bool _, .double _
  | .bool _, .string _ | .bool _, .array _ | .bool _, .object _ | .integer _, .null
  | .integer _, .bool _ | .integer _, .double _ | .integer _, .string _ | .integer _, .array _
  | .integer _, .object _ | .double _, .null | .double _, .bool _ | .double _, .integer _
  | .double _, .string _ | .double _, .array _ | .double _, .object _ | .string _, .null
  | .string _, .bool _ | .string _, .integer _ | .string _, .double _ | .string _, .array _
  | .string _, .object _ | .array _, .null | .array _, .bool _ | .array _, .integer _
  | .array _, .double _ | .array _, .string _ | .array _, .object _ | .object _, .null
  | .object _, .bool _ | .object _, .integer _ | .object _, .double _ | .object _, .string _
  | .object _, .array _ => isFalse (by simp)

/-- Whether two lists of documents are written alike. -/
def decEqItems : (a b : List Json) → Decidable (a = b)
  | [], [] => isTrue rfl
  | [], _ :: _ => isFalse (by simp)
  | _ :: _, [] => isFalse (by simp)
  | x :: xs, y :: ys =>
    match decEq x y, decEqItems xs ys with
    | isTrue h, isTrue k => isTrue (by rw [h, k])
    | isFalse h, _ => isFalse (by simp [h])
    | _, isFalse k => isFalse (by simp [k])

/-- Whether two lists of members are written alike. -/
def decEqMembers : (a b : List (String × Json)) → Decidable (a = b)
  | [], [] => isTrue rfl
  | [], _ :: _ => isFalse (by simp)
  | _ :: _, [] => isFalse (by simp)
  | (i, x) :: xs, (j, y) :: ys =>
    match (inferInstance : Decidable (i = j)), decEq x y, decEqMembers xs ys with
    | isTrue h, isTrue k, isTrue l => isTrue (by rw [h, k, l])
    | isFalse h, _, _ => isFalse (by simp [h])
    | _, isFalse k, _ => isFalse (by simp [k])
    | _, _, isFalse l => isFalse (by simp [l])

end

instance : DecidableEq Json := decEq

/-! ## Parts of a document -/

/-- The name of the kind of value, as it appears in messages. -/
def kind : Json → String
  | .null => "null"
  | .bool _ => "boolean"
  | .integer _ => "number"
  | .double _ => "number"
  | .string _ => "string"
  | .array _ => "sequence"
  | .object _ => "mapping"

/-- The members, if the document is an object. -/
def members? : Json → Option (List (String × Json))
  | .object members => some members
  | _ => none

/-- The member with the given key, if the document is an object that has it. -/
def member? (key : String) : Json → Option Json
  | .object members => members.lookup key
  | _ => none

/-- The text, if the document is a string. -/
def text? : Json → Option String
  | .string value => some value
  | _ => none

/-- The truth value, if the document is one. -/
def bool? : Json → Option Bool
  | .bool value => some value
  | _ => none

mutual

/-- Every string in a document, depth first; keys are not among them. -/
def texts : Json → List String
  | .string value => [value]
  | .array items => itemTexts items
  | .object members => memberTexts members
  | .null | .bool _ | .integer _ | .double _ => []

/-- Every string in a list of documents. -/
def itemTexts : List Json → List String
  | [] => []
  | item :: rest => item.texts ++ itemTexts rest

/-- Every string in the values of some members. -/
def memberTexts : List (String × Json) → List String
  | [] => []
  | (_, value) :: rest => value.texts ++ memberTexts rest

end

/-! ## Normal form -/

/-- Puts a member at its place in members ordered by key, in place of the one with its key. -/
def insertMember (key : String) (value : Json) : List (String × Json) → List (String × Json)
  | [] => [(key, value)]
  | (other, present) :: rest =>
    if key < other then (key, value) :: (other, present) :: rest
    else if key = other then (key, value) :: rest
    else (other, present) :: insertMember key value rest

/-- The members ordered by key, the last one of each key. -/
def sortMembers (members : List (String × Json)) : List (String × Json) :=
  members.foldl (fun sorted (key, value) => insertMember key value sorted) []

mutual

/-- The document with the members of every object ordered by key, without repetition. -/
def normal : Json → Json
  | .array items => .array (normalItems items)
  | .object members => .object (sortMembers (normalMembers members))
  | .null => .null
  | .bool value => .bool value
  | .integer value => .integer value
  | .double value => .double value
  | .string value => .string value

/-- The normal forms of the items of a list. -/
def normalItems : List Json → List Json
  | [] => []
  | item :: rest => item.normal :: normalItems rest

/-- Members with the normal forms of their values. -/
def normalMembers : List (String × Json) → List (String × Json)
  | [] => []
  | (key, value) :: rest => (key, value.normal) :: normalMembers rest

end

/-! ## Equality of values -/

mutual

/-- Whether two documents agree, binary64 numbers being compared as numbers. -/
def agrees : Json → Json → Bool
  | .null, .null => true
  | .bool a, .bool b => a == b
  | .integer a, .integer b => a == b
  | .double a, .double b => a.same b
  | .string a, .string b => a == b
  | .array a, .array b => itemsAgree a b
  | .object a, .object b => membersAgree a b
  | _, _ => false

/-- Whether two lists agree item by item. -/
def itemsAgree : List Json → List Json → Bool
  | [], [] => true
  | a :: as, b :: bs => a.agrees b && itemsAgree as bs
  | _, _ => false

/-- Whether two lists of members agree member by member. -/
def membersAgree : List (String × Json) → List (String × Json) → Bool
  | [], [] => true
  | (i, a) :: as, (j, b) :: bs => i == j && a.agrees b && membersAgree as bs
  | _, _ => false

end

/-- Equality of values: the order of members does not matter, and the two zeros are equal. -/
def sameValue (a b : Json) : Bool :=
  a.normal.agrees b.normal

/-! ## Numbers -/

/-- The value of a number as a binary64 number; an integer counts as the nearest one. -/
def number? : Json → Option Binary64
  | .integer value => some (Binary64.ofInt value)
  | .double value => some value
  | _ => none

/-- The integer of a number that is an integer in `0 ≤ n < bound`. -/
def natBelow? (bound : Nat) : Json → Option Nat
  | .integer (.ofNat n) => if n < bound then some n else none
  | _ => none

/-- An unsigned 64-bit integer as a number. -/
def ofUInt64 (n : UInt64) : Json :=
  .integer n.toNat

/-- An unsigned 32-bit integer as a number. -/
def ofUInt32 (n : UInt32) : Json :=
  .integer n.toNat

/-- A binary64 number, or null if it has no numeral. -/
def ofBinary64 (x : Binary64) : Json :=
  if x.isFinite then .double x else .null

/-- A list of texts. -/
def ofTexts (texts : List String) : Json :=
  .array (texts.map .string)

/-- The number equal to a binary64 number: an integer when it is one of magnitude at most `2 ^ 53`;
none for NaN and the infinities. -/
def ofNumber? (x : Binary64) : Option Json :=
  if x.isFinite then
    match x.toInteger? with
    | some n => some (.integer n)
    | none => some (.double x)
  else none

end Json

end Recollection
