import Recollection.Json.Token
import Recollection.Json.Writer
/-!
# Strings are read back

A reader that yields a value leaves the rest of the text, and both are determined by the text
(`Reads.unique`). A string is read back from how it is written, whatever stands behind it; inside
the string this is so character by character.
-/

set_option autoImplicit false

namespace Recollection.Json

/-- A reader yields a value from a text and leaves the rest of it. -/
def Reads {α : Type} (reader : Reader α) (text : List Char) (value : α) (rest : List Char) : Prop :=
  ∃ shorter, reader text = .ok ⟨value, rest, shorter⟩

theorem Reads.unique {α : Type} {reader : Reader α} {text : List Char} {value other : α}
    {rest behind : List Char} (hreads : Reads reader text value rest)
    (hother : Reads reader text other behind) : value = other ∧ rest = behind := by
  obtain ⟨hshorter, hread⟩ := hreads
  obtain ⟨hshorter', hread'⟩ := hother
  rw [hread] at hread'
  injection hread' with hsame
  injection hsame with hvalue hrest
  exact ⟨hvalue, hrest⟩

/-! ## Strings -/

/-- The digits that a control character is escaped with are hexadecimal ones, four bytes with the
zeros before them, and have its code. -/
theorem controlDigits_spec : ∀ code < 32, ∃ high low first second,
    controlDigits code = [high, low] ∧
      byteLength ['0', '0', high, low] = 4 ∧
      Text.hexValue? high = some first ∧ Text.hexValue? low = some second ∧
      first * 16 + second = code := by
  intro code hcode
  refine ⟨_, _, code / 16, code % 16, rfl, ?_, ?_, ?_, by omega⟩
  · revert code
    decide
  · revert code
    decide
  · revert code
    decide

/-- An escaped control character is read back. -/
theorem reads_readEscape_control {c : Char} (hcontrol : c.toNat < 32) (rest : List Char) :
    Reads readEscape ('u' :: '0' :: '0' :: controlDigits c.toNat ++ rest) c rest := by
  obtain ⟨high, low, first, second, hdigits, hbytes, hhigh, hlow, hcode⟩ :=
    controlDigits_spec c.toNat hcontrol
  have hzero : Text.hexValue? '0' = some 0 := by decide
  have hhex : Reads readHex ('0' :: '0' :: high :: low :: rest) c.toNat rest := by
    refine ⟨by simp only [List.length_cons]; omega, ?_⟩
    have htake : ('0' :: '0' :: high :: low :: rest).take 4 = ['0', '0', high, low] := rfl
    have hvalue : ((0 * 16 + 0) * 16 + first) * 16 + second = c.toNat := by omega
    rw [readHex, htake, hbytes, if_neg (Nat.lt_irrefl 4)]
    simp only [hzero, hhigh, hlow, hvalue]
  obtain ⟨hshorter, hhex⟩ := hhex
  have hpoint : Reads readEscapedPoint ('0' :: '0' :: high :: low :: rest) c rest := by
    have hsmall : (decide (c.toNat < 0xD800) || decide (0xDFFF < c.toNat)) = true := by
      simp only [Bool.or_eq_true, decide_eq_true_eq]
      omega
    refine ⟨hshorter, ?_⟩
    unfold readEscapedPoint
    rw [hhex]
    simp only [bind, Except.bind, hsmall, if_true, Char.ofNat_toNat]
    rfl
  obtain ⟨hless, hpoint⟩ := hpoint
  rw [hdigits]
  refine ⟨Nat.lt_succ_of_lt hless, ?_⟩
  show (readEscapedPoint ('0' :: '0' :: high :: low :: rest)).map _ = _
  rw [hpoint]
  rfl

theorem reads_readStringBody_escape {escape behind value rest : List Char} {c : Char}
    (hescape : Reads readEscape escape c behind)
    (hbody : Reads readStringBody behind value rest) :
    Reads readStringBody ('\\' :: escape) (c :: value) rest := by
  obtain ⟨hshorter, hread⟩ := hescape
  obtain ⟨hshorter', hread'⟩ := hbody
  refine ⟨by simp only [List.length_cons]; omega, ?_⟩
  rw [readStringBody, if_neg (by decide), if_pos rfl, hread]
  dsimp only
  rw [hread']

theorem reads_readStringBody_plain {c : Char} (hquote : c ≠ '"') (hbackslash : c ≠ '\\')
    (hvisible : ¬ c.toNat < 32) {behind value rest : List Char}
    (hbody : Reads readStringBody behind value rest) :
    Reads readStringBody (c :: behind) (c :: value) rest := by
  obtain ⟨hshorter, hread⟩ := hbody
  refine ⟨by simp only [List.length_cons]; omega, ?_⟩
  rw [readStringBody, if_neg hquote, if_neg hbackslash, if_neg hvisible, hread]

/-- A character is read back from how it is written inside a string. -/
theorem reads_readStringBody_writeChar (c : Char) {behind value rest : List Char}
    (hbody : Reads readStringBody behind value rest) :
    Reads readStringBody (writeChar c ++ behind) (c :: value) rest := by
  have hsimple : ∀ letter, letter ≠ 'u' → simpleEscape? letter = some c →
      Reads readEscape (letter :: behind) c behind := by
    intro letter hletter hsimple
    refine ⟨by simp, ?_⟩
    simp only [readEscape, if_neg hletter, hsimple]
  unfold writeChar
  split
  · exact reads_readStringBody_escape (hsimple '"' (by decide) rfl) hbody
  · exact reads_readStringBody_escape (hsimple '\\' (by decide) rfl) hbody
  · exact reads_readStringBody_escape (hsimple 'b' (by decide) rfl) hbody
  · exact reads_readStringBody_escape (hsimple 'f' (by decide) rfl) hbody
  · exact reads_readStringBody_escape (hsimple 'n' (by decide) rfl) hbody
  · exact reads_readStringBody_escape (hsimple 'r' (by decide) rfl) hbody
  · exact reads_readStringBody_escape (hsimple 't' (by decide) rfl) hbody
  · rename_i hquote hbackslash _ _ _ _ _
    split
    case isTrue hcontrol =>
      exact reads_readStringBody_escape (reads_readEscape_control hcontrol behind) hbody
    case isFalse hvisible =>
      exact reads_readStringBody_plain hquote hbackslash hvisible hbody

theorem reads_readStringBody (characters rest : List Char) :
    Reads readStringBody (characters.flatMap writeChar ++ '"' :: rest) characters rest := by
  induction characters with
  | nil =>
    show Reads readStringBody ('"' :: rest) [] rest
    exact ⟨by simp, by rw [readStringBody, if_pos rfl]⟩
  | cons c characters ih =>
    rw [List.flatMap_cons, List.append_assoc]
    exact reads_readStringBody_writeChar c ih

/-- A string is read back from what is written behind its opening quotation mark. -/
theorem reads_readString (text : String) (rest : List Char) :
    Reads readString (text.toList.flatMap writeChar ++ '"' :: rest) text rest := by
  obtain ⟨hshorter, hread⟩ := reads_readStringBody text.toList rest
  refine ⟨hshorter, ?_⟩
  rw [readString, hread]
  show Except.ok (Reading.mk (String.ofList text.toList) rest hshorter) = _
  rw [String.ofList_toList]

end Recollection.Json
