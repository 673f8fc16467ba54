import Recollection.Benchmark.Sanitized
import Recollection.Proofs.Text.Blank
import Recollection.Proofs.Text.Occurrence
/-!
# What sanitizing keeps

A text is taken apart twice: at its script blocks, of which the pieces outside are kept, and then at
the values of its keys, of which the text around them is. What both passes leave is read off these
two decompositions, which every text has.

No marker of a secret is left, as none can be formed around a redaction. An opening of a script
block can be left: none of the pieces has one, but two of them may form one where they are joined.
-/

set_option autoImplicit false

namespace Recollection

namespace Text

variable {marker : List Char}

/-- A text in which no white space is found has none. Deciding the conclusion itself would go
through all characters. -/
theorem solid_of_any_eq_false {text : List Char} (hnone : text.any isBlank = false) :
    ∀ c ∈ text, isBlank c = false := by
  intro c hc
  exact Bool.eq_false_iff.2 (List.any_eq_false.1 hnone c hc)

/-- What trimming takes away is white space. -/
theorem exists_trimEndChars_append (text : List Char) :
    ∃ blanks, (∀ c ∈ blanks, isBlank c = true) ∧ text = trimEndChars text ++ blanks := by
  induction text with
  | nil => exact ⟨[], by simp, rfl⟩
  | cons c text ih =>
    obtain ⟨blanks, hblanks, htext⟩ := ih
    rw [trimEndChars]
    cases hkept : trimEndChars text with
    | nil =>
      rw [hkept, List.nil_append] at htext
      subst htext
      by_cases hc : isBlank c = true
      · exact ⟨c :: text, by simpa [hc] using hblanks, by simp [hc]⟩
      · exact ⟨text, hblanks, by simp [hc]⟩
    | cons d kept =>
      rw [hkept] at htext
      exact ⟨blanks, hblanks, congrArg (c :: ·) htext⟩

/-- White space at the end makes no difference to a trimmed text. -/
theorem trimEndChars_append {blanks : List Char} (hblanks : ∀ c ∈ blanks, isBlank c = true)
    (text : List Char) : trimEndChars (text ++ blanks) = trimEndChars text := by
  induction text with
  | nil => exact (trimEndChars_eq_nil_iff blanks).2 hblanks
  | cons c text ih => rw [List.cons_append, trimEndChars, ih, trimEndChars]

/-- A text that does not end in white space is trimmed. -/
theorem trimEndChars_of_getLast? {text : List Char}
    (hlast : ∀ c ∈ text.getLast?, isBlank c = false) : trimEndChars text = text := by
  obtain ⟨blanks, hblanks, htext⟩ := exists_trimEndChars_append text
  rcases List.eq_nil_or_concat' blanks with rfl | ⟨front, c, rfl⟩
  · rw [List.append_nil] at htext
    exact htext.symm
  · have hc := hblanks c (by simp)
    rw [htext, ← List.append_assoc, List.getLast?_concat] at hlast
    rw [hlast c rfl] at hc
    cases hc

/-- Trimming takes away no occurrence of a marker that does not end in white space. -/
theorem infix_trimEndChars_iff {last : Char} (hlast : isBlank last = false) (text : List Char) :
    marker ++ [last] <:+: trimEndChars text ↔ marker ++ [last] <:+: text := by
  obtain ⟨blanks, hblanks, htext⟩ := exists_trimEndChars_append text
  have hmem : ∀ tail, last ∈ tail → ¬ tail <:+: blanks := by
    intro tail hmem htail
    rw [hblanks last (htail.subset hmem)] at hlast
    cases hlast
  have hnot : ¬ FormedAcross (marker ++ [last]) (trimEndChars text) blanks := by
    rintro ⟨head, tail, -, hne, hmarker, -, htail⟩
    refine hmem tail ?_ htail.isInfix
    have hends := congrArg List.getLast? hmarker
    rw [List.getLast?_concat, List.getLast?_append_of_ne_nil _ hne] at hends
    exact List.mem_of_getLast? hends.symm
  conv_rhs => rw [htext]
  rw [infix_append_iff, or_iff_left hnot, or_iff_left (hmem _ (by simp))]

end Text

namespace Benchmark

open Text (NoneBegins FormedAtJoint)

/-! ## Texts taken apart at their script blocks -/

/-- A text is taken apart at its script blocks into the pieces outside of them. -/
inductive Outside : List Char → List (List Char) → Prop
  /-- A text that opens no block is one piece. -/
  | whole {text : List Char} (hnone : ¬ scriptOpening <:+: text) : Outside text [text]
  /-- A block that is never closed goes on to the end, and nothing is left behind it. -/
  | unclosed {before content : List Char}
    (hbefore : NoneBegins scriptOpening before (scriptOpening ++ content))
    (hcontent : ¬ scriptClosing <:+: content) :
    Outside (before ++ scriptOpening ++ content) [before, []]
  /-- A block goes on to the first closing behind its opening. -/
  | closed {before content behind : List Char} {pieces : List (List Char)}
    (hbefore : NoneBegins scriptOpening before
      (scriptOpening ++ (content ++ scriptClosing ++ behind)))
    (hcontent : NoneBegins scriptClosing content (scriptClosing ++ behind))
    (hbehind : Outside behind pieces) :
    Outside (before ++ scriptOpening ++ (content ++ scriptClosing ++ behind)) (before :: pieces)

theorem behindScript_of_unclosed {content : List Char} (hcontent : ¬ scriptClosing <:+: content) :
    behindScript content = [] := by
  rw [behindScript, (Text.splitAround?_eq_none_iff scriptClosing_ne_nil).2 hcontent]

theorem behindScript_of_closed {content behind : List Char}
    (hcontent : NoneBegins scriptClosing content (scriptClosing ++ behind)) :
    behindScript (content ++ scriptClosing ++ behind) = behind := by
  rw [behindScript, (Text.splitAround?_eq_some_iff scriptClosing_ne_nil).2 ⟨rfl, hcontent⟩]

theorem stripScripts_of_none {text : List Char} (hnone : ¬ scriptOpening <:+: text) :
    stripScripts text = (text, 0) := by
  have hsplit := (Text.splitAround?_eq_none_iff scriptOpening_ne_nil).2 hnone
  rw [stripScripts]
  split
  · rfl
  · rename_i hfound
    rw [hsplit] at hfound
    cases hfound

theorem stripScripts_of_opening {before behind : List Char}
    (hbefore : NoneBegins scriptOpening before (scriptOpening ++ behind)) :
    stripScripts (before ++ scriptOpening ++ behind) =
      (before ++ (stripScripts (behindScript behind)).1,
        (stripScripts (behindScript behind)).2 + 1) := by
  have hsplit := (Text.splitAround?_eq_some_iff scriptOpening_ne_nil).2 ⟨rfl, hbefore⟩
  rw [stripScripts]
  split
  · rename_i hfound
    rw [hsplit] at hfound
    cases hfound
  · rename_i hfound
    rw [hsplit] at hfound
    obtain ⟨rfl, rfl⟩ := Prod.mk.inj (Option.some.inj hfound)
    rfl

namespace Outside

variable {text : List Char} {pieces : List (List Char)}

theorem pieces_ne_nil (houtside : Outside text pieces) : pieces ≠ [] := by
  cases houtside <;> exact List.cons_ne_nil _ _

/-- Stripping a text of its script blocks joins the pieces outside of them. -/
theorem stripScripts_eq (houtside : Outside text pieces) :
    stripScripts text = (pieces.flatten, pieces.length - 1) := by
  induction houtside with
  | whole hnone => rw [stripScripts_of_none hnone, List.flatten_singleton, List.length_singleton]
  | unclosed hbefore hcontent =>
    have hempty : ¬ scriptOpening <:+: [] := by decide
    rw [stripScripts_of_opening hbefore, behindScript_of_unclosed hcontent,
      stripScripts_of_none hempty]
    simp
  | closed hbefore hcontent hbehind ih =>
    have hlength := List.length_pos_iff.2 hbehind.pieces_ne_nil
    rw [stripScripts_of_opening hbefore, behindScript_of_closed hcontent, ih, List.flatten_cons,
      List.length_cons, Nat.sub_add_cancel hlength, Nat.add_sub_cancel]

/-- No piece outside of the script blocks opens one. -/
theorem not_opening (houtside : Outside text pieces) :
    ∀ piece ∈ pieces, ¬ scriptOpening <:+: piece := by
  have hfront : ∀ {before behind : List Char},
      NoneBegins scriptOpening before (scriptOpening ++ behind) → ¬ scriptOpening <:+: before := by
    intro before behind hbefore
    have hnot := hbefore.not_infix_append List.nil_prefix (by decide)
    rwa [List.append_nil] at hnot
  induction houtside with
  | whole hnone => simpa using hnone
  | unclosed hbefore _ =>
    simpa using ⟨hfront hbefore, scriptOpening_ne_nil⟩
  | closed hbefore _ _ ih => exact List.forall_mem_cons.2 ⟨hfront hbefore, ih⟩

end Outside

/-- Every text can be taken apart at its script blocks. -/
theorem exists_outside (text : List Char) : ∃ pieces, Outside text pieces := by
  induction text using stripScripts.induct with
  | case1 text hsplit =>
    exact ⟨_, .whole ((Text.splitAround?_eq_none_iff scriptOpening_ne_nil).1 hsplit)⟩
  | case2 text before behind hsplit rest count hrest ih =>
    obtain ⟨rfl, hbefore⟩ := (Text.splitAround?_eq_some_iff scriptOpening_ne_nil).1 hsplit
    cases hclose : Text.splitAround? scriptClosing behind with
    | none =>
      exact ⟨_, .unclosed hbefore ((Text.splitAround?_eq_none_iff scriptClosing_ne_nil).1 hclose)⟩
    | some found =>
      obtain ⟨content, further⟩ := found
      obtain ⟨rfl, hcontent⟩ := (Text.splitAround?_eq_some_iff scriptClosing_ne_nil).1 hclose
      rw [behindScript_of_closed hcontent] at ih
      obtain ⟨pieces, hpieces⟩ := ih
      exact ⟨_, .closed hbefore hcontent hpieces⟩

/-! ## Texts taken apart at the values of their keys -/

/-- The value of a key, with the text behind it up to the name of the next one. -/
structure Mention where
  /-- The value. -/
  value : List Char
  /-- The text behind it. -/
  after : List Char
deriving DecidableEq, Repr

namespace Mention

/-- A mention as it is written, with the name of the key in front. -/
def written (mention : Mention) : List Char :=
  secretName ++ mention.value ++ mention.after

/-- A mention without its value. -/
def redacted (mention : Mention) : List Char :=
  secretName ++ redaction ++ mention.after

/-- A value that must not be kept: it has the mark of one and no white space in it. -/
structure IsSecret (mention : Mention) : Prop where
  /-- It starts with the mark. -/
  marked : ['s', 'k', '-'] <+: mention.value
  /-- It has no white space. -/
  solid : ∀ c ∈ mention.value, Text.isBlank c = false

end Mention

/-- A text in front of some mentions of keys, with these. -/
def writtenText (front : List Char) (mentions : List Mention) : List Char :=
  front ++ mentions.flatMap Mention.written

/-- The same text without the values of the keys. -/
def redactedText (front : List Char) (mentions : List Mention) : List Char :=
  front ++ mentions.flatMap Mention.redacted

/-- A text is taken apart at all values of its keys: no other one begins outside of these, and
every value ends where the text does or where there is white space. -/
inductive Keyed : List Char → List Mention → Prop
  /-- No key is left. -/
  | last {front : List Char} (hfront : NoneBegins secretMarker front []) : Keyed front []
  /-- The next key is mentioned. -/
  | mention {front : List Char} {mention : Mention} {later : List Mention}
    (hfront : NoneBegins secretMarker front ((mention :: later).flatMap Mention.written))
    (hsecret : mention.IsSecret) (hblank : ∀ c ∈ mention.after.head?, Text.isBlank c = true)
    (hlast : mention.after = [] → later = []) (hlater : Keyed mention.after later) :
    Keyed front (mention :: later)

theorem flatMap_written_cons (mention : Mention) (later : List Mention) :
    (mention :: later).flatMap Mention.written =
      (secretName ++ mention.value) ++ writtenText mention.after later := by
  rw [List.flatMap_cons, Mention.written, writtenText, List.append_assoc _ mention.after]

theorem redactedText_cons (front : List Char) (mention : Mention) (later : List Mention) :
    redactedText front (mention :: later) =
      (front ++ secretName) ++ (redaction ++ redactedText mention.after later) := by
  rw [redactedText, redactedText, List.flatMap_cons, Mention.redacted]
  simp only [List.append_assoc]

theorem redactSecrets_of_none {text : List Char} (hnone : ¬ secretMarker <:+: text) :
    redactSecrets text = (text, 0) := by
  have hsplit := (Text.splitAround?_eq_none_iff secretMarker_ne_nil).2 hnone
  rw [redactSecrets]
  split
  · rfl
  · rename_i hfound
    rw [hsplit] at hfound
    cases hfound

theorem redactSecrets_of_marker {before behind : List Char}
    (hbefore : NoneBegins secretMarker before (secretMarker ++ behind)) :
    redactSecrets (before ++ secretMarker ++ behind) =
      (before ++ secretName ++ redaction ++
          (redactSecrets (behind.dropWhile fun c => !Text.isBlank c)).1,
        (redactSecrets (behind.dropWhile fun c => !Text.isBlank c)).2 + 1) := by
  have hsplit := (Text.splitAround?_eq_some_iff secretMarker_ne_nil).2 ⟨rfl, hbefore⟩
  rw [redactSecrets]
  split
  · rename_i hfound
    rw [hsplit] at hfound
    cases hfound
  · rename_i hfound
    rw [hsplit] at hfound
    obtain ⟨rfl, rfl⟩ := Prod.mk.inj (Option.some.inj hfound)
    rfl

/-- A value starts with the mark of a secret, and goes on to where the text behind it starts. -/
theorem Mention.IsSecret.exists_behind {mention : Mention} (hsecret : mention.IsSecret) :
    ∃ behind, secretName ++ mention.value = secretMarker ++ behind ∧
      ∀ rest : List Char, (∀ c ∈ rest.head?, Text.isBlank c = true) →
        ((behind ++ rest).dropWhile fun c => !Text.isBlank c) = rest := by
  obtain ⟨behind, hvalue⟩ := hsecret.marked
  refine ⟨behind, by rw [← hvalue, secretMarker, List.append_assoc], fun rest hrest => ?_⟩
  have hsolid : ∀ c ∈ behind, (!Text.isBlank c) = true := by
    intro c hc
    rw [hsecret.solid c (hvalue ▸ List.mem_append_right _ hc)]
    rfl
  rw [List.dropWhile_append_of_pos hsolid]
  cases rest with
  | nil => rfl
  | cons c rest => rw [List.dropWhile_cons_of_neg (by simp [hrest c rfl])]

/-- What follows a value starts with white space, if there is anything. -/
theorem isBlank_of_head?_after {mention : Mention} {later : List Mention}
    (hblank : ∀ c ∈ mention.after.head?, Text.isBlank c = true)
    (hlast : mention.after = [] → later = []) (write : Mention → List Char) :
    ∀ c ∈ (mention.after ++ later.flatMap write).head?, Text.isBlank c = true := by
  cases hafter : mention.after with
  | nil => simp [hlast hafter]
  | cons d after =>
    rw [hafter] at hblank
    exact hblank

/-- Where white space follows a value, or nothing, it starts the text behind it. -/
theorem isBlank_head?_writtenText_iff {after : List Char} {later : List Mention} :
    (∀ c ∈ (writtenText after later).head?, Text.isBlank c = true) ↔
      (∀ c ∈ after.head?, Text.isBlank c = true) ∧ (after = [] → later = []) := by
  cases after with
  | nil =>
    cases later with
    | nil => simp [writtenText]
    | cons mention later =>
      have hname : Text.isBlank 'a' = false := by decide
      simp [writtenText, Mention.written, secretName, hname]
  | cons c after => simp [writtenText]

/-- Every text can be taken apart at the values of its keys. -/
theorem exists_keyed (text : List Char) :
    ∃ front mentions, Keyed front mentions ∧ text = writtenText front mentions := by
  induction text using redactSecrets.induct with
  | case1 text hsplit =>
    have hnone := (Text.splitAround?_eq_none_iff secretMarker_ne_nil).1 hsplit
    refine ⟨text, [], .last ((Text.noneBegins_end_iff secretMarker_ne_nil).2 hnone), ?_⟩
    exact (List.append_nil text).symm
  | case2 text before behind hsplit rest count hrest ih =>
    obtain ⟨rfl, hbefore⟩ := (Text.splitAround?_eq_some_iff secretMarker_ne_nil).1 hsplit
    obtain ⟨after, later, hlater, hafter⟩ := ih
    let solid := behind.takeWhile fun c => !Text.isBlank c
    have hbehind : solid ++ writtenText after later = behind := by
      rw [← hafter, List.takeWhile_append_dropWhile]
    have hsolid : ∀ c ∈ solid, Text.isBlank c = false := by
      intro c hc
      simpa using List.all_eq_true.1 List.all_takeWhile c hc
    have hstop : ∀ c ∈ (writtenText after later).head?, Text.isBlank c = true := by
      intro c hc
      have hnot := List.head?_dropWhile_not (fun c => !Text.isBlank c) behind
      rw [hafter, Option.mem_def.1 hc] at hnot
      simpa using hnot
    obtain ⟨hblank, hlast⟩ := isBlank_head?_writtenText_iff.1 hstop
    have hwritten : (⟨['s', 'k', '-'] ++ solid, after⟩ :: later : List Mention).flatMap
        Mention.written = secretMarker ++ behind := by
      rw [flatMap_written_cons, ← List.append_assoc, ← secretMarker, List.append_assoc, hbehind]
    refine ⟨before, ⟨['s', 'k', '-'] ++ solid, after⟩ :: later, ?_, ?_⟩
    · rw [← hwritten] at hbefore
      refine .mention hbefore ⟨List.prefix_append _ _, ?_⟩ hblank hlast hlater
      have hmark : ∀ c ∈ ['s', 'k', '-'], Text.isBlank c = false :=
        Text.solid_of_any_eq_false (by decide)
      intro c hc
      exact (List.mem_append.1 hc).elim (hmark c) (hsolid c)
    · rw [writtenText, hwritten, List.append_assoc]

/-- A marker that does not reach into a redaction or over white space. -/
structure KeepsClear (marker : List Char) : Prop where
  /-- It does not have the first character of the redaction. -/
  bracket : '[' ∉ marker
  /-- It has no white space. -/
  solid : ∀ c ∈ marker, Text.isBlank c = false
  /-- It does not occur in the redaction. -/
  other : ¬ marker <:+: redaction

theorem keepsClear_secretMarker : KeepsClear secretMarker where
  bracket := by decide
  solid := Text.solid_of_any_eq_false (by decide)
  other := by decide

theorem keepsClear_scriptOpening : KeepsClear scriptOpening where
  bracket := by decide
  solid := Text.solid_of_any_eq_false (by decide)
  other := by decide

/-- What occurs in a redacted text occurs before a redaction or behind it. -/
theorem KeepsClear.infix_redactedText_cons_iff {marker : List Char} (hclear : KeepsClear marker)
    {mention : Mention} {later : List Mention}
    (hblank : ∀ c ∈ mention.after.head?, Text.isBlank c = true)
    (hlast : mention.after = [] → later = []) (front : List Char) :
    marker <:+: redactedText front (mention :: later) ↔
      marker <:+: front ++ secretName ∨ marker <:+: redactedText mention.after later := by
  have hfirst : ∀ c ∈ (redaction ++ redactedText mention.after later).head?, c ∉ marker := by
    intro c hc
    obtain rfl := Option.some.inj hc
    exact hclear.bracket
  have hnext : ∀ c ∈ (redactedText mention.after later).head?, c ∉ marker := by
    intro c hc hmem
    have hstop := isBlank_of_head?_after hblank hlast Mention.redacted c hc
    rw [hclear.solid c hmem] at hstop
    cases hstop
  rw [redactedText_cons, Text.infix_append_iff_of_head hfirst, Text.infix_append_iff_of_head hnext,
    or_iff_right hclear.other]

namespace Keyed

variable {front : List Char} {mentions : List Mention}

/-- Redacting replaces the values of the keys, and nothing else. -/
theorem redactSecrets_eq (hkeyed : Keyed front mentions) :
    redactSecrets (writtenText front mentions) =
      (redactedText front mentions, mentions.length) := by
  induction hkeyed with
  | last hfront =>
    rw [writtenText, redactedText, List.flatMap_nil, List.flatMap_nil, List.append_nil]
    exact redactSecrets_of_none ((Text.noneBegins_end_iff secretMarker_ne_nil).1 hfront)
  | @mention front mention later hfront hsecret hblank hlast hlater ih =>
    obtain ⟨behind, hvalue, hends⟩ := hsecret.exists_behind
    have hrest := hends _ (isBlank_of_head?_after hblank hlast Mention.written)
    rw [← writtenText] at hrest
    have hwritten := flatMap_written_cons mention later
    rw [hvalue, List.append_assoc] at hwritten
    rw [hwritten] at hfront
    rw [writtenText, hwritten, ← List.append_assoc, redactSecrets_of_marker hfront, hrest, ih,
      redactedText_cons, List.length_cons, List.append_assoc _ redaction]

/-- A redacted text holds no secret. -/
theorem not_secret_redactedText (hkeyed : Keyed front mentions) :
    ¬ secretMarker <:+: redactedText front mentions := by
  induction hkeyed with
  | last hfront =>
    rw [redactedText, List.flatMap_nil, List.append_nil]
    exact (Text.noneBegins_end_iff secretMarker_ne_nil).1 hfront
  | @mention front mention later hfront hsecret hblank hlast hlater ih =>
    obtain ⟨behind, hvalue, -⟩ := hsecret.exists_behind
    rw [flatMap_written_cons, hvalue, List.append_assoc] at hfront
    -- the name alone is a part of the first secret, before which none begins
    have hname : ¬ secretMarker <:+: front ++ secretName :=
      hfront.not_infix_append (List.prefix_append _ _) (by decide)
    rw [keepsClear_secretMarker.infix_redactedText_cons_iff hblank hlast, not_or]
    exact ⟨hname, ih⟩

/-- Redacting forms no opening of a script block. -/
theorem opening_of_redactedText (hkeyed : Keyed front mentions)
    (hoccurs : scriptOpening <:+: redactedText front mentions) :
    scriptOpening <:+: writtenText front mentions := by
  induction hkeyed with
  | last hfront => exact hoccurs
  | @mention front mention later hfront hsecret hblank hlast hlater ih =>
    have hname : ∀ c ∈ secretName.head?, c ∉ scriptOpening := by
      intro c hc
      obtain rfl := Option.some.inj hc
      decide
    have hnot : ¬ scriptOpening <:+: secretName := by decide
    rw [keepsClear_scriptOpening.infix_redactedText_cons_iff hblank hlast,
      Text.infix_append_iff_of_head hname, or_iff_left hnot] at hoccurs
    rw [writtenText, flatMap_written_cons]
    rcases hoccurs with hfront | hlater
    · exact hfront.trans (List.prefix_append _ _).isInfix
    · exact (ih hlater).trans
        ((List.suffix_append _ _).trans (List.suffix_append _ _)).isInfix

end Keyed

/-! ## Sanitized texts -/

theorem sanitize_eq (text : String) :
    sanitize text =
      ⟨.ofList (Text.trimEndChars (redactSecrets (stripScripts text.toList).1).1),
        (redactSecrets (stripScripts text.toList).1).2, (stripScripts text.toList).2⟩ :=
  rfl

/-- No sanitized text holds a secret. -/
theorem not_secret_sanitize (text : String) :
    ¬ secretMarker <:+: (sanitize text).text.toList := by
  obtain ⟨front, mentions, hkeyed, hunscripted⟩ := exists_keyed (stripScripts text.toList).1
  obtain ⟨blanks, -, hclean⟩ :=
    Text.exists_trimEndChars_append (redactSecrets (stripScripts text.toList).1).1
  rw [hunscripted, hkeyed.redactSecrets_eq] at hclean
  rw [sanitize_eq, String.toList_ofList, hunscripted, hkeyed.redactSecrets_eq]
  intro hoccurs
  refine hkeyed.not_secret_redactedText (hoccurs.trans ?_)
  exact ⟨[], blanks, hclean.symm⟩

/-- A sanitized text opens a script block where the text did after both passes. -/
theorem opening_sanitize_iff (text : String) :
    scriptOpening <:+: (sanitize text).text.toList ↔
      scriptOpening <:+: (redactSecrets (stripScripts text.toList).1).1 := by
  have hlast : Text.isBlank '>' = false := by decide
  have hends : scriptOpening = ['<', 's', 'c', 'r', 'i', 'p', 't'] ++ ['>'] := rfl
  rw [sanitize_eq, String.toList_ofList, hends, Text.infix_trimEndChars_iff hlast]

/-- Where there are no markers, sanitizing takes away white space at the end and nothing else. -/
theorem sanitize_of_none {text : String} (hopening : ¬ scriptOpening <:+: text.toList)
    (hsecret : ¬ secretMarker <:+: text.toList) :
    sanitize text = ⟨.ofList (Text.trimEndChars text.toList), 0, 0⟩ := by
  rw [sanitize_eq, stripScripts_of_none hopening, redactSecrets_of_none hsecret]

theorem trimEndChars_sanitize (text : String) :
    String.ofList (Text.trimEndChars (sanitize text).text.toList) = (sanitize text).text := by
  rw [sanitize_eq, String.toList_ofList, Text.trimEndChars_trimEndChars]

/-- Sanitizing settles a text: nothing in the result opens a script block, and sanitizing the result
again changes nothing and counts nothing. -/
structure Settled (text : String) : Prop where
  /-- No script block is opened. -/
  noOpening : ¬ scriptOpening <:+: (sanitize text).text.toList
  /-- The result stays as it is. -/
  again : sanitize (sanitize text).text = ⟨(sanitize text).text, 0, 0⟩

theorem settled_iff (text : String) :
    Settled text ↔ ¬ scriptOpening <:+: (sanitize text).text.toList := by
  refine ⟨Settled.noOpening, fun hopening => ⟨hopening, ?_⟩⟩
  rw [sanitize_of_none hopening (not_secret_sanitize text), trimEndChars_sanitize]

/-- Every text is settled unless the pieces outside of its script blocks form an opening where they
are joined, and such an opening unsettles it unless it goes with the value of a key. -/
theorem settled_unless_formed (text : String) :
    (∃ pieces, Outside text.toList pieces) ∧ ∀ pieces, Outside text.toList pieces →
      (¬ FormedAtJoint scriptOpening pieces → Settled text) ∧
      (Settled text ↔ ¬ scriptOpening <:+: (redactSecrets pieces.flatten).1) := by
  refine ⟨exists_outside _, fun pieces houtside => ?_⟩
  have hstripped := congrArg Prod.fst houtside.stripScripts_eq
  have hsettled : Settled text ↔ ¬ scriptOpening <:+: (redactSecrets pieces.flatten).1 := by
    rw [settled_iff, opening_sanitize_iff, hstripped]
  refine ⟨fun hformed => hsettled.2 fun hoccurs => hformed ?_, hsettled⟩
  obtain ⟨front, mentions, hkeyed, hjoined⟩ := exists_keyed pieces.flatten
  rw [hjoined, hkeyed.redactSecrets_eq] at hoccurs
  rw [← Text.infix_flatten_iff scriptOpening_ne_nil houtside.not_opening, hjoined]
  exact hkeyed.opening_of_redactedText hoccurs

/-- A note with a script block and a key. -/
def scriptedNote : String :=
  "forge <script>alert(1)</script> api_key=sk-1 mill"

theorem outside_scriptedNote :
    Outside scriptedNote.toList ["forge ".toList, " api_key=sk-1 mill".toList] := by
  have hblock : scriptedNote.toList = "forge ".toList ++ scriptOpening ++
      ("alert(1)".toList ++ scriptClosing ++ " api_key=sk-1 mill".toList) := by decide +kernel
  rw [hblock]
  exact .closed (by decide +kernel) (by decide +kernel) (.whole (by decide +kernel))

theorem scriptedNote_settled :
    Outside scriptedNote.toList ["forge ".toList, " api_key=sk-1 mill".toList] ∧
      ¬ FormedAtJoint scriptOpening ["forge ".toList, " api_key=sk-1 mill".toList] ∧
      Settled scriptedNote := by
  have hformed : ¬ FormedAtJoint scriptOpening ["forge ".toList, " api_key=sk-1 mill".toList] :=
    mt FormedAtJoint.infix_flatten (by decide +kernel)
  exact ⟨outside_scriptedNote, hformed,
    ((settled_unless_formed scriptedNote).2 _ outside_scriptedNote).1 hformed⟩

/-- A script block that stands inside of an opening. -/
def nestedScript : String :=
  "<scr<script></script>ipt>"

/-- Taking it out leaves an opening. -/
theorem nestedScript_opens :
    sanitize nestedScript = ⟨"<script>", 0, 1⟩ ∧ ¬ Settled nestedScript := by
  have hblock : nestedScript.toList =
      "<scr".toList ++ scriptOpening ++ ([] ++ scriptClosing ++ "ipt>".toList) := by decide +kernel
  have houtside : Outside nestedScript.toList ["<scr".toList, "ipt>".toList] := by
    rw [hblock]
    exact .closed (by decide +kernel) (Text.noneBegins_nil _ _) (.whole (by decide +kernel))
  have hsanitize : sanitize nestedScript = ⟨"<script>", 0, 1⟩ := by
    have hsecret : ¬ secretMarker <:+: ["<scr".toList, "ipt>".toList].flatten := by decide +kernel
    rw [sanitize_eq, houtside.stripScripts_eq, redactSecrets_of_none hsecret]
    decide +kernel
  refine ⟨hsanitize, fun hsettled => hsettled.noOpening ?_⟩
  rw [hsanitize]
  decide +kernel

end Benchmark

end Recollection
