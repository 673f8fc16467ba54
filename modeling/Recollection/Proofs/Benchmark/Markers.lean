import Recollection.Proofs.Benchmark.Sanitized
import Recollection.Proofs.Benchmark.Workload
/-!
# Markers of generated events

The words of an event have no character of a marker that the markers could not do without. So a
marker is found in the text of an event just where it was put, and what sanitizing takes out is what
was put in: of the key its name is left, of the script block nothing, and of the blank before the
block nothing either, as it comes to stand at the end.
-/

set_option autoImplicit false

namespace Recollection.Benchmark

/-! ## The characters of an event -/

/-- The characters of some words in a row are blanks and characters of the words. -/
theorem mem_intercalate {words : List String} {c : Char}
    (hmem : c ∈ (" ".intercalate words).toList) : c = ' ' ∨ ∃ word ∈ words, c ∈ word.toList := by
  induction words with
  | nil => simp at hmem
  | cons word rest ih =>
    cases rest with
    | nil =>
      rw [String.intercalate_singleton] at hmem
      exact .inr ⟨word, List.mem_cons_self, hmem⟩
    | cons next rest =>
      rw [String.intercalate_cons_cons, String.toList_append, String.toList_append,
        List.mem_append, List.mem_append] at hmem
      rcases hmem with (hword | hblank) | hrest
      · exact .inr ⟨word, List.mem_cons_self, hword⟩
      · exact .inl (List.mem_singleton.1 hblank)
      · rcases ih hrest with hblank | ⟨other, hother, hc⟩
        · exact .inl hblank
        · exact .inr ⟨other, List.mem_cons_of_mem _ hother, hc⟩

/-- The words of the vocabulary are letters, and at least one of them. -/
theorem letters_of_mem_vocabulary {word : String} (hword : word ∈ vocabulary) :
    word ≠ "" ∧ ∀ c ∈ word.toList, c.isLower = true ∧ Text.isBlank c = false := by
  have hall : ∀ word ∈ vocabulary,
      word ≠ "" ∧ (word.toList.all fun c => c.isLower && !Text.isBlank c) = true := by decide
  obtain ⟨hnonempty, hletters⟩ := hall word hword
  refine ⟨hnonempty, fun c hc => ?_⟩
  simpa using List.all_eq_true.1 hletters c hc

section Words

variable {words : List String} (hwords : ∀ word ∈ words, word ∈ vocabulary)

include hwords

/-- Nothing but letters and blanks is found in some words in a row. -/
theorem not_mem_words {c : Char} (hblank : c ≠ ' ') (hlower : c.isLower = false) :
    c ∉ (" ".intercalate words).toList := by
  intro hmem
  rcases mem_intercalate hmem with hsame | ⟨word, hword, hc⟩
  · exact hblank hsame
  · rw [((letters_of_mem_vocabulary (hwords word hword)).2 c hc).1] at hlower
    cases hlower

/-- Words in a row do not end in white space. -/
theorem isBlank_of_getLast?_words :
    ∀ c ∈ (" ".intercalate words).toList.getLast?, Text.isBlank c = false := by
  induction words with
  | nil => simp
  | cons word rest ih =>
    rw [List.forall_mem_cons] at hwords
    cases rest with
    | nil =>
      intro c hc
      rw [String.intercalate_singleton] at hc
      exact ((letters_of_mem_vocabulary hwords.1).2 c (List.mem_of_getLast? hc)).2
    | cons next rest =>
      have hnonempty : (" ".intercalate (next :: rest)).toList ≠ [] := by
        have hnext := (letters_of_mem_vocabulary (hwords.2 next List.mem_cons_self)).1
        cases rest <;> simp [hnext]
      rw [String.intercalate_cons_cons, String.toList_append,
        List.getLast?_append_of_ne_nil _ hnonempty]
      exact ih hwords.2

end Words

/-- The characters of a hexadecimal numeral are digits of its base. -/
theorem mem_hexadecimal {n : Nat} {c : Char} (hmem : c ∈ Text.hexadecimal n) :
    ∃ digit < 16, c = Nat.digitChar digit := by
  induction n using Nat.strongRecOn with
  | ind n ih =>
    rw [Text.hexadecimal, Nat.toDigits_eq_if (by decide)] at hmem
    split at hmem
    · rename_i hless
      exact ⟨n, hless, List.mem_singleton.1 hmem⟩
    · rename_i hless
      rcases List.mem_append.1 hmem with hhigh | hlow
      · exact ih (n / 16) (by omega) hhigh
      · exact ⟨n % 16, Nat.mod_lt n (by decide), List.mem_singleton.1 hlow⟩

/-- The digits of a key. -/
def keyDigits (key : UInt64) : List Char :=
  (Text.padded 16 (Text.hexadecimal key.toNat)).toList

/-- No digit of a key is white space or opens markup. -/
theorem plain_of_mem_keyDigits {key : UInt64} {c : Char} (hmem : c ∈ keyDigits key) :
    c ≠ '<' ∧ Text.isBlank c = false := by
  have hall : ∀ digit < 16, Nat.digitChar digit ≠ '<' ∧
      Text.isBlank (Nat.digitChar digit) = false := by decide
  rw [keyDigits, Text.padded, String.toList_ofList] at hmem
  rcases List.mem_append.1 hmem with hzero | hdigit
  · rw [List.eq_of_mem_replicate hzero]
    exact hall 0 (by decide)
  · obtain ⟨digit, hless, rfl⟩ := mem_hexadecimal hdigit
    exact hall digit hless

theorem toList_secretText (key : UInt64) :
    (secretText key).toList = ' ' :: secretMarker ++ keyDigits key := by
  rw [secretText, String.toList_append, String.toList_append, String.toList_ofList]
  rfl

/-- What is in the script block of an event. -/
def scriptContent (index : Nat) : List Char :=
  ['a', 'l', 'e', 'r', 't', '('] ++ (toString index).toList ++ [')']

theorem toList_scriptText (index : Nat) :
    (scriptText index).toList = ' ' :: scriptOpening ++ (scriptContent index ++ scriptClosing) := by
  have hcall : "alert(".toList = ['a', 'l', 'e', 'r', 't', '('] := rfl
  have hend : ")".toList = [')'] := rfl
  simp only [scriptText, scriptContent, String.toList_append, String.toList_ofList, hcall, hend,
    List.append_assoc]
  rfl

/-- Nothing but the call and digits is found in the block. -/
theorem not_mem_scriptContent {c : Char} (hcall : c ∉ ['a', 'l', 'e', 'r', 't', '(', ')'])
    (hdigit : c.isDigit = false) (index : Nat) : c ∉ scriptContent index := by
  rw [scriptContent, List.mem_append, List.mem_append]
  rintro ((hfront | hmem) | hback)
  · exact hcall (List.mem_append_left [')'] hfront)
  · rw [Numeral.isDigit_of_mem_toString hmem] at hdigit
    cases hdigit
  · exact hcall (List.mem_append_right ['a', 'l', 'e', 'r', 't', '('] hback)

/-! ## What is taken out -/

theorem not_infix_of_not_mem {c : Char} {marker text : List Char} (hc : c ∈ marker)
    (hnot : c ∉ text) : ¬ marker <:+: text :=
  fun hoccurs => hnot (hoccurs.subset hc)

/-- The script block of an event is taken out, and the blank in front of it is left. -/
theorem stripScripts_scriptText {before : List Char} (hnot : '<' ∉ before) (index : Nat) :
    stripScripts (before ++ (scriptText index).toList) = (before ++ [' '], 1) := by
  have hblank : '<' ∉ before ++ [' '] := List.not_mem_append hnot (by decide)
  have hcontent : '<' ∉ scriptContent index :=
    not_mem_scriptContent (by decide) (by decide) index
  have htext : before ++ (scriptText index).toList =
      (before ++ [' ']) ++ scriptOpening ++ (scriptContent index ++ scriptClosing ++ []) := by
    rw [toList_scriptText]
    simp
  have houtside : Outside (before ++ (scriptText index).toList) [before ++ [' '], []] := by
    rw [htext]
    exact .closed (Text.noneBegins_of_not_mem hblank _ _) (Text.noneBegins_of_not_mem hcontent _ _)
      (.whole (by decide))
  rw [houtside.stripScripts_eq]
  simp

/-- The key of an event is redacted. -/
theorem redactSecrets_secretText {front after : List Char} (hfront : '_' ∉ front)
    (hafter : ∀ c ∈ after, c = ' ') (key : UInt64) :
    redactSecrets (front ++ (secretText key).toList ++ after) =
      (front ++ " api_key=[REDACTED]".toList ++ after, 1) := by
  have hmarker : ¬ secretMarker <:+: front := not_infix_of_not_mem (by decide) hfront
  have hnone : ¬ secretMarker <:+: after :=
    not_infix_of_not_mem (c := '_') (by decide) fun hmem => absurd (hafter _ hmem) (by decide)
  have hblank : ∀ c ∈ after.head?, Text.isBlank c = true := by
    intro c hc
    rw [hafter c (List.mem_of_mem_head? hc)]
    decide
  have hsolid : ∀ c ∈ ['s', 'k', '-'] ++ keyDigits key, Text.isBlank c = false := by
    intro c hc
    rcases List.mem_append.1 hc with hmark | hdigit
    · exact Text.solid_of_any_eq_false (by decide) c hmark
    · exact (plain_of_mem_keyDigits hdigit).2
  have hkeyed : Keyed (front ++ [' ']) [⟨['s', 'k', '-'] ++ keyDigits key, after⟩] :=
    .mention (Text.noneBegins_append_singleton (by decide) hmarker _)
      ⟨List.prefix_append _ _, hsolid⟩ hblank (fun _ => rfl)
      (.last ((Text.noneBegins_end_iff secretMarker_ne_nil).2 hnone))
  have htext : front ++ (secretText key).toList ++ after =
      writtenText (front ++ [' ']) [⟨['s', 'k', '-'] ++ keyDigits key, after⟩] := by
    rw [toList_secretText, writtenText, List.flatMap_singleton, Mention.written, secretMarker]
    simp
  have hclean : " api_key=[REDACTED]".toList = ' ' :: secretName ++ redaction := rfl
  rw [htext, hkeyed.redactSecrets_eq, redactedText, List.flatMap_singleton, Mention.redacted,
    hclean]
  simp

/-! ## The text of an event -/

/-- The words of an event, with the name of a key and no value if it carries one. -/
def cleanText (index : Nat) (words : List String) : String :=
  " ".intercalate words ++ (if carriesSecret index then " api_key=[REDACTED]" else "")

section Event

variable {words : List String} (hwords : ∀ word ∈ words, word ∈ vocabulary) (index : Nat)
  (key : UInt64)

theorem toList_eventText :
    (eventText index words key).toList =
      (" ".intercalate words).toList ++
        (if carriesSecret index then (secretText key).toList else []) ++
        (if carriesScript index then (scriptText index).toList else []) := by
  rw [eventText, String.toList_append, String.toList_append]
  cases carriesSecret index <;> cases carriesScript index <;> rfl

include hwords

/-- Markup is opened nowhere in front of the script block. -/
theorem not_mem_before_script :
    '<' ∉ (" ".intercalate words).toList ++
      (if carriesSecret index then (secretText key).toList else []) := by
  refine List.not_mem_append (not_mem_words hwords (by decide) (by decide)) ?_
  split
  · rw [toList_secretText]
    refine List.not_mem_append (by decide) fun hmem => ?_
    exact (plain_of_mem_keyDigits hmem).1 rfl
  · simp

/-- An event opens a script block exactly if it carries one. -/
theorem opening_eventText_iff :
    scriptOpening <:+: (eventText index words key).toList ↔ carriesScript index = true := by
  have hbefore := not_mem_before_script hwords index key
  rw [toList_eventText]
  cases carriesScript index with
  | true =>
    refine iff_of_true ?_ rfl
    rw [if_pos rfl, toList_scriptText]
    refine List.IsInfix.trans ?_ (List.suffix_append _ _).isInfix
    exact ⟨[' '], scriptContent index ++ scriptClosing, rfl⟩
  | false =>
    refine iff_of_false ?_ Bool.false_ne_true
    rw [if_neg Bool.false_ne_true, List.append_nil]
    exact not_infix_of_not_mem (by decide) hbefore

/-- An event holds a secret exactly if it carries one. -/
theorem secret_eventText_iff :
    secretMarker <:+: (eventText index words key).toList ↔ carriesSecret index = true := by
  rw [toList_eventText]
  cases carriesSecret index with
  | true =>
    refine iff_of_true ?_ rfl
    rw [if_pos rfl, toList_secretText, List.append_assoc]
    refine List.IsInfix.trans ?_ (List.suffix_append _ _).isInfix
    refine List.IsInfix.trans ?_ (List.prefix_append _ _).isInfix
    exact ⟨[' '], keyDigits key, rfl⟩
  | false =>
    refine iff_of_false (not_infix_of_not_mem (c := '_') (by decide) ?_) Bool.false_ne_true
    rw [if_neg Bool.false_ne_true, List.append_nil]
    refine List.not_mem_append (not_mem_words hwords (by decide) (by decide)) ?_
    split
    · rw [toList_scriptText]
      refine List.not_mem_append (by decide) (List.not_mem_append ?_ (by decide))
      exact not_mem_scriptContent (by decide) (by decide) index
    · simp

/-- The key of an event is redacted if it carries one. -/
theorem redactSecrets_words {after : List Char} (hafter : ∀ c ∈ after, c = ' ') :
    redactSecrets ((" ".intercalate words).toList ++
        (if carriesSecret index then (secretText key).toList else []) ++ after) =
      ((cleanText index words).toList ++ after, if carriesSecret index then 1 else 0) := by
  have hwordsClean := not_mem_words hwords (c := '_') (by decide) (by decide)
  rw [cleanText]
  cases carriesSecret index with
  | true =>
    simp only [if_true, String.toList_append]
    exact redactSecrets_secretText hwordsClean hafter key
  | false =>
    have hnone : '_' ∉ (" ".intercalate words).toList ++ after :=
      List.not_mem_append hwordsClean fun hmem => absurd (hafter _ hmem) (by decide)
    simp only [Bool.false_eq_true, if_false, List.append_nil, String.append_empty]
    exact redactSecrets_of_none (not_infix_of_not_mem (by decide) hnone)

/-- What is left of an event does not end in white space. -/
theorem isBlank_of_getLast?_cleanText :
    ∀ c ∈ (cleanText index words).toList.getLast?, Text.isBlank c = false := by
  rw [cleanText]
  cases carriesSecret index with
  | true =>
    rw [if_pos rfl, String.toList_append, List.getLast?_append_of_ne_nil _ (by decide)]
    intro c hc
    obtain rfl : ']' = c := Option.some.inj hc
    decide
  | false =>
    rw [if_neg Bool.false_ne_true, String.append_empty]
    exact isBlank_of_getLast?_words hwords

/-- What is left of an event are its words, and the name of its key. -/
theorem sanitize_eventText :
    sanitize (eventText index words key) =
      ⟨cleanText index words, if carriesSecret index then 1 else 0,
        if carriesScript index then 1 else 0⟩ := by
  have hbefore := not_mem_before_script hwords index key
  have hstripped : stripScripts (eventText index words key).toList =
      ((" ".intercalate words).toList ++
          (if carriesSecret index then (secretText key).toList else []) ++
          (if carriesScript index then [' '] else []),
        if carriesScript index then 1 else 0) := by
    rw [toList_eventText]
    cases carriesScript index with
    | true => exact stripScripts_scriptText hbefore index
    | false =>
      simp only [Bool.false_eq_true, if_false, List.append_nil]
      exact stripScripts_of_none (not_infix_of_not_mem (by decide) hbefore)
  have hblanks : ∀ c ∈ (if carriesScript index then [' '] else []), c = ' ' := by
    split <;> simp
  have hredacted := redactSecrets_words hwords index key hblanks
  have hspace : Text.isBlank ' ' = true := by decide
  have htrimmed := (Text.trimEndChars_append (fun c hc => (hblanks c hc).symm ▸ hspace) _).trans
    (Text.trimEndChars_of_getLast? (isBlank_of_getLast?_cleanText hwords index))
  rw [sanitize_eq, hstripped, hredacted, htrimmed, String.ofList_toList]

end Event

theorem carriesSecret_iff (index : Nat) : carriesSecret index = true ↔ 7 ∣ index + 1 := by
  rw [carriesSecret, beq_iff_eq, Nat.dvd_iff_mod_eq_zero]

theorem carriesScript_iff (index : Nat) : carriesScript index = true ↔ 11 ∣ index + 1 := by
  rw [carriesScript, beq_iff_eq, Nat.dvd_iff_mod_eq_zero]

/-! ## Generated events -/

/-- A text of some words is marked as its index tells, and sanitizing takes out just the marks. -/
structure Marked (index : Nat) (words : List String) (text : String) : Prop where
  /-- Every seventh text holds a secret. -/
  secret_iff : secretMarker <:+: text.toList ↔ 7 ∣ index + 1
  /-- Every eleventh text opens a script block. -/
  script_iff : scriptOpening <:+: text.toList ↔ 11 ∣ index + 1
  /-- The words are left, with the name of a key if there is one, and the marks are counted. -/
  sanitized : sanitize text =
    ⟨" ".intercalate words ++ (if 7 ∣ index + 1 then " api_key=[REDACTED]" else ""),
      if 7 ∣ index + 1 then 1 else 0, if 11 ∣ index + 1 then 1 else 0⟩
  /-- There is no white space at the end. -/
  solidEnd : ∀ c ∈ (sanitize text).text.toList.getLast?, Text.isBlank c = false
  /-- No secret is left. -/
  noSecret : ¬ secretMarker <:+: (sanitize text).text.toList
  /-- No markup is left. -/
  noMarkup : '<' ∉ (sanitize text).text.toList

/-- Whatever the words, the index and the key are, the text is marked. -/
theorem marked_eventText {words : List String} (hwords : ∀ word ∈ words, word ∈ vocabulary)
    (index : Nat) (key : UInt64) : Marked index words (eventText index words key) := by
  have hsanitize := sanitize_eventText hwords index key
  have hend := isBlank_of_getLast?_cleanText hwords index
  simp only [cleanText, carriesSecret_iff, carriesScript_iff] at hsanitize hend
  constructor
  case secret_iff => exact (secret_eventText_iff hwords index key).trans (carriesSecret_iff index)
  case script_iff => exact (opening_eventText_iff hwords index key).trans (carriesScript_iff index)
  case sanitized => exact hsanitize
  case solidEnd => rwa [hsanitize]
  case noSecret => exact not_secret_sanitize _
  case noMarkup =>
    rw [hsanitize, String.toList_append]
    refine List.not_mem_append (not_mem_words hwords (by decide) (by decide)) ?_
    split <;> decide

/-- The event at an index is made of four to eight words of the vocabulary, and marked. -/
def MarkedEvent (storeId : String) (index : Nat) (event : Event) : Prop :=
  ∃ words key, 4 ≤ words.length ∧ words.length ≤ 8 ∧ (∀ word ∈ words, word ∈ vocabulary) ∧
    event = .make storeId index words key ∧ Marked index words event.text

theorem drawEvent_gives_marked (storeId : String) (index : Nat) :
    (drawEvent storeId index).Gives (MarkedEvent storeId index) := by
  refine .ofBind (Random.between64_gives (by decide)) fun count hcount => ?_
  refine .ofBind (Random.choose_gives vocabulary count) fun words hchosen => ?_
  obtain ⟨hlength, hwords⟩ := hchosen
  have hcounted : 4 ≤ words.length ∧ words.length ≤ 8 := by
    have hmany : vocabulary.length = 20 := rfl
    omega
  have hmarked : ∀ key, MarkedEvent storeId index (.make storeId index words key) := fun key =>
    ⟨words, key, hcounted.1, hcounted.2, hwords, rfl, marked_eventText hwords index key⟩
  split
  · exact .ofBind (.any _) fun key _ => .ofPure (hmarked key)
  · exact .ofPure (hmarked 0)

/-- The markers of an event are what sanitizing takes out of it, whatever its words and its key; so
it is for every event of a workload, from whatever stream it is drawn. -/
theorem events_marked :
    (∀ index words key, (∀ word ∈ words, word ∈ vocabulary) →
      Marked index words (eventText index words key)) ∧
    ∀ plan storeId,
      (drawWorkload plan storeId).Gives (fun workload =>
        List.Forall₂ (MarkedEvent storeId) (List.range plan.events.toNat) workload.events) ∧
      ∀ position, List.Forall₂ (MarkedEvent storeId) (List.range plan.events.toNat)
        (StoreWorkload.generate plan storeId position).events := by
  refine ⟨fun index words key hwords => marked_eventText hwords index key, fun plan storeId => ?_⟩
  have hgives : (drawWorkload plan storeId).Gives (fun workload =>
      List.Forall₂ (MarkedEvent storeId) (List.range plan.events.toNat) workload.events) := by
    refine .ofBind (.ofMapM fun index _ => drawEvent_gives_marked storeId index)
      fun events hevents => ?_
    exact .ofBind (.any _) fun queries _ => .ofPure hevents
  exact ⟨hgives, fun position => hgives _⟩

/-- The text that is the first to have both marks. -/
theorem doublyMarked :
    Marked 76 ["forge", "mill", "well", "tavern"]
      (eventText 76 ["forge", "mill", "well", "tavern"] 2026) ∧
    sanitize "forge mill well tavern api_key=sk-00000000000007ea <script>alert(76)</script>" =
      ⟨"forge mill well tavern api_key=[REDACTED]", 1, 1⟩ := by
  have hmarked := events_marked.1 76 ["forge", "mill", "well", "tavern"] 2026 (by decide)
  refine ⟨hmarked, Eq.trans ?_ hmarked.sanitized⟩
  exact congrArg sanitize (by decide +kernel)

end Recollection.Benchmark
