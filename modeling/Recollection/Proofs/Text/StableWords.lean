import Recollection.Proofs.Text.Blank
import Recollection.Proofs.Text.Lowercase
import Recollection.Proofs.Text.Words
/-!
# Words of words

A text is split into words before the words are put in lower case. As lower case leaves alphanumeric
characters alphanumeric, a word that is read once more is the same word; only the dot that is added
to a dotted capital splits it. Words that are put in a row are read one after the other.
-/

set_option autoImplicit false

namespace Recollection.Text

/-! ## Runs -/

section Runs

variable {run text : List Char}

theorem closeRun_append (run : List Char) (runs : List (List Char)) :
    closeRun run [] ++ runs = closeRun run runs := by
  cases run <;> rfl

/-- Alphanumeric characters all go to the run that is being read. -/
theorem alphanumericRuns_of_all (htext : ∀ c ∈ text, isAlphanumeric c = true) :
    alphanumericRuns run text = closeRun (text.reverse ++ run) [] := by
  induction text generalizing run with
  | nil => rfl
  | cons c rest ih =>
    obtain ⟨hc, hrest⟩ := List.forall_mem_cons.1 htext
    rw [alphanumericRuns, if_pos hc, ih hrest, List.reverse_cons, List.append_assoc]
    rfl

/-- No run goes on behind a character that is not alphanumeric. -/
theorem alphanumericRuns_append_cons {c : Char} (hc : isAlphanumeric c = false)
    (rest : List Char) : alphanumericRuns run (text ++ c :: rest) =
      alphanumericRuns run text ++ alphanumericRuns [] rest := by
  have hends : ¬ isAlphanumeric c = true := by
    rw [hc]
    exact Bool.false_ne_true
  induction text generalizing run with
  | nil =>
    rw [List.nil_append, alphanumericRuns, alphanumericRuns, if_neg hends, closeRun_append]
  | cons first more ih =>
    rw [List.cons_append, alphanumericRuns, alphanumericRuns]
    split
    · exact ih
    · rw [ih, ← closeRun_append, ← closeRun_append run (alphanumericRuns [] more),
        List.append_assoc]

theorem alphanumericRuns_eq_nil_iff :
    alphanumericRuns run text = [] ↔ run = [] ∧ ∀ c ∈ text, isAlphanumeric c = false := by
  induction text generalizing run with
  | nil => cases run <;> simp [alphanumericRuns, closeRun]
  | cons c rest ih =>
    rw [alphanumericRuns, List.forall_mem_cons]
    split
    · rename_i hc
      simp [ih, hc]
    · rename_i hc
      rw [← closeRun_append, List.append_eq_nil_iff, ih]
      cases run <;> simp [closeRun, hc]

end Runs

/-! ## Words in a row -/

theorem words_eq_nil_iff (text : String) :
    words text = [] ↔ ∀ c ∈ text.toList, isAlphanumeric c = false := by
  rw [words, List.map_eq_nil_iff, alphanumericRuns_eq_nil_iff, and_iff_right rfl]

/-- A text with words is visible. -/
theorem isBlankText_of_words {text : String} (hwords : words text ≠ []) :
    isBlankText text = false := by
  rw [ne_eq, words_eq_nil_iff] at hwords
  simp only [not_forall, Bool.not_eq_false] at hwords
  obtain ⟨c, hmem, hc⟩ := hwords
  exact (isBlankText_eq_false_iff text).2 ⟨c, hmem, isBlank_eq_false_of_isAlphanumeric hc⟩

theorem words_append_blank (first rest : String) :
    words (first ++ " " ++ rest) = words first ++ words rest := by
  have hblank : isAlphanumeric ' ' = false := by decide +kernel
  have htext : (first ++ " " ++ rest).toList = first.toList ++ ' ' :: rest.toList := by
    rw [String.toList_append, String.toList_append, List.append_assoc]
    rfl
  rw [words, htext, alphanumericRuns_append_cons hblank, List.map_append, words, words]

/-- The words of texts in a row are those of the texts. -/
theorem words_intercalate (texts : List String) :
    words (" ".intercalate texts) = texts.flatMap words := by
  induction texts with
  | nil => rfl
  | cons first rest ih =>
    cases rest with
    | nil => rw [String.intercalate_singleton, List.flatMap_singleton]
    | cons second rest =>
      rw [String.intercalate_cons_cons, words_append_blank, ih]
      rfl

/-! ## Words of a word -/

section Word

variable {text word : String} (hmem : word ∈ words text)

include hmem

/-- A word is an alphanumeric run in lower case. -/
theorem exists_run_of_mem_words :
    ∃ run, run ≠ [] ∧ (∀ c ∈ run, isAlphanumeric c = true) ∧ (∀ c ∈ run, c ∈ text.toList) ∧
      word.toList = lowerAfter [] run := by
  obtain ⟨before, run, after, htext, hrun, rfl⟩ := (mem_words_iff text word).1 hmem
  refine ⟨run, hrun.nonempty, hrun.alphanumeric, ?_, String.toList_ofList⟩
  intro c hc
  rw [htext]
  exact List.mem_append_left _ (List.mem_append_right _ hc)

/-- It begins with a settled character. -/
theorem exists_isSettled_mem : ∃ c ∈ word.toList, IsSettled c := by
  obtain ⟨run, hne, hrun, -, hword⟩ := exists_run_of_mem_words hmem
  obtain ⟨c, rest, rfl⟩ := List.exists_cons_of_ne_nil hne
  obtain ⟨first, hfirst, hlower⟩ := lowerAfter_cons (hrun c List.mem_cons_self) [] rest
  rw [hword, hlower]
  exact ⟨first, List.mem_cons_self, hfirst⟩

theorem isSettled_or_eq_dotAbove_of_mem : ∀ c ∈ word.toList, IsSettled c ∨ c = dotAbove := by
  obtain ⟨run, -, hrun, -, hword⟩ := exists_run_of_mem_words hmem
  rw [hword]
  exact isSettled_or_eq_dotAbove hrun

theorem dottedCapital_notMem : dottedCapital ∉ word.toList := by
  obtain ⟨run, -, hrun, -, hword⟩ := exists_run_of_mem_words hmem
  rw [hword]
  exact dottedCapital_notMem_lowerAfter hrun

/-- A dot above comes from a dotted capital. -/
theorem dottedCapital_mem_of_dotAbove_mem (hdot : dotAbove ∈ word.toList) :
    dottedCapital ∈ text.toList := by
  obtain ⟨run, -, hrun, htext, hword⟩ := exists_run_of_mem_words hmem
  rw [hword, dotAbove_mem_lowerAfter_iff hrun] at hdot
  exact htext _ hdot

end Word

/-- A text of settled characters is one word, namely itself. -/
theorem words_of_settled {word : String} (hne : word ≠ "")
    (hsettled : ∀ c ∈ word.toList, IsSettled c) : words word = [word] := by
  have hchars : word.toList ≠ [] := by
    rwa [ne_eq, String.toList_eq_nil_iff]
  rw [words, alphanumericRuns_of_all fun c hmem => (hsettled c hmem).alphanumeric, List.append_nil,
    closeRun, if_neg (by simpa using hchars), List.reverse_reverse, List.map_singleton, lowerChars,
    lowerAfter_of_settled [] hsettled, String.ofList_toList]

/-- What every word of a text is. -/
structure IsIndexWord (text word : String) : Prop where
  /-- It is not empty. -/
  nonempty : word ≠ ""
  /-- Its characters are alphanumeric, up to dots above. -/
  characters : ∀ c ∈ word.toList, isAlphanumeric c = true ∨ c = dotAbove
  /-- There is such a dot only if the text has a dotted capital. -/
  dotted : dotAbove ∈ word.toList → dottedCapital ∈ text.toList
  /-- Without it, and only then, the word is read as the same single word again. -/
  stable : words word = [word] ↔ dotAbove ∉ word.toList
  /-- In any case it is read as words. -/
  readable : words word ≠ []

theorem isIndexWord_of_mem_words {text word : String} (hmem : word ∈ words text) :
    IsIndexWord text word := by
  have hshape := isSettled_or_eq_dotAbove_of_mem hmem
  obtain ⟨first, hfirst, hsettled⟩ := exists_isSettled_mem hmem
  have hnonempty : word ≠ "" := by
    rintro rfl
    exact List.not_mem_nil hfirst
  refine ⟨hnonempty, ?characters, dottedCapital_mem_of_dotAbove_mem hmem, ?stable, ?readable⟩
  case characters =>
    intro c hc
    exact (hshape c hc).imp_left IsSettled.alphanumeric
  case stable =>
    constructor
    · -- a word with a dot would have a dotted capital, if it were a word of itself
      intro hstable hdot
      have hself : word ∈ words word := by
        rw [hstable]
        exact List.mem_singleton_self word
      exact dottedCapital_notMem hmem (dottedCapital_mem_of_dotAbove_mem hself hdot)
    · intro hdotless
      refine words_of_settled hnonempty ?_
      intro c hc
      exact (hshape c hc).resolve_right fun heq => hdotless (heq ▸ hc)
  case readable =>
    rw [ne_eq, words_eq_nil_iff]
    intro hnone
    exact Bool.false_ne_true ((hnone first hfirst).symm.trans hsettled.alphanumeric)

end Recollection.Text
