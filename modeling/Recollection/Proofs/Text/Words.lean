import Mathlib.Data.Set.Basic
import Recollection.Text.Words
/-!
# What a word is

A word of a text is a run of alphanumeric characters that cannot be made longer, in lower case. The
reader of words finds these runs and no others.
-/

set_option autoImplicit false

namespace Recollection.Text

/-- A run of alphanumeric characters, with what stands before and after it, that cannot be made
longer. -/
structure IsMaximalRun (before run after : List Char) : Prop where
  /-- It is not empty. -/
  nonempty : run ≠ []
  /-- All its characters are alphanumeric. -/
  alphanumeric : ∀ c ∈ run, isAlphanumeric c = true
  /-- The character before it, if there is one, is not. -/
  before : ∀ c ∈ before.getLast?, isAlphanumeric c = false
  /-- Nor is the character after it. -/
  after : ∀ c ∈ after.head?, isAlphanumeric c = false

/-- The words of a text. -/
def wordSet (text : String) : Set String :=
  {word | ∃ before run after, text.toList = before ++ run ++ after ∧
    IsMaximalRun before run after ∧ word = String.ofList (lowerChars run)}

theorem mem_closeRun_iff {run found : List Char} {runs : List (List Char)} :
    found ∈ closeRun run runs ↔ (run ≠ [] ∧ found = run.reverse) ∨ found ∈ runs := by
  cases run with
  | nil => simp [closeRun]
  | cons c rest => simp [closeRun]

section Split

variable {chars rest run : List Char}

theorem eq_nil_of_getLast? (halphanumeric : ∀ c ∈ chars, isAlphanumeric c = true)
    (hlast : ∀ c ∈ chars.getLast?, isAlphanumeric c = false) : chars = [] := by
  by_contra hne
  have hmem := List.getLast_mem hne
  have hnot := hlast _ (List.getLast?_eq_some_getLast hne)
  rw [halphanumeric _ hmem] at hnot
  cases hnot

theorem eq_nil_of_head? (halphanumeric : ∀ c ∈ chars, isAlphanumeric c = true)
    {more : List Char} (hfirst : ∀ c ∈ (chars ++ more).head?, isAlphanumeric c = false) :
    chars = [] := by
  cases chars with
  | nil => rfl
  | cons c rest =>
    have hnot := hfirst c rfl
    rw [halphanumeric c List.mem_cons_self] at hnot
    cases hnot

theorem getLast?_append_cons (before : List Char) (c : Char) (after : List Char) :
    (before ++ c :: after).getLast? = some (after.getLast?.getD c) := by
  rw [List.getLast?_append, List.getLast?_cons, Option.some_or]

/-- A character that is not in a run stands before it or behind it. -/
theorem exists_eq_append_of_notMem {before behind : List Char} {c : Char} (hnot : c ∉ run)
    (heq : before ++ run = chars ++ c :: behind) :
    ∃ part, before = chars ++ c :: part ∧ behind = part ++ run := by
  rcases List.append_eq_append_iff.1 heq with ⟨part, -, hpart⟩ | ⟨part, hbefore, hpart⟩
  · exact absurd (hpart ▸ List.mem_append_right _ List.mem_cons_self) hnot
  · cases part with
    | nil =>
      rw [List.nil_append] at hpart
      exact absurd (hpart ▸ List.mem_cons_self) hnot
    | cons d part =>
      obtain ⟨rfl, rfl⟩ := List.cons.inj hpart
      exact ⟨part, hbefore, rfl⟩

/-- A run that ends where the alphanumeric characters of a text end begins where they begin. -/
theorem IsMaximalRun.eq_of_append_eq {before after : List Char}
    (hrun : IsMaximalRun before run after) (hchars : ∀ c ∈ chars, isAlphanumeric c = true)
    (heq : before ++ run = chars) : chars ≠ [] ∧ run = chars := by
  subst heq
  have hnil := eq_nil_of_getLast?
    (fun c hmem => hchars c (List.mem_append_left _ hmem)) hrun.before
  subst hnil
  exact ⟨hrun.nonempty, rfl⟩

/-- Where all characters are alphanumeric, they are one run. -/
theorem exists_isMaximalRun_of_all (hchars : ∀ c ∈ chars, isAlphanumeric c = true) :
    (∃ before after, chars = before ++ run ++ after ∧ IsMaximalRun before run after) ↔
      chars ≠ [] ∧ run = chars := by
  constructor
  · rintro ⟨before, after, rfl, hrun⟩
    have hbefore : before = [] :=
      eq_nil_of_getLast? (fun c hmem => hchars c (by simp [hmem])) hrun.before
    have hafter : after = [] := by
      have hright := hrun.after
      rw [← List.append_nil after] at hright
      exact eq_nil_of_head? (fun c hmem => hchars c (by simp [hmem])) hright
    subst hbefore hafter
    simpa using hrun.nonempty
  · rintro ⟨hne, rfl⟩
    exact ⟨[], [], by simp, hne, hchars, by simp, by simp⟩

/-- Up to the first character that is not alphanumeric there is one run at most; the others lie
behind that character. -/
theorem exists_isMaximalRun_split {c : Char} (hchars : ∀ c ∈ chars, isAlphanumeric c = true)
    (hc : isAlphanumeric c = false) :
    (∃ before after, chars ++ c :: rest = before ++ run ++ after ∧
      IsMaximalRun before run after) ↔
    (chars ≠ [] ∧ run = chars) ∨
      ∃ before after, rest = before ++ run ++ after ∧ IsMaximalRun before run after := by
  constructor
  · rintro ⟨before, after, hsplit, hrun⟩
    have hnot : c ∉ run := by
      intro hmem
      rw [hrun.alphanumeric c hmem] at hc
      cases hc
    rcases List.append_eq_append_iff.1 hsplit.symm with
      ⟨more, hmore, hafter⟩ | ⟨behind, hbehind, hrest⟩
    · have hright := hrun.after
      rw [hafter] at hright
      have hnil := eq_nil_of_head?
        (fun c hmem => hchars c (hmore ▸ List.mem_append_right _ hmem)) hright
      rw [hnil, List.append_nil] at hmore
      exact .inl (hrun.eq_of_append_eq hchars hmore.symm)
    · cases behind with
      | nil => exact .inl (hrun.eq_of_append_eq hchars (by rw [hbehind, List.append_nil]))
      | cons d behind =>
        obtain ⟨rfl, rfl⟩ := List.cons.inj hrest
        obtain ⟨part, rfl, rfl⟩ := exists_eq_append_of_notMem hnot hbehind
        refine .inr ⟨part, after, rfl, hrun.nonempty, hrun.alphanumeric, ?_, hrun.after⟩
        intro e hlast
        apply hrun.before e
        rw [getLast?_append_cons, Option.mem_def.1 hlast]
        rfl
  · rintro (⟨hne, rfl⟩ | ⟨before, after, rfl, hrun⟩)
    · exact ⟨[], c :: rest, rfl, hne, hchars, by simp, by simpa using hc⟩
    · refine ⟨chars ++ c :: before, after, by simp, hrun.nonempty, hrun.alphanumeric, ?_,
        hrun.after⟩
      intro d hlast
      rw [getLast?_append_cons] at hlast
      obtain rfl := Option.some.inj hlast
      cases hbefore : before.getLast? with
      | none => exact hc
      | some e => exact hrun.before e hbefore

/-- The runs that are found in a text of which some alphanumeric characters were read. -/
theorem mem_alphanumericRuns_iff {read : List Char}
    (hread : ∀ c ∈ read, isAlphanumeric c = true) :
    run ∈ alphanumericRuns read rest ↔
      ∃ before after, read.reverse ++ rest = before ++ run ++ after ∧
        IsMaximalRun before run after := by
  induction rest generalizing read with
  | nil =>
    rw [alphanumericRuns, mem_closeRun_iff, List.append_nil,
      exists_isMaximalRun_of_all fun c hmem => hread c (List.mem_reverse.1 hmem)]
    simp
  | cons c rest ih =>
    rw [alphanumericRuns]
    split
    · rename_i hc
      rw [ih (List.forall_mem_cons.2 ⟨hc, hread⟩), List.reverse_cons, List.append_assoc]
      rfl
    · rename_i hc
      rw [mem_closeRun_iff, ih (by simp), exists_isMaximalRun_split
        (fun c hmem => hread c (List.mem_reverse.1 hmem)) (by simpa using hc)]
      simp

end Split

/-- The words that are read are the words of the text. -/
theorem mem_words_iff (text word : String) : word ∈ words text ↔ word ∈ wordSet text := by
  rw [words, List.mem_map]
  constructor
  · rintro ⟨run, hrun, rfl⟩
    obtain ⟨before, after, hsplit, hmaximal⟩ := (mem_alphanumericRuns_iff (by simp)).1 hrun
    exact ⟨before, run, after, hsplit, hmaximal, rfl⟩
  · rintro ⟨before, run, after, hsplit, hmaximal, rfl⟩
    exact ⟨run, (mem_alphanumericRuns_iff (by simp)).2 ⟨before, after, hsplit, hmaximal⟩, rfl⟩

end Recollection.Text
