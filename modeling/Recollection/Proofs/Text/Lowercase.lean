import Recollection.Proofs.Text.CodeSet
import Recollection.Text.Lowercase
/-!
# Lower case of alphanumeric characters

The lower-case form of an alphanumeric character is one alphanumeric character, which is its own
lower-case form. There is one exception: the dotted capital I becomes two characters, of which the
second, a dot above, is a mark and not alphanumeric.
-/

set_option autoImplicit false

namespace Recollection.Text

/-- The capital that becomes two characters. -/
def dottedCapital : Char :=
  '\u0130'

/-- The second of them. -/
def dotAbove : Char :=
  '\u0307'

/-- A character that stands in words and is left as it is by lower case, wherever it stands. -/
structure IsSettled (c : Char) : Prop where
  /-- It is alphanumeric. -/
  alphanumeric : isAlphanumeric c = true
  /-- It is no sigma, whose form depends on its place. -/
  placeless : c ≠ 'Σ'
  /-- It is its own lower-case form. -/
  fixed : lowerChar c = [c]

/-! ## The table of capitals -/

namespace CaseRun

/-- The code points of a run: every one of some that follow each other, or every second one. -/
def Has (run : CaseRun) (point : Nat) : Prop :=
  run.first ≤ point ∧ point ≤ run.last ∧ (point - run.first) % run.stride = 0

/-- The last lower-case form. -/
def lastTarget (run : CaseRun) : Nat :=
  run.target + (run.last - run.first)

/-- Whether the lower-case forms of a run are alphanumeric characters, the dotted capital apart. -/
def landsInWords (run : CaseRun) : Bool :=
  CodeSet.encloses run.target run.lastTarget alphanumeric.bounds &&
    (run.lastTarget < 0xD800 || 0xDFFF < run.target && run.lastTarget < 0x110000) &&
    (run.lastTarget < dottedCapital.toNat || dottedCapital.toNat < run.target)

/-- Whether the lower-case forms of a run are not among the capitals of others: they lie before or
behind them, or in the gaps between them. -/
def landsOutside (run : CaseRun) : List CaseRun → Bool
  | [] => true
  | other :: rest =>
    if run.lastTarget < other.first then true
    else if other.last < run.target then run.landsOutside rest
    else (other.stride == 2 && (run.target + other.first) % 2 == 1 &&
      (run.stride == 2 || run.first == run.last)) && run.landsOutside rest

theorem lowerPoint_of_landsOutside {run : CaseRun} {point : Nat} (hpoint : run.Has point)
    {others : List CaseRun} (houtside : run.landsOutside others = true) :
    lowerPoint (run.target + (point - run.first)) others = run.target + (point - run.first) := by
  obtain ⟨hlow, hhigh, hgap⟩ := hpoint
  have hlast : run.target + (point - run.first) ≤ run.lastTarget :=
    Nat.add_le_add_left (Nat.sub_le_sub_right hhigh _) _
  induction others with
  | nil => rfl
  | cons other rest ih =>
    -- the search ends at the first run that begins behind the form
    rw [lowerPoint]
    split
    · rfl
    · rename_i hfirst
      rw [landsOutside, if_neg (by omega)] at houtside
      split at houtside
      · rename_i hbefore
        rw [if_neg, ih houtside]
        rw [Bool.and_eq_true, decide_eq_true_iff]
        omega
      · simp only [Bool.and_eq_true, Bool.or_eq_true, beq_iff_eq] at houtside
        obtain ⟨⟨⟨hsecond, hodd⟩, heven⟩, hrest⟩ := houtside
        have hoffset : (point - run.first) % 2 = 0 := by
          rcases heven with hruns | hsingle
          · rwa [hruns] at hgap
          · omega
        rw [if_neg, ih hrest]
        rw [Bool.and_eq_true, beq_iff_eq, hsecond]
        omega

end CaseRun

theorem capitals_landInWords : capitals.all CaseRun.landsInWords = true := by
  decide +kernel

theorem capitals_landOutside : capitals.all (fun run => run.landsOutside capitals) = true := by
  decide +kernel

/-- A capital has its lower-case form by the first run that has it. -/
theorem exists_run_of_lowerPoint_ne {point : Nat} {runs : List CaseRun}
    (hne : lowerPoint point runs ≠ point) :
    ∃ run ∈ runs, run.Has point ∧ lowerPoint point runs = run.target + (point - run.first) := by
  induction runs with
  | nil => exact absurd rfl hne
  | cons run rest ih =>
    rw [lowerPoint] at hne ⊢
    split at hne
    · exact absurd rfl hne
    · rename_i hfirst
      rw [if_neg hfirst]
      split at hne
      · rename_i hinside
        rw [if_pos hinside]
        rw [Bool.and_eq_true, decide_eq_true_iff, beq_iff_eq] at hinside
        exact ⟨run, List.mem_cons_self, ⟨Nat.le_of_not_lt hfirst, hinside⟩, rfl⟩
      · rename_i hother
        rw [if_neg hother]
        obtain ⟨later, hlater, hform⟩ := ih hne
        exact ⟨later, List.mem_cons_of_mem _ hlater, hform⟩

/-- A lower-case form is not a capital itself. -/
theorem lowerPoint_lowerPoint (point : Nat) :
    lowerPoint (lowerPoint point capitals) capitals = lowerPoint point capitals := by
  by_cases hfixed : lowerPoint point capitals = point
  · rw [hfixed, hfixed]
  · obtain ⟨run, hrun, hpoint, hform⟩ := exists_run_of_lowerPoint_ne hfixed
    rw [hform]
    exact CaseRun.lowerPoint_of_landsOutside hpoint
      (List.all_eq_true.1 capitals_landOutside run hrun)

/-! ## Single characters -/

theorem toNat_ofNat {point : Nat} (hvalid : point.isValidChar) :
    (Char.ofNat point).toNat = point := by
  rw [Char.ofNat, dif_pos hvalid]
  rfl

theorem lowerChar_of_ne {c : Char} (hc : c ≠ dottedCapital) :
    lowerChar c = [Char.ofNat (lowerPoint c.toNat capitals)] := by
  rw [lowerChar, if_neg]
  rw [beq_iff_eq]
  exact hc

/-- The lower-case form of a code point that is alphanumeric is one too. -/
structure LandsInWords (point : Nat) : Prop where
  /-- It is a character. -/
  valid : point.isValidChar
  /-- It is alphanumeric. -/
  alphanumeric : CodeSet.memberFrom point alphanumeric.bounds = true
  /-- It is not the dotted capital. -/
  plain : point ≠ dottedCapital.toNat

theorem landsInWords_lowerPoint {c : Char} (hc : isAlphanumeric c = true)
    (hne : c ≠ dottedCapital) : LandsInWords (lowerPoint c.toNat capitals) := by
  by_cases hfixed : lowerPoint c.toNat capitals = c.toNat
  · rw [hfixed]
    exact ⟨c.valid, hc, fun heq => hne (Char.toNat_inj.1 heq)⟩
  · obtain ⟨run, hrun, ⟨hfirst, hlast, -⟩, hform⟩ := exists_run_of_lowerPoint_ne hfixed
    have hlands := List.all_eq_true.1 capitals_landInWords run hrun
    simp only [CaseRun.landsInWords, Bool.and_eq_true, Bool.or_eq_true,
      decide_eq_true_iff] at hlands
    obtain ⟨⟨hencloses, hrange⟩, hdotted⟩ := hlands
    have hlastForm : run.target + (c.toNat - run.first) ≤ run.lastTarget :=
      Nat.add_le_add_left (Nat.sub_le_sub_right hlast _) _
    rw [hform]
    refine ⟨?valid, ?alphanumeric, ?plain⟩
    case valid =>
      rcases hrange with hlow | ⟨hbehind, hhigh⟩
      · exact .inl (by omega)
      · exact .inr ⟨by omega, by omega⟩
    case alphanumeric =>
      exact CodeSet.memberFrom_of_encloses (Nat.le_add_right _ _) hlastForm hencloses
    case plain => omega

/-- In lower case, an alphanumeric character is settled. -/
theorem exists_isSettled_lowerChar {c : Char} (hc : isAlphanumeric c = true)
    (hne : c ≠ dottedCapital) : ∃ d, lowerChar c = [d] ∧ IsSettled d := by
  obtain ⟨hvalid, halphanumeric, hplain⟩ := landsInWords_lowerPoint hc hne
  have hpoint := toNat_ofNat hvalid
  have hfixed : lowerPoint (Char.ofNat (lowerPoint c.toNat capitals)).toNat capitals =
      (Char.ofNat (lowerPoint c.toNat capitals)).toNat := by
    rw [hpoint, lowerPoint_lowerPoint]
  refine ⟨_, lowerChar_of_ne hne, ?alphanumeric, ?placeless, ?fixed⟩
  case alphanumeric => rwa [isAlphanumeric, CodeSet.contains, hpoint]
  case placeless =>
    intro hsigma
    rw [hsigma] at hfixed
    exact absurd hfixed (by decide +kernel)
  case fixed =>
    rw [lowerChar_of_ne, hfixed, Char.ofNat_toNat]
    intro hdotted
    rw [← hpoint, hdotted] at hplain
    exact hplain rfl

/-! ## Runs of characters -/

theorem isSettled_sigma : IsSettled 'σ' :=
  ⟨by decide +kernel, by decide, by decide +kernel⟩

theorem isSettled_finalSigma : IsSettled 'ς' :=
  ⟨by decide +kernel, by decide, by decide +kernel⟩

theorem isSettled_smallI : IsSettled 'i' :=
  ⟨by decide +kernel, by decide, by decide +kernel⟩

theorem isAlphanumeric_dotAbove : isAlphanumeric dotAbove = false := by
  decide +kernel

/-- Settled characters are left as they are. -/
theorem lowerAfter_of_settled (before : List Char) {text : List Char}
    (hsettled : ∀ c ∈ text, IsSettled c) : lowerAfter before text = text := by
  induction text generalizing before with
  | nil => rfl
  | cons c rest ih =>
    obtain ⟨hc, hrest⟩ := List.forall_mem_cons.1 hsettled
    have hplaceless : ¬ (c == 'Σ') = true := by
      rw [beq_iff_eq]
      exact hc.placeless
    rw [lowerAfter, if_neg hplaceless, hc.fixed, ih _ hrest]
    rfl

/-- An alphanumeric character becomes a settled one, to which the dotted capital adds a dot. -/
theorem lowerAfter_cons {c : Char} (hc : isAlphanumeric c = true) (before rest : List Char) :
    ∃ d, IsSettled d ∧ lowerAfter before (c :: rest) =
      d :: (if c = dottedCapital then [dotAbove] else []) ++ lowerAfter (c :: before) rest := by
  by_cases hsigma : c = 'Σ'
  · subst hsigma
    have hplain : ¬ 'Σ' = dottedCapital := by decide
    rw [lowerAfter, if_pos (beq_self_eq_true _), if_neg hplain]
    split
    · exact ⟨'ς', isSettled_finalSigma, rfl⟩
    · exact ⟨'σ', isSettled_sigma, rfl⟩
  · have hplaceless : ¬ (c == 'Σ') = true := by
      rwa [beq_iff_eq]
    rw [lowerAfter, if_neg hplaceless]
    by_cases hdotted : c = dottedCapital
    · subst hdotted
      exact ⟨'i', isSettled_smallI, rfl⟩
    · obtain ⟨d, hform, hsettled⟩ := exists_isSettled_lowerChar hc hdotted
      refine ⟨d, hsettled, ?_⟩
      rw [hform, if_neg hdotted]

/-- The characters of an alphanumeric run in lower case are settled, up to the dots that its dotted
capitals add. -/
theorem isSettled_or_eq_dotAbove {before run : List Char}
    (hrun : ∀ c ∈ run, isAlphanumeric c = true) :
    ∀ d ∈ lowerAfter before run, IsSettled d ∨ d = dotAbove := by
  induction run generalizing before with
  | nil =>
    intro d hmem
    cases hmem
  | cons c rest ih =>
    obtain ⟨hc, hrest⟩ := List.forall_mem_cons.1 hrun
    obtain ⟨first, hfirst, hlower⟩ := lowerAfter_cons hc before rest
    rw [hlower]
    intro d hmem
    rcases List.mem_append.1 hmem with hhead | hlater
    · rcases List.mem_cons.1 hhead with rfl | hdot
      · exact .inl hfirst
      · split at hdot
        · exact .inr (List.mem_singleton.1 hdot)
        · cases hdot
    · exact ih hrest d hlater

theorem dottedCapital_notMem_lowerAfter {before run : List Char}
    (hrun : ∀ c ∈ run, isAlphanumeric c = true) : dottedCapital ∉ lowerAfter before run := by
  intro hmem
  rcases isSettled_or_eq_dotAbove hrun dottedCapital hmem with hsettled | hdot
  · exact absurd hsettled.fixed (by decide)
  · exact absurd hdot (by decide)

theorem dotAbove_mem_lowerAfter_iff {before run : List Char}
    (hrun : ∀ c ∈ run, isAlphanumeric c = true) :
    dotAbove ∈ lowerAfter before run ↔ dottedCapital ∈ run := by
  induction run generalizing before with
  | nil => exact iff_of_false (List.not_mem_nil) (List.not_mem_nil)
  | cons c rest ih =>
    obtain ⟨hc, hrest⟩ := List.forall_mem_cons.1 hrun
    obtain ⟨first, hfirst, hlower⟩ := lowerAfter_cons hc before rest
    have hdot : dotAbove ≠ first := by
      rintro rfl
      exact Bool.false_ne_true (isAlphanumeric_dotAbove.symm.trans hfirst.alphanumeric)
    rw [hlower, List.mem_append, ih hrest, List.mem_cons, List.mem_cons]
    simp only [hdot, false_or]
    refine or_congr_left ?_
    by_cases hdotted : c = dottedCapital
    · simp [hdotted]
    · simp [hdotted, Ne.symm hdotted]

end Recollection.Text
