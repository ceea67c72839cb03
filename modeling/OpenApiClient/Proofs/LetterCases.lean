import Mathlib.Tactic.SplitIfs
import OpenApiClient.Proofs.Spellings

/-!
# Letters and their cases

A character with a case of its own is a letter, and so is the first character of its upper case.
So is its lower case, with one exception: the lower case of `İ` ends with a dot that is no letter.
The tables are compared run by run, because nearly every run of a case mapping lies within one run
of letters (`CodeRun.includes`).
-/

namespace OpenApiClient.Text

namespace CodeRun

/-- Whether one of the ascending runs has no gaps and holds all code points between two. -/
def spans : List CodeRun → Nat → Nat → Bool
  | [], _, _ => false
  | run :: runs, first, last =>
    run.first.ble first && (last.ble run.last && run.step.beq 1 || spans runs first last)

/-- Whether the ascending runs hold all code points of a run. -/
def includes (runs : List CodeRun) (run : CodeRun) : Bool :=
  spans runs run.first run.last ||
    (List.range' run.first ((run.last - run.first) / run.step + 1) run.step).all (mem runs)

variable {runs : List CodeRun} {run : CodeRun} {code : Nat}

theorem holds_iff : run.holds code = true ↔
    (run.first ≤ code ∧ code ≤ run.last) ∧ (code - run.first) % run.step = 0 := by
  simp only [holds, Bool.and_eq_true, decide_eq_true_eq, beq_iff_eq]

theorem mem_of_spans {first last : Nat} (h : spans runs first last = true) (hfirst : first ≤ code)
    (hlast : code ≤ last) : mem runs code = true := by
  induction runs with
  | nil => cases h
  | cons run runs ih =>
      simp only [spans, Bool.and_eq_true, Bool.or_eq_true, Nat.ble_eq] at h
      obtain ⟨hbegins, ⟨hends, hstep⟩ | hrest⟩ := h
      · have hstep : run.step = 1 := Nat.beq_eq ▸ hstep
        have hholds : run.holds code = true :=
          holds_iff.mpr ⟨⟨by omega, by omega⟩, hstep ▸ Nat.mod_one _⟩
        simp only [mem, hholds, Bool.true_or, Bool.and_true, decide_eq_true_eq]
        omega
      · simp only [mem, ih hrest, Bool.or_true, Bool.and_true, decide_eq_true_eq]
        omega

theorem mem_of_includes (h : includes runs run = true) (hcode : run.holds code = true) :
    mem runs code = true := by
  obtain ⟨⟨hfirst, hlast⟩, hstep⟩ := holds_iff.mp hcode
  rcases Bool.or_eq_true _ _ ▸ h with hspans | hall
  · exact mem_of_spans hspans hfirst hlast
  · refine List.all_eq_true.mp hall code (List.mem_range'.mpr ?_)
    refine ⟨(code - run.first) / run.step, ?_, ?_⟩
    · exact Nat.lt_succ_of_le (Nat.div_le_div_right (by omega))
    · have := Nat.div_add_mod (code - run.first) run.step
      omega

theorem exists_of_mem (h : mem runs code = true) : ∃ run ∈ runs, run.holds code = true := by
  induction runs with
  | nil => cases h
  | cons run runs ih =>
      simp only [mem, Bool.and_eq_true, Bool.or_eq_true] at h
      obtain ⟨-, hholds | hrest⟩ := h
      · exact ⟨run, List.mem_cons_self, hholds⟩
      · obtain ⟨found, hfound, hholds⟩ := ih hrest
        exact ⟨found, List.mem_cons_of_mem _ hfound, hholds⟩

def isValid (run : CodeRun) : Bool :=
  run.last < 0xD800 || 0xDFFF < run.first && run.last < 0x110000

theorem isValidChar_of_holds (h : run.isValid = true) (hcode : run.holds code = true) :
    code.isValidChar := by
  obtain ⟨⟨hfirst, hlast⟩, -⟩ := holds_iff.mp hcode
  simp only [isValid, Bool.or_eq_true, Bool.and_eq_true, decide_eq_true_eq] at h
  unfold Nat.isValidChar
  omega

end CodeRun

namespace CaseRun

def source (run : CaseRun) : CodeRun := ⟨run.first, run.last, run.step⟩

def target (run : CaseRun) : CodeRun :=
  ⟨(run.first + run.shift).toNat, (run.last + run.shift).toNat, run.step⟩

/-- Whether a run maps letters to letters. -/
def keepsLetters (run : CaseRun) : Bool :=
  0 ≤ run.first + run.shift && CodeRun.includes alphabeticRuns run.source &&
    CodeRun.includes alphabeticRuns run.target

variable {runs : List CaseRun} {run : CaseRun} {code image : Nat}

theorem exists_of_image? (h : image? runs code = some image) :
    ∃ run ∈ runs, run.source.holds code = true ∧ (code + run.shift).toNat = image := by
  induction runs with
  | nil => cases h
  | cons run runs ih =>
      simp only [image?] at h
      split_ifs at h with hbefore hholds
      · exact ⟨run, List.mem_cons_self, hholds, Option.some.inj h⟩
      · obtain ⟨found, hfound, hrun⟩ := ih h
        exact ⟨found, List.mem_cons_of_mem _ hfound, hrun⟩

theorem target_holds (hstart : 0 ≤ run.first + run.shift) (h : run.source.holds code = true) :
    run.target.holds (code + run.shift).toNat = true := by
  obtain ⟨⟨hfirst, hlast⟩, hstep⟩ : (run.first ≤ code ∧ code ≤ run.last) ∧
    (code - run.first) % run.step = 0 := CodeRun.holds_iff.mp h
  have hdistance : (code + run.shift).toNat - (run.first + run.shift).toNat = code - run.first := by
    omega
  have hbegins : (run.first + run.shift).toNat ≤ (code + run.shift).toNat := by omega
  have hends : (code + run.shift).toNat ≤ (run.last + run.shift).toNat := by omega
  exact CodeRun.holds_iff.mpr ⟨⟨hbegins, hends⟩, hdistance ▸ hstep⟩

theorem letters_of_image? (hruns : runs.all keepsLetters = true)
    (h : image? runs code = some image) :
    CodeRun.mem alphabeticRuns code = true ∧ CodeRun.mem alphabeticRuns image = true := by
  obtain ⟨run, hrun, hholds, rfl⟩ := exists_of_image? h
  have hkeeps := List.all_eq_true.mp hruns run hrun
  simp only [keepsLetters, Bool.and_eq_true, decide_eq_true_eq] at hkeeps
  obtain ⟨⟨hstart, hsource⟩, htarget⟩ := hkeeps
  exact ⟨CodeRun.mem_of_includes hsource hholds,
    CodeRun.mem_of_includes htarget (target_holds hstart hholds)⟩

end CaseRun

/-- Whether an expansion is one of a letter and begins with a letter. -/
def beginsWithLetter (expansion : Nat × List Nat) : Bool :=
  CodeRun.spans alphabeticRuns expansion.1 expansion.1 &&
    expansion.2.head?.any fun code => CodeRun.spans alphabeticRuns code code

theorem keepsLetters_toUpperRuns : toUpperRuns.all CaseRun.keepsLetters = true := by
  decide +kernel

theorem keepsLetters_toLowerRuns : toLowerRuns.all CaseRun.keepsLetters = true := by
  decide +kernel

theorem beginsWithLetter_toUpperExpansions :
    toUpperExpansions.all beginsWithLetter = true := by
  decide +kernel

theorem isValid_alphabeticRuns : alphabeticRuns.all CodeRun.isValid = true := by
  decide +kernel

theorem isAlphabetic_ofNat {code : Nat} (h : CodeRun.mem alphabeticRuns code = true) :
    isAlphabetic (Char.ofNat code) = true := by
  obtain ⟨run, hrun, hholds⟩ := CodeRun.exists_of_mem h
  have hvalid := List.all_eq_true.mp isValid_alphabeticRuns run hrun
  have hcode : (Char.ofNat code).toNat = code := by
    rw [Char.ofNat, dif_pos (CodeRun.isValidChar_of_holds hvalid hholds)]
    rfl
  rw [isAlphabetic, hcode]
  exact h

theorem letters_of_lookup {expansions : List (Nat × List Nat)}
    (hletters : expansions.all beginsWithLetter = true) {code : Nat} {codes : List Nat}
    (h : expansions.lookup code = some codes) : CodeRun.mem alphabeticRuns code = true ∧
      ∃ first rest, codes = first :: rest ∧ CodeRun.mem alphabeticRuns first = true := by
  obtain ⟨before, after, rfl, -⟩ := List.lookup_eq_some_iff.mp h
  have hexpansion := List.all_eq_true.mp hletters (code, codes) (by simp)
  obtain ⟨hcode, hhead⟩ := Bool.and_eq_true _ _ ▸ hexpansion
  cases codes with
  | nil => cases hhead
  | cons first rest =>
      exact ⟨CodeRun.mem_of_spans hcode (Nat.le_refl _) (Nat.le_refl _), first, rest, rfl,
        CodeRun.mem_of_spans hhead (Nat.le_refl _) (Nat.le_refl _)⟩

/-- A character is its own upper case, or it is a letter and its upper case begins with one. -/
theorem upperChar_cases (c : Char) : upperChar c = [c] ∨
    isAlphabetic c = true ∧ ∃ d rest, upperChar c = d :: rest ∧ isAlphabetic d = true := by
  unfold upperChar
  cases himage : CaseRun.image? toUpperRuns c.toNat with
  | some code =>
      obtain ⟨hc, hcode⟩ := CaseRun.letters_of_image? keepsLetters_toUpperRuns himage
      exact Or.inr ⟨hc, _, _, rfl, isAlphabetic_ofNat hcode⟩
  | none =>
      simp only
      split_ifs
      · exact Or.inl rfl
      · cases hlookup : toUpperExpansions.lookup c.toNat with
        | none => exact Or.inl rfl
        | some codes =>
            obtain ⟨hc, code, codes, rfl, hcode⟩ :=
              letters_of_lookup beginsWithLetter_toUpperExpansions hlookup
            exact Or.inr ⟨hc, _, _, rfl, isAlphabetic_ofNat hcode⟩

/-- A character is its own lower case, or it is a letter.  Then its lower case is one letter, but
for that of `İ`. -/
theorem lowerChar_cases (c : Char) : lowerChar c = [c] ∨
    isAlphabetic c = true ∧ ((∃ d, lowerChar c = [d] ∧ isAlphabetic d = true) ∨ c = 'İ') := by
  unfold lowerChar
  cases himage : CaseRun.image? toLowerRuns c.toNat with
  | some code =>
      obtain ⟨hc, hcode⟩ := CaseRun.letters_of_image? keepsLetters_toLowerRuns himage
      exact Or.inr ⟨hc, Or.inl ⟨_, rfl, isAlphabetic_ofNat hcode⟩⟩
  | none =>
      cases hlookup : toLowerExpansions.lookup c.toNat with
      | none => exact Or.inl rfl
      | some codes =>
          obtain rfl := Char.toNat_inj.mp (eq_of_lookup_toLowerExpansions hlookup).1
          exact Or.inr ⟨by decide, Or.inr rfl⟩

end OpenApiClient.Text
