import Mathlib.Data.Nat.Digits.Defs
import OpenApiClient.Api.Path
import OpenApiClient.Proofs.LetterCases
import OpenApiClient.Verb
import OpenApiClient.View.Spelling

/-!
# Texts that give identifiers

Which texts of a document have a spelling that is an identifier, or a part of one
(`Spelling.Fits`).  Case mappings keep letters at the beginning, so a text fails to give an
identifier if its first word begins with a digit, or if some capital has more than letters in it.
-/

namespace OpenApiClient

open Text

namespace Text

variable {p : Char → Bool} {text word : List Char}

theorem flatten_runsAfter (run : List Char) :
    (runsAfter p run text).flatten = run.reverse ++ text.filter p := by
  induction text generalizing run with
  | nil => cases run <;> simp [runsAfter]
  | cons c text ih =>
      cases hc : p c with
      | true => simp [runsAfter, hc, ih]
      | false => cases run <;> simp [runsAfter, hc, ih]

theorem ne_nil_of_mem_runsAfter {run : List Char} (h : word ∈ runsAfter p run text) :
    word ≠ [] := by
  induction text generalizing run with
  | nil =>
      cases run with
      | nil => simp [runsAfter] at h
      | cons c run =>
          obtain rfl : word = run.reverse ++ [c] := by simpa [runsAfter] using h
          simp
  | cons c text ih =>
      cases hc : p c with
      | true =>
          rw [runsAfter, if_pos hc] at h
          exact ih h
      | false =>
          cases run with
          | nil => exact ih (by simpa [runsAfter, hc] using h)
          | cons d run =>
              simp only [runsAfter, hc, Bool.false_eq_true, if_false, List.isEmpty_cons,
                List.mem_cons] at h
              rcases h with rfl | h
              · simp
              · exact ih h

theorem flatten_runsOf (p : Char → Bool) (text : List Char) :
    (runsOf p text).flatten = text.filter p := flatten_runsAfter []

theorem ne_nil_of_mem_runsOf (h : word ∈ runsOf p text) : word ≠ [] := ne_nil_of_mem_runsAfter h

theorem of_mem_runsOf (h : word ∈ runsOf p text) {c : Char} (hc : c ∈ word) : p c = true := by
  have hmem : c ∈ text.filter p := flatten_runsOf p text ▸ List.mem_flatten.mpr ⟨word, h, hc⟩
  exact (List.mem_filter.mp hmem).2

end Text

def beginsIdentifier (c : Char) : Bool := isAlphabetic c || c == '_' || c == '$'

def isWord (text : String) : Bool := text.toList.all Name.isWordChar

theorem isWordChar_of_beginsIdentifier {c : Char} (h : beginsIdentifier c = true) :
    Name.isWordChar c = true := by
  simp only [beginsIdentifier, Bool.or_eq_true] at h
  simp only [Name.isWordChar, isAlphanumeric, Bool.or_eq_true]
  rcases h with (hletter | hunderscore) | hdollar
  · exact Or.inl (Or.inl (Or.inl hletter))
  · exact Or.inl (Or.inr hunderscore)
  · exact Or.inr hdollar

theorem isWord_append (a b : String) : isWord (a ++ b) = (isWord a && isWord b) := by
  simp [isWord, List.all_append]

theorem isIdentifier_iff {text : String} : isIdentifier text = true ↔
    (∃ c ∈ text.toList.head?, beginsIdentifier c = true) ∧ isWord text = true := by
  unfold isIdentifier isWord
  cases text.toList with
  | nil => simp
  | cons c rest =>
      simp only [List.head?_cons, Option.mem_some_iff, exists_eq_left', List.all_cons,
        Bool.and_eq_true]
      refine and_congr_right fun hbegins => ?_
      exact (and_iff_right (isWordChar_of_beginsIdentifier hbegins)).symm

theorem isIdentifier_append {a : String} (h : a ≠ "") (b : String) :
    isIdentifier (a ++ b) = true ↔ isIdentifier a = true ∧ isWord b = true := by
  have hhead : (a ++ b).toList.head? = a.toList.head? := by
    obtain ⟨c, rest, hcons⟩ := List.exists_cons_of_ne_nil (mt String.toList_eq_nil_iff.mp h)
    rw [String.toList_append, hcons, List.cons_append, List.head?_cons, List.head?_cons]
  rw [isIdentifier_iff, isIdentifier_iff, hhead, isWord_append, Bool.and_eq_true, and_assoc]

theorem ne_empty_of_isIdentifier {text : String} (h : isIdentifier text = true) : text ≠ "" := by
  rintro rfl
  cases h

theorem isIdentifier_append_of_isWord {a b : String} (ha : isIdentifier a = true)
    (hb : isWord b = true) : isIdentifier (a ++ b) = true :=
  (isIdentifier_append (ne_empty_of_isIdentifier ha) b).mpr ⟨ha, hb⟩

theorem isWord_toString (count : Nat) : isWord (toString count) = true := by
  rw [isWord, Nat.toString_eq_repr, Nat.toList_repr, List.all_eq_true]
  intro c hc
  obtain ⟨hfirst, hlast⟩ := Char.isDigit_iff_toNat.mp
    (Nat.isDigit_of_mem_toDigits (by decide) (by decide) hc)
  have hdigits : CodeRun.spans numericRuns '0'.toNat '9'.toNat = true := by decide
  have hnumeric : isNumeric c = true := CodeRun.mem_of_spans hdigits hfirst hlast
  simp [Name.isWordChar, isAlphanumeric, hnumeric]

/-- How a text of a document is spelled within the name of a declaration. -/
inductive Spelling where
  /-- In Pascal case at the beginning. -/
  | pascal
  /-- In camel case at the beginning. -/
  | camel
  /-- In Pascal case further inside. -/
  | inner
  /-- As it is further inside. -/
  | plain
  /-- As it is, or in camel case unless it is an identifier; this is all of the name. -/
  | argument
  deriving DecidableEq, Repr

namespace Spelling

/-- The first word of a text, if there is one, begins as an identifier does. -/
def Begins (text : String) : Prop :=
  ∀ c ∈ text.toList.find? Name.isWordChar, beginsIdentifier c = true

def Capitalizes (text : String) : Prop :=
  ∀ word ∈ runsOf Name.isWordChar text.toList, ∀ c ∈ word.head?,
    (upperChar c).all Name.isWordChar = true

/-- The lower case of the first character of the Pascal case may stand inside an identifier. -/
def Uncapitalizes (text : String) : Prop := (Name.pascalOf text).toList.head? ≠ some 'İ'

/-- The spelling of a text is what an identifier needs at its place. -/
def Fits : Spelling → String → Prop
  | pascal, text => Begins text ∧ Capitalizes text
  | camel, text => Begins text ∧ Capitalizes text ∧ Uncapitalizes text
  | inner, text => Capitalizes text
  | plain, text => isWord text = true
  | argument, text => isIdentifier text = true ∨ Begins text ∧ Capitalizes text ∧ Uncapitalizes text

variable {text : String}

theorem beginsIdentifier_upperChar (c : Char) : ∃ d rest, upperChar c = d :: rest ∧
    beginsIdentifier d = beginsIdentifier c := by
  rcases upperChar_cases c with hsame | ⟨hc, d, rest, hupper, hd⟩
  · exact ⟨c, [], hsame, rfl⟩
  · exact ⟨d, rest, hupper, by simp [beginsIdentifier, hc, hd]⟩

theorem all_capitalizeWord {word : List Char} (h : ∀ c ∈ word, Name.isWordChar c = true) :
    (Name.capitalizeWord word).all Name.isWordChar = true ↔
      ∀ c ∈ word.head?, (upperChar c).all Name.isWordChar = true := by
  cases word with
  | nil => simp [Name.capitalizeWord]
  | cons c rest =>
      have hrest : rest.all Name.isWordChar = true :=
        List.all_eq_true.mpr fun d hd => h d (List.mem_cons_of_mem _ hd)
      simp [Name.capitalizeWord, List.all_append, hrest]

theorem all_capitalizeWords :
    ((runsOf Name.isWordChar text.toList).flatMap Name.capitalizeWord).all Name.isWordChar = true ↔
      Capitalizes text := by
  rw [List.all_flatMap, List.all_eq_true, Capitalizes]
  refine forall₂_congr fun word hword => all_capitalizeWord fun c hc => of_mem_runsOf hword hc

/-- A text without words is called `Unnamed`, and otherwise the Pascal case begins with the capital
of the first word character. -/
theorem pascalOf_cases (text : String) :
    runsOf Name.isWordChar text.toList = [] ∧ Name.pascalOf text = "Unnamed" ∨
      ∃ c rest words, runsOf Name.isWordChar text.toList = (c :: rest) :: words ∧
        (Name.pascalOf text).toList =
          upperChar c ++ (rest ++ words.flatMap Name.capitalizeWord) := by
  unfold Name.pascalOf
  cases hruns : runsOf Name.isWordChar text.toList with
  | nil => exact Or.inl ⟨rfl, rfl⟩
  | cons word words =>
      obtain ⟨c, rest, rfl⟩ := List.exists_cons_of_ne_nil
        (ne_nil_of_mem_runsOf (hruns ▸ List.mem_cons_self))
      obtain ⟨d, upper, hupper, -⟩ := beginsIdentifier_upperChar c
      refine Or.inr ⟨c, rest, words, rfl, ?_⟩
      simp [Name.capitalizeWord, hupper]

theorem find?_eq_head?_flatten (text : String) : text.toList.find? Name.isWordChar =
    (runsOf Name.isWordChar text.toList).flatten.head? := by
  rw [flatten_runsOf, List.head?_filter]

/-- The first character of the Pascal case is that of an identifier exactly if the first word of
the text begins so. -/
theorem begins_iff : (∃ c ∈ (Name.pascalOf text).toList.head?, beginsIdentifier c = true) ↔
    Begins text := by
  rw [Begins, find?_eq_head?_flatten]
  rcases pascalOf_cases text with ⟨hruns, hspelling⟩ | ⟨c, rest, words, hruns, hspelling⟩
  · rw [hruns, hspelling]
    simp only [List.flatten_nil, List.head?_nil, Option.not_mem_none, false_imp_iff, implies_true,
      iff_true]
    exact ⟨'U', rfl, by decide⟩
  · obtain ⟨d, upper, hupper, hbegins⟩ := beginsIdentifier_upperChar c
    rw [hruns, hspelling, hupper]
    simp [hbegins]

theorem isWord_pascalOf : isWord (Name.pascalOf text) = true ↔ inner.Fits text := by
  rw [Fits, ← all_capitalizeWords, isWord]
  rcases pascalOf_cases text with ⟨hruns, hspelling⟩ | ⟨c, rest, words, hruns, hspelling⟩
  · rw [hruns, hspelling]
    exact iff_of_true (by decide) rfl
  · rw [hruns, hspelling]
    simp [Name.capitalizeWord]

theorem isIdentifier_pascalOf : isIdentifier (Name.pascalOf text) = true ↔ pascal.Fits text := by
  rw [isIdentifier_iff, begins_iff, isWord_pascalOf, Fits, Fits]

/-- The text with its first character in lower case is an identifier exactly if the text is one,
unless the first character is the one whose lower case has a dot. -/
theorem isIdentifier_uncapitalize {name : String} : isIdentifier (uncapitalize name) = true ↔
    isIdentifier name = true ∧ name.toList.head? ≠ some 'İ' := by
  unfold uncapitalize
  cases hname : name.toList with
  | nil => simp [isIdentifier, hname]
  | cons c rest =>
      have hdotted : lowerChar 'İ' = ['i', '\u0307'] := by decide
      simp only [isIdentifier, hname]
      rcases lowerChar_cases c with hsame | ⟨hc, ⟨d, hlower, hd⟩ | rfl⟩
      · have hne : c ≠ 'İ' := by
          rintro rfl
          cases hdotted.symm.trans hsame
        simp [hsame, hne]
      · have hne : c ≠ 'İ' := by
          rintro rfl
          cases hdotted.symm.trans hlower
        simp [hlower, hne, hc, hd]
      · have hdot : Name.isWordChar '\u0307' = false := by decide
        simp [hdotted, hdot]

theorem isIdentifier_camel : isIdentifier (Name.ofText text).camel = true ↔ camel.Fits text := by
  have hcamel : (Name.ofText text).camel = uncapitalize (Name.pascalOf text) := rfl
  rw [hcamel, isIdentifier_uncapitalize, isIdentifier_pascalOf, Fits, Fits, and_assoc,
    Uncapitalizes]

theorem isIdentifier_argumentName : isIdentifier (argumentName text) = true ↔
    argument.Fits text := by
  have hcamel : isIdentifier (uncapitalize (Name.pascalOf text)) = true ↔ camel.Fits text :=
    isIdentifier_camel
  rw [Fits, argumentName]
  split
  · next h => exact iff_of_true h (Or.inl h)
  · next h =>
      rw [hcamel, Fits]
      exact (or_iff_right h).symm

theorem uppercase_text (verb : Verb) : uppercase verb.text = verb.text := by
  cases verb <;> decide +kernel

theorem isIdentifier_routeVerb (verb : Verb) (path : String) :
    isIdentifier (routeVerb verb.text path) = true := by
  rw [routeVerb, uppercase_text]
  cases verb with
  | get =>
      simp only [Verb.text]
      split <;> decide
  | _ =>
      simp only [Verb.text]
      decide

/-- A name that is made for a route begins with a verb, so only the resources matter. -/
theorem isIdentifier_routeName (verb : Verb) (path : String) :
    isIdentifier (routeName verb.text path) = true ↔ plain.Fits (resourceName path) := by
  have hverb := isIdentifier_routeVerb verb path
  have hne : routeVerb verb.text path ≠ "" := by
    intro hempty
    rw [hempty] at hverb
    cases hverb
  rw [routeName, isIdentifier_append hne, and_iff_right hverb, Fits]

end Spelling
end OpenApiClient
