import Mathlib.Logic.Function.Basic
import Mathlib.Tactic.SplitIfs
import OpenApiClient.View.Spelling

/-!
# Quoted texts

A text in quotes reads back as itself (`Quoted.readString?_quote`), whatever stands after it.  So
different texts have different string literals, and different names are different keys of an
object literal (`propertyKey_injective`).
-/

namespace OpenApiClient

namespace Quoted

theorem digit?_hexDigit : ∀ n < 16, Text.digit? 16 (hexDigit n) = some n := by decide

theorem fourDigits?_hexDigits {n : Nat} (h : n < 32) (rest : List Char) :
    fourDigits? ('0' :: '0' :: hexDigit (n / 16) :: hexDigit (n % 16) :: rest) =
      some (n, rest) := by
  have hzero : Text.digit? 16 '0' = some 0 := by decide
  have hfirst := digit?_hexDigit (n / 16) (by omega)
  have hsecond := digit?_hexDigit (n % 16) (by omega)
  have hnumber : n / 16 * 16 + n % 16 = n := by omega
  simp [fourDigits?, hzero, hfirst, hsecond, hnumber]

/-- A character stands for itself inside a string literal, or a backslash and an escape of it
do. -/
theorem escapeChar_cases (c : Char) :
    escapeChar c = [c] ∧ c ≠ '"' ∧ c ≠ '\\' ∧ ¬ c.toNat < 32 ∨
      ∃ escape, escapeChar c = '\\' :: escape ∧
        ∀ rest, escape? (escape ++ rest) = some (c, rest) := by
  unfold escapeChar
  split
  case h_8 hquote hbackslash _ _ _ _ _ =>
      split
      next hcontrol =>
        refine Or.inr ⟨_, rfl, fun rest => ?_⟩
        have hdigits := fourDigits?_hexDigits hcontrol rest
        have hplain : ¬ (0xDC00 ≤ c.toNat ∧ c.toNat < 0xE000) := by omega
        have hsingle : ¬ (0xD800 ≤ c.toNat ∧ c.toNat < 0xDC00) := by omega
        simp only [List.cons_append, List.nil_append, escape?, unicodeEscape?, hdigits]
        simp only [Option.bind_eq_bind, Option.bind_some, if_neg hplain, if_neg hsingle,
          Char.ofNat_toNat]
      next hcontrol => exact Or.inl ⟨rfl, hquote, hbackslash, hcontrol⟩
  all_goals exact Or.inr ⟨_, rfl, fun rest => rfl⟩

theorem readCharsAfter_flatMap (read text rest : List Char) {fuel : Nat}
    (h : text.length < fuel) :
    readCharsAfter read fuel (text.flatMap escapeChar ++ '"' :: rest) =
      some (read.reverse ++ text, rest) := by
  -- One step takes one character, however many characters its escape has.
  induction text generalizing read fuel with
  | nil =>
      obtain ⟨fuel, rfl⟩ := Nat.exists_eq_add_one_of_ne_zero (Nat.ne_of_gt h)
      simp [readCharsAfter]
  | cons c text ih =>
      obtain ⟨fuel, rfl⟩ := Nat.exists_eq_add_one_of_ne_zero (Nat.ne_of_gt (Nat.zero_lt_of_lt h))
      have hrest := ih (c :: read) (Nat.lt_of_succ_lt_succ h)
      rw [List.reverse_cons, List.append_assoc, List.singleton_append] at hrest
      rw [List.flatMap_cons, List.append_assoc, ← hrest]
      rcases escapeChar_cases c with ⟨hself, hquote, hbackslash, hcontrol⟩ | ⟨escape, hescape, hread⟩
      · rw [hself, List.singleton_append, readCharsAfter, if_neg hcontrol]
        · exact hquote
        · exact hbackslash
      · rw [hescape, List.cons_append, readCharsAfter, hread]
        rfl

theorem length_le_flatMap_escapeChar (text : List Char) :
    text.length ≤ (text.flatMap escapeChar).length := by
  induction text with
  | nil => exact Nat.le_refl _
  | cons c text ih =>
      have hone : 1 ≤ (escapeChar c).length := by
        rcases escapeChar_cases c with ⟨hself, -⟩ | ⟨escape, hescape, -⟩
        · simp [hself]
        · simp [hescape]
      rw [List.flatMap_cons, List.length_append, List.length_cons]
      omega

/-- A string literal denotes the text that it was made from. -/
theorem readString?_quote (text : String) (rest : List Char) :
    ∃ literal, (quote text).toList = '"' :: literal ∧
      readString? (literal ++ rest) = some (text, rest) := by
  refine ⟨text.toList.flatMap escapeChar ++ ['"'], ?_, ?_⟩
  · rw [quote, quoteChars, String.toList_ofList, List.cons_append]
  · have hfuel : text.toList.length < (text.toList.flatMap escapeChar ++ '"' :: rest).length + 1 := by
      have hlength := length_le_flatMap_escapeChar text.toList
      rw [List.length_append]
      omega
    have hread := readCharsAfter_flatMap [] text.toList rest hfuel
    rw [List.append_assoc, List.singleton_append, readString?, hread]
    simp

theorem quote_injective : Function.Injective quote := by
  intro a b h
  obtain ⟨literal, hliteral, hread⟩ := readString?_quote a []
  obtain ⟨literal', hliteral', hread'⟩ := readString?_quote b []
  rw [h, hliteral'] at hliteral
  obtain rfl := (List.cons.inj hliteral).2
  exact (Prod.mk.inj (Option.some.inj (hread.symm.trans hread'))).1

end Quoted

theorem ne_quote_of_isIdentifier {name : String} (h : isIdentifier name = true) (text : String) :
    name ≠ Quoted.quote text := by
  rintro rfl
  obtain ⟨literal, hliteral, -⟩ := Quoted.readString?_quote text []
  -- A literal begins with a quotation mark, and no identifier does.
  have hmark : (Text.isAlphabetic '"' || '"' == '_' || '"' == '$') = false := by decide
  rw [isIdentifier, hliteral] at h
  simp only [hmark, Bool.false_and] at h
  cases h

/-- Different names are written as different keys. -/
theorem propertyKey_injective : Function.Injective propertyKey := by
  intro a b h
  unfold propertyKey at h
  split_ifs at h with ha hb hb
  · exact h
  · exact absurd h (ne_quote_of_isIdentifier ha b)
  · exact absurd h.symm (ne_quote_of_isIdentifier hb a)
  · exact Quoted.quote_injective h

end OpenApiClient
