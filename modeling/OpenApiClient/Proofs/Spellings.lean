import OpenApiClient.Name

/-!
# Spellings of names

How texts of a document are spelled as names: neither the Pascal case nor the camel case of a text
is ever empty.
-/

namespace OpenApiClient

namespace Text

/-- There is one character whose lower case is several characters, `İ`. -/
theorem eq_of_lookup_toLowerExpansions {code : Nat} {codes : List Nat}
    (h : toLowerExpansions.lookup code = some codes) :
    code = 'İ'.toNat ∧ codes = ['i'.toNat, '\u0307'.toNat] := by
  simp only [toLowerExpansions, List.lookup_cons, List.lookup_nil] at h
  split at h
  · next hcode => exact ⟨beq_iff_eq.mp hcode, (Option.some.inj h).symm⟩
  · cases h

theorem lowerChar_ne_nil (c : Char) : lowerChar c ≠ [] := by
  unfold lowerChar
  split
  · simp
  · split
    · next codes hcodes => simp [(eq_of_lookup_toLowerExpansions hcodes).2]
    · simp

theorem uncapitalize_ne_empty {text : String} (h : text ≠ "") : uncapitalize text ≠ "" := by
  unfold uncapitalize
  split
  · next hnil => exact absurd (String.toList_eq_nil_iff.mp hnil) h
  · next c rest hcons =>
      intro hempty
      rw [String.ofList_eq_empty_iff, List.append_eq_nil_iff] at hempty
      exact lowerChar_ne_nil c hempty.1

end Text

namespace Name

theorem pascalOf_ne_empty (text : String) : pascalOf text ≠ "" := by
  unfold pascalOf
  split
  · simp
  · next hspelling =>
      rw [Ne, String.ofList_eq_empty_iff]
      exact hspelling

theorem camel_ne_empty (text : String) : (ofText text).camel ≠ "" :=
  Text.uncapitalize_ne_empty (pascalOf_ne_empty text)

end Name
end OpenApiClient
