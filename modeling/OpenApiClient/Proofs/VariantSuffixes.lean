import Mathlib.Data.List.Nodup
import Mathlib.Data.List.TakeWhile
import OpenApiClient.Proofs.GivenNames
import OpenApiClient.Proofs.Identifiers

/-!
# Suffixes of content types

The suffixes of the content types of one response are to tell its variants apart, and the models of
schemas given in place are named with them.  A suffix that would not be unique is made of the whole
media type instead, which is the type spelled before the subtype.  But spelling drops punctuation
and case, and nobody looks whether the longer suffix is free, so there are content types with the
same suffix (`suffixes_collide_on_pets`).  When the suffixes differ is said by `SuffixesApart`.
-/

namespace OpenApiClient

open Text Reporting

namespace Text

theorem runsAfter_append {p : Char → Bool} {c : Char} (hc : p c = false) (run x y : List Char) :
    runsAfter p run (x ++ c :: y) = runsAfter p run x ++ runsOf p y := by
  induction x generalizing run with
  | nil => cases run <;> simp [runsAfter, runsOf, hc]
  | cons d x ih =>
      cases hd : p d with
      | true => simp [runsAfter, hd, ih]
      | false => cases run <;> simp [runsAfter, hd, ih]

/-- What is not part of a word does not matter for the spelling, other than that it ends words. -/
theorem pascalCase_append {c : Char} (hc : isAlphanumeric c = false) (x y : List Char) :
    pascalCase (String.ofList (x ++ c :: y)) =
      pascalCase (String.ofList x) ++ pascalCase (String.ofList y) := by
  have hwords : words (String.ofList (x ++ c :: y)) =
      words (String.ofList x) ++ words (String.ofList y) := by
    unfold words
    rw [String.toList_ofList, String.toList_ofList, String.toList_ofList, runsOf,
      runsAfter_append hc, List.flatMap_append]
    rfl
  rw [pascalCase, hwords, List.flatMap_append, String.ofList_append]
  rfl

end Text

/-- The type of a media type before the slash, if a subtype comes after it. -/
def mainType (mediaType : String) : String :=
  match mediaType.toList.dropWhile (· != '/') with
  | _ :: _ :: _ => String.ofList (mediaType.toList.takeWhile (· != '/'))
  | _ => ""

def longSuffix (contentType : String) : String := pascalCase (essence contentType)

theorem pascalCase_eq_append (mediaType : String) :
    pascalCase mediaType = pascalCase (mainType mediaType) ++ pascalCase (subtype mediaType) := by
  by_cases h : ∃ slash c rest, mediaType.toList.dropWhile (· != '/') = slash :: c :: rest
  · obtain ⟨slash, c, rest, hrest⟩ := h
    obtain rfl : slash = '/' := by
      have hhead := List.dropWhile_get_zero_not (· != '/') mediaType.toList (by simp [hrest])
      simpa [hrest] using hhead
    have hmain : mainType mediaType = String.ofList (mediaType.toList.takeWhile (· != '/')) := by
      unfold mainType
      rw [hrest]
    have hsubtype : subtype mediaType = String.ofList (c :: rest) := by
      unfold subtype
      rw [hrest]
    have hslash : isAlphanumeric '/' = false := by decide
    rw [hmain, hsubtype, ← pascalCase_append hslash, ← hrest, List.takeWhile_append_dropWhile,
      String.ofList_toList]
  · have hmain : mainType mediaType = "" := by
      unfold mainType
      split
      next slash c rest hrest => exact absurd ⟨slash, c, rest, hrest⟩ h
      next => rfl
    have hsubtype : subtype mediaType = mediaType := by
      unfold subtype
      split
      next slash c rest hrest => exact absurd ⟨slash, c, rest, hrest⟩ h
      next => rfl
    have hempty : pascalCase "" = "" := rfl
    rw [hmain, hsubtype, hempty, String.empty_append]

theorem longSuffix_eq (contentType : String) : longSuffix contentType =
    pascalCase (mainType (essence contentType)) ++ mediaSuffix contentType :=
  pascalCase_eq_append (essence contentType)

/-- Several of the content types have the short suffix of a given one. -/
def Clashes (contentTypes : List String) (contentType : String) : Prop :=
  1 < (contentTypes.map mediaSuffix).count (mediaSuffix contentType)

instance (contentTypes : List String) (contentType : String) :
    Decidable (Clashes contentTypes contentType) := Nat.decLt _ _

def suffixAmong (contentTypes : List String) (contentType : String) : String :=
  if Clashes contentTypes contentType then longSuffix contentType else mediaSuffix contentType

/-- When the suffixes of content types differ: if the subtypes are spelled alike the types are not,
and no suffix that is made longer is one that another subtype has. -/
structure SuffixesApart (contentTypes : List String) : Prop where
  spelled : contentTypes.Pairwise fun a b => mediaSuffix a = mediaSuffix b →
    pascalCase (mainType (essence a)) ≠ pascalCase (mainType (essence b))
  regrouped : ∀ a ∈ contentTypes, ∀ b ∈ contentTypes, mediaSuffix a ≠ mediaSuffix b →
    Clashes contentTypes a → Clashes contentTypes b → longSuffix a ≠ longSuffix b
  taken : ∀ a ∈ contentTypes, ∀ b ∈ contentTypes, Clashes contentTypes a →
    ¬ Clashes contentTypes b → longSuffix a ≠ mediaSuffix b

section Suffixes

variable {contentTypes : List String} {a b : String}

theorem mediaSuffixes_eq (contentTypes : List String) :
    mediaSuffixes contentTypes = contentTypes.map (suffixAmong contentTypes) := rfl

theorem clashes_iff_of_eq (h : mediaSuffix a = mediaSuffix b) :
    Clashes contentTypes a ↔ Clashes contentTypes b := by
  rw [Clashes, Clashes, h]

theorem clashes_of_sublist (hsublist : [a, b].Sublist contentTypes)
    (h : mediaSuffix a = mediaSuffix b) : Clashes contentTypes a := by
  have hcount := (hsublist.map mediaSuffix).count_le (mediaSuffix a)
  rw [List.map_cons, List.map_singleton, ← h, List.count_cons_self, List.count_cons_self] at hcount
  exact hcount

theorem longSuffix_eq_iff (h : mediaSuffix a = mediaSuffix b) : longSuffix a = longSuffix b ↔
    pascalCase (mainType (essence a)) = pascalCase (mainType (essence b)) := by
  rw [longSuffix_eq, longSuffix_eq, h, String.append_left_inj]

theorem suffixesApart_of_nodup (h : (mediaSuffixes contentTypes).Nodup) :
    SuffixesApart contentTypes := by
  rw [mediaSuffixes_eq] at h
  have hmem {a b : String} (ha : a ∈ contentTypes) (hb : b ∈ contentTypes) (hne : a ≠ b) :
      suffixAmong contentTypes a ≠ suffixAmong contentTypes b :=
    mt (List.inj_on_of_nodup_map h ha hb) hne
  rw [List.Nodup, List.pairwise_map] at h
  refine ⟨List.pairwise_iff_forall_sublist.mpr fun {a b} hsublist hshort => ?_, ?_, ?_⟩
  · have hclash := clashes_of_sublist hsublist hshort
    have hne := List.pairwise_iff_forall_sublist.mp h hsublist
    rw [suffixAmong, suffixAmong, if_pos hclash,
      if_pos ((clashes_iff_of_eq hshort).mp hclash)] at hne
    exact mt (longSuffix_eq_iff hshort).mpr hne
  · intro a ha b hb hshort hclash hclash'
    have hne := hmem ha hb (fun heq => hshort (congrArg mediaSuffix heq))
    rwa [suffixAmong, suffixAmong, if_pos hclash, if_pos hclash'] at hne
  · intro a ha b hb hclash hunique
    have hne := hmem ha hb (fun heq => hunique (heq ▸ hclash))
    rwa [suffixAmong, suffixAmong, if_pos hclash, if_neg hunique] at hne

theorem nodup_of_suffixesApart (h : SuffixesApart contentTypes) :
    (mediaSuffixes contentTypes).Nodup := by
  rw [mediaSuffixes_eq, List.Nodup, List.pairwise_map, List.pairwise_iff_forall_sublist]
  intro a b hsublist
  have ha : a ∈ contentTypes := hsublist.subset (by simp)
  have hb : b ∈ contentTypes := hsublist.subset (by simp)
  unfold suffixAmong
  split_ifs with hclash hclash' hclash'
  · by_cases hshort : mediaSuffix a = mediaSuffix b
    · exact mt (longSuffix_eq_iff hshort).mp
        (List.pairwise_iff_forall_sublist.mp h.spelled hsublist hshort)
    · exact h.regrouped a ha b hb hshort hclash hclash'
  · exact h.taken a ha b hb hclash hclash'
  · exact (h.taken b hb a ha hclash' hclash).symm
  · exact fun hshort => hclash (clashes_of_sublist hsublist hshort)

theorem nodup_mediaSuffixes_iff : (mediaSuffixes contentTypes).Nodup ↔ SuffixesApart contentTypes :=
  ⟨suffixesApart_of_nodup, nodup_of_suffixesApart⟩

/-- The names for the models of the variants of a response differ if their suffixes do. -/
theorem nodup_returnModelNames_iff (base : Name) (contentTypes : List String) :
    ((mediaSuffixes contentTypes).map (returnModelName base (contentTypes.length > 1))).Nodup ↔
      (mediaSuffixes contentTypes).Nodup := by
  by_cases hseveral : contentTypes.length > 1
  · have hinjective : Function.Injective (returnModelName base true) :=
      fun _ _ h => String.append_right_inj _ |>.mp h
    rw [decide_eq_true hseveral]
    exact List.nodup_map_iff hinjective
  · have hone : contentTypes.length ≤ 1 := Nat.le_of_not_gt hseveral
    match contentTypes, hone with
    | [], _ => exact iff_of_true List.nodup_nil List.nodup_nil
    | [_], _ => exact iff_of_true (List.nodup_singleton _) (List.nodup_singleton _)

end Suffixes

/-! ## Variants of a response -/

/-- A variant is that of an entry of the content of a response: it has the content type and the
suffix of the entry, and a schema in place is named with the suffix. -/
structure VariantOf (modelName : String → String) (entry : (String × MediaType) × String)
    (variant : MediaVariant) : Prop where
  contentType : variant.contentType = entry.1.1
  suffix : variant.name = entry.2
  named : ∀ schema, entry.1.2.schema = some (.inline schema) →
    ∃ model, variant.model = some model ∧ model.name = some (modelName entry.2)

namespace Document

theorem ensures_variantsOf (doc : Document) (modelName : String → String)
    (entries : List ((String × MediaType) × String)) :
    Ensures (doc.variants modelName entries)
      (fun variants => List.Forall₂ (VariantOf modelName) entries variants) (fun _ => True) := by
  induction entries with
  | nil => exact ensures_pure .nil
  | cons entry entries ih =>
      obtain ⟨⟨contentType, media⟩, suffix⟩ := entry
      unfold variants
      have hschema : Ensures (media.schema.mapM fun schema =>
          Building.expanding (doc.expand schema (some (modelName suffix))))
          (fun model => ∀ schema, media.schema = some (.inline schema) →
            ∃ found, model = some found ∧ found.name = some (modelName suffix))
          (fun _ => True) := by
        cases media.schema with
        | none => exact ensures_pure (by simp)
        | some node =>
            have hstep : Ensures (Building.expanding (doc.expand node (some (modelName suffix))))
                (fun model => doc.modelAt ⟨some (modelName suffix), node⟩ = .ok model)
                (fun _ => True) :=
              Building.ensures_expanding (doc.steady_expand _ _) (fun _ h => h) fun _ _ => trivial
            refine ensures_bind hstep fun model hmodel => ensures_pure ?_
            rintro schema hnode
            obtain rfl := Option.some.inj hnode
            exact ⟨model, rfl, (expands_of_modelAt hmodel).name_inPlace⟩
      refine ensures_bind hschema fun model hmodel => ?_
      refine ensures_bind ih fun variants hvariants => ensures_pure ?_
      exact .cons ⟨rfl, rfl, hmodel⟩ hvariants

/-- The variants of the response that stands for success are those of its content. -/
theorem ensures_returnVariants (doc : Document) (base : Name) (operation : Operation) :
    Ensures (doc.returns base operation)
      (fun variants => List.Forall₂
        (VariantOf (returnModelName base ((doc.returnContent operation).length > 1)))
        (suffixedContent (doc.returnContent operation)) variants) (fun _ => True) := by
  unfold returns
  cases hnode : operation.successResponse? with
  | none =>
      have hcontent : doc.returnContent operation = [] := by simp [returnContent, response?, hnode]
      rw [hcontent]
      exact ensures_pure .nil
  | some node =>
      refine ensures_bind (doc.ensures_deref Shape.response node fun _ _ => trivial)
        fun response hresponse => ?_
      have hcontent : doc.returnContent operation = response.content := by
        simp [returnContent, response?, hnode, hresponse, Except.toOption]
      rw [hcontent]
      exact doc.ensures_variantsOf _ _

/-- The suffixes of content types differ exactly if `SuffixesApart` says so, and then the models of
the variants of a response have different names: the variant for a schema in place is named with
its suffix. -/
theorem suffixes_distinct_iff (contentTypes : List String) :
    ((mediaSuffixes contentTypes).Nodup ↔ SuffixesApart contentTypes) ∧
    (∀ base,
      ((mediaSuffixes contentTypes).map (returnModelName base (contentTypes.length > 1))).Nodup ↔
        SuffixesApart contentTypes) ∧
    ∀ (doc : Document) (base : Name) (operation : Operation),
      Ensures (doc.returns base operation)
        (fun variants => List.Forall₂
          (VariantOf (returnModelName base ((doc.returnContent operation).length > 1)))
          (suffixedContent (doc.returnContent operation)) variants) (fun _ => True) := by
  refine ⟨nodup_mediaSuffixes_iff, fun base => ?_, ?_⟩
  · rw [nodup_returnModelNames_iff, nodup_mediaSuffixes_iff]
  · exact fun doc base operation => doc.ensures_returnVariants base operation

end Document

/-- The content types of two versions of one interface. -/
def petTypes : List String := ["application/vnd.pets.v1+json", "application/vnd-pets.v1+json"]

/-- Two different content types are spelled alike, so that they have one suffix. -/
theorem suffixes_collide_on_pets :
    (petTypes.map essence).Nodup ∧ (∀ type ∈ petTypes, pascalCase (essence type) ≠ "") ∧
    mediaSuffixes petTypes = ["ApplicationVndPetsV1Json", "ApplicationVndPetsV1Json"] ∧
    ¬ (mediaSuffixes petTypes).Nodup := by
  have hsuffixes : mediaSuffixes petTypes =
      ["ApplicationVndPetsV1Json", "ApplicationVndPetsV1Json"] := by decide +kernel
  refine ⟨by decide +kernel, by decide +kernel, hsuffixes, ?_⟩
  rw [hsuffixes]
  decide

end OpenApiClient
