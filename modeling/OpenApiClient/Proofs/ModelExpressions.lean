import OpenApiClient.Proofs.NamedModels
import OpenApiClient.Proofs.SchemaSurfaces
import OpenApiClient.Proofs.TypeReadings

/-!
# What the type expressions of models stand for

A name stands for its own type, and a model without a name for the type of its structure
(`Model.values`).  The type expression of a model has the words of that type without parentheses, so
it is read as that type exactly if the type needs none (`Model.expressed_iff`).  In the interface of
a document there is never a need, because all composite models have names.
-/

namespace OpenApiClient

mutual

/-- The type that a model stands for, above names. -/
def Model.tree : Model → TypeTree
  | ⟨some name, _, _⟩ => .name name
  | ⟨none, _, kind⟩ => kindTree kind

def kindTree : ModelKind Model → TypeTree
  | .object _ => .name "unknown"
  | .array item => .list item.tree
  | .union members => .joinedOf .or (modelTrees members)
  | .intersection members => .joinedOf .and (modelTrees members)
  | .primitive type => .name type.typeText
  | .unknown => .name "unknown"
  | .pending _ => .name "unknown"

def modelTrees : List Model → List TypeTree
  | [] => []
  | model :: models => model.tree :: modelTrees models

end

section Values

variable {V : Type} (meaning : TypeMeaning V)

mutual

def Model.values : Model → Set V
  | ⟨some name, _, _⟩ => meaning.name name
  | ⟨none, _, kind⟩ => kindValues kind

/-- The lists of the values of an item, the values of any member or of all members; of an object
without a name nothing is known. -/
def kindValues : ModelKind Model → Set V
  | .object _ => Set.univ
  | .array item => meaning.list item.values
  | .union members => {value | ∃ part ∈ listedValues members, value ∈ part}
  | .intersection members => {value | ∀ part ∈ listedValues members, value ∈ part}
  | .primitive type => meaning.name type.typeText
  | .unknown => Set.univ
  | .pending _ => Set.univ

def listedValues : List Model → List (Set V)
  | [] => []
  | model :: models => model.values :: listedValues models

end

end Values

namespace Model

def unnamed (model : Model) : Model := { model with name := none }

/-- A text is the type expression of a model.  It consists of the words of the type that the model
stands for.  They are read as this type exactly if nothing in it needs parentheses, and what is read
then has the values of the model. -/
structure IsExpressedBy (model : Model) (text : String) : Prop where
  text_eq : text = tokensText model.tree.tokens
  reads_iff : readType model.tree.tokens = some model.tree.flat ↔ model.tree.Fits
  values_eq : ∀ {V : Type} (meaning : TypeMeaning V),
    model.tree.flat.values meaning = model.values meaning

end Model

/-! ## Words -/

theorem tokensText_append (first second : List TypeToken) :
    tokensText (first ++ second) = tokensText first ++ tokensText second := by
  rw [tokensText, List.map_append, String.join_append]
  rfl

theorem tokensText_joinedOf {operator : TypeOperator} {trees : List TypeTree} (hne : trees ≠ []) :
    tokensText (TypeTree.joinedOf operator trees).tokens =
      (TypeToken.operator operator).text.intercalate
        (trees.map fun tree => tokensText tree.tokens) := by
  induction trees using TypeTree.joinedOf.induct with
  | case1 => exact absurd rfl hne
  | case2 tree => simp [TypeTree.joinedOf]
  | case3 first second rest ih =>
      rw [TypeTree.joinedOf, TypeTree.tokens, tokensText_append, ← List.singleton_append,
        tokensText_append, ih (List.cons_ne_nil _ _)]
      simp [tokensText, String.append_assoc]

theorem tokensText_union (trees : List TypeTree) :
    tokensText (TypeTree.joinedOf .or trees).tokens =
      unionText (trees.map fun tree => tokensText tree.tokens) := by
  cases trees with
  | nil => rfl
  | cons tree trees =>
      rw [tokensText_joinedOf (List.cons_ne_nil _ _)]
      rfl

theorem tokensText_intersection (trees : List TypeTree) :
    tokensText (TypeTree.joinedOf .and trees).tokens =
      intersectionText (trees.map fun tree => tokensText tree.tokens) := by
  cases trees with
  | nil => rfl
  | cons tree trees =>
      rw [tokensText_joinedOf (List.cons_ne_nil _ _)]
      rfl

/-! ## Structures -/

theorem modelTrees_eq_map (models : List Model) : modelTrees models = models.map Model.tree := by
  induction models with
  | nil => rfl
  | cons model models ih => rw [modelTrees, ih, List.map_cons]

theorem listedValues_eq_map {V : Type} (meaning : TypeMeaning V) (models : List Model) :
    listedValues meaning models = models.map (Model.values meaning) := by
  induction models with
  | nil => rfl
  | cons model models ih => rw [listedValues, ih, List.map_cons]

namespace Model

/-- Induction along the parts of an expression, which end at names. -/
@[elab_as_elim]
theorem expressionInduction {motive : Model → Prop}
    (named : ∀ name description kind, motive ⟨some name, description, kind⟩)
    (array : ∀ description item, motive item → motive ⟨none, description, .array item⟩)
    (union : ∀ description members, (∀ member ∈ members, motive member) →
      motive ⟨none, description, .union members⟩)
    (intersection : ∀ description members, (∀ member ∈ members, motive member) →
      motive ⟨none, description, .intersection members⟩)
    (primitive : ∀ description type, motive ⟨none, description, .primitive type⟩)
    (object : ∀ description properties, motive ⟨none, description, .object properties⟩)
    (unknown : ∀ description, motive ⟨none, description, .unknown⟩)
    (pending : ∀ description pointer, motive ⟨none, description, .pending pointer⟩)
    (model : Model) : motive model := by
  induction model using childInduction with
  | step model ih =>
      obtain ⟨name, description, kind⟩ := model
      cases name with
      | some name => exact named name description kind
      | none =>
          cases kind with
          | array item => exact array _ _ (ih item (by simp))
          | union members =>
              exact union _ _ fun member hmember => ih member (by simpa using hmember)
          | intersection members =>
              exact intersection _ _ fun member hmember => ih member (by simpa using hmember)
          | primitive type => exact primitive _ _
          | object properties => exact object _ _
          | unknown => exact unknown _
          | pending pointer => exact pending _ _

theorem typeName_eq_tokensText (model : Model) : model.typeName = tokensText model.tree.tokens := by
  induction model using expressionInduction with
  | named name description kind =>
      simp [typeName, tree, TypeTree.tokens, tokensText, TypeToken.text]
  | array description item ih =>
      rw [typeName, kindText?, Option.getD_some, ih, tree, kindTree, TypeTree.tokens,
        tokensText_append]
      rfl
  | union description members ih =>
      rw [typeName, kindText?, Option.getD_some, typeNames_eq_map, tree, kindTree,
        tokensText_union, modelTrees_eq_map, List.map_map, List.map_congr_left ih]
      rfl
  | intersection description members ih =>
      rw [typeName, kindText?, Option.getD_some, typeNames_eq_map, tree, kindTree,
        tokensText_intersection, modelTrees_eq_map, List.map_map, List.map_congr_left ih]
      rfl
  | primitive description type =>
      simp [typeName, kindText?, tree, kindTree, TypeTree.tokens, tokensText, TypeToken.text]
  | object description properties => rfl
  | unknown description => rfl
  | pending description pointer => rfl

theorem values_tree {V : Type} (meaning : TypeMeaning V) (model : Model) :
    model.tree.values meaning = model.values meaning := by
  induction model using expressionInduction with
  | named name description kind => rfl
  | array description item ih => rw [tree, kindTree, TypeTree.values, ih, values, kindValues]
  | union description members ih =>
      rw [tree, kindTree, TypeTree.values_union, modelTrees_eq_map, List.map_map, values,
        kindValues, listedValues_eq_map, ← List.map_congr_left ih]
      rfl
  | intersection description members ih =>
      rw [tree, kindTree, TypeTree.values_intersection, modelTrees_eq_map, List.map_map, values,
        kindValues, listedValues_eq_map, ← List.map_congr_left ih]
      rfl
  | primitive description type => rfl
  | object description properties => exact meaning.unknown
  | unknown description => exact meaning.unknown
  | pending description pointer => exact meaning.unknown

/-! ## Expressions -/

theorem isExpressedBy_typeName (model : Model) : model.IsExpressedBy model.typeName where
  text_eq := model.typeName_eq_tokensText
  reads_iff := readType_tokens_iff model.tree
  values_eq meaning := by rw [TypeTree.values_flat, values_tree]

theorem typeName_unnamed (model : Model) :
    model.unnamed.typeName = model.literalType?.getD "unknown" := rfl

theorem WellNamed.exists_tree_eq {model : Model} (h : model.WellNamed) :
    ∃ text, model.tree = .name text := by
  obtain ⟨name, description, kind⟩ := model
  cases name with
  | some name => exact ⟨name, rfl⟩
  | none =>
      have hscalar := h.isScalar rfl
      cases kind with
      | primitive type => exact ⟨_, rfl⟩
      | unknown => exact ⟨_, rfl⟩
      | _ => cases hscalar

theorem fits_joinedOf_modelTrees {operator : TypeOperator} {models : List Model}
    (h : ∀ model ∈ models, ∃ text, model.tree = .name text) :
    (TypeTree.joinedOf operator (modelTrees models)).Fits := by
  refine (TypeTree.fits_joinedOf fun tree htree => ?_).1
  rw [modelTrees_eq_map] at htree
  obtain ⟨model, hmodel, rfl⟩ := List.mem_map.mp htree
  obtain ⟨text, htext⟩ := h model hmodel
  rw [htext]
  exact ⟨trivial, rfl⟩

/-- Parts that are names need no parentheses, whatever the structure. -/
theorem fits_unnamed {model : Model}
    (h : ∀ child ∈ model.children, ∃ text, child.tree = .name text) : model.unnamed.tree.Fits := by
  obtain ⟨name, description, kind⟩ := model
  rw [unnamed, tree]
  cases kind with
  | array item =>
      obtain ⟨text, hitem⟩ := h item (by simp)
      rw [kindTree, hitem]
      exact ⟨trivial, rfl⟩
  | union members =>
      exact fits_joinedOf_modelTrees fun member hmember => h member (by simpa using hmember)
  | intersection members =>
      exact fits_joinedOf_modelTrees fun member hmember => h member (by simpa using hmember)
  | primitive type => trivial
  | object properties => trivial
  | unknown => trivial
  | pending pointer => trivial

structure NeedsNoParentheses (model : Model) : Prop where
  named : model.tree.Fits
  unnamed : model.unnamed.tree.Fits

theorem needsNoParentheses {model : Model} (h : ∀ found ∈ model.occurrences, found.WellNamed) :
    model.NeedsNoParentheses where
  named := by
    obtain ⟨text, htree⟩ := (h model model.self_mem_occurrences).exists_tree_eq
    rw [htree]
    trivial
  unnamed := fits_unnamed fun child hchild =>
    (h child (child_mem_occurrences hchild)).exists_tree_eq

end Model

open Reporting

/-- A model is expressed by its type, and its structure by its literal type: the expressions are read
as what they stand for exactly if no parentheses are needed.  In the interface of a document none
are needed. -/
theorem Model.expressed_iff (model : Model) :
    model.IsExpressedBy model.typeName ∧
    model.unnamed.IsExpressedBy (model.literalType?.getD "unknown") ∧
    ∀ doc : Document, Ensures doc.toApi
      (fun api => ∀ method ∈ api.methods, model ∈ method.models → model.NeedsNoParentheses)
      (fun _ => True) := by
  refine ⟨model.isExpressedBy_typeName, ?_, fun doc => ?_⟩
  · rw [← typeName_unnamed]
    exact model.unnamed.isExpressedBy_typeName
  · refine doc.ensures_toApi.mono ?_ fun _ _ => trivial
    intro api hdescribes method hmethod hmodel
    -- What stands inside a model of the method is a model of the method as well.
    obtain ⟨root, hroot, hmodel⟩ := List.mem_flatMap.mp hmodel
    refine needsNoParentheses fun found hfound => hdescribes.wellNamed method hmethod found ?_
    exact List.mem_flatMap.mpr ⟨root, hroot, occurrences_trans hfound hmodel⟩

/-- A schema for lists of texts and numbers, and below it its model without a name. -/
def keyListSchema : Schema :=
  { Schema.empty with
    type := some (.single "array")
    items := some (.inline
      { Schema.empty with
        oneOf := some [.inline { Schema.empty with type := some (.single "string") },
          .inline { Schema.empty with type := some (.single "integer") }] }) }

def keyList : Model :=
  ⟨none, none, .array ⟨none, none, .union
    [⟨none, none, .primitive .string⟩, ⟨none, none, .primitive .number⟩]⟩⟩

def keyListReading : TypeTree := .joined .or (.name "string") (.list (.name "number"))

/-- Texts, numbers and lists among JSON values. -/
def jsonMeaning : TypeMeaning Json where
  name text :=
    if text = "string" then {value | ∃ text, value = .string text}
    else if text = "number" then {value | ∃ number, value = .number number}
    else if text = "unknown" then Set.univ
    else ∅
  list items := {value | ∃ list, value = .array list ∧ ∀ item ∈ list, item ∈ items}
  never := by simp
  unknown := by simp

/-- A list of texts and numbers is read as a text or a list of numbers.  So a text has the type that
is read, but it is no list. -/
theorem Model.keyList_misread :
    (∀ (doc : Document) state,
      doc.expand (.inline keyListSchema) none state = (.ok keyList, state)) ∧
    keyList.typeName = "string | number[]" ∧ keyList.literalType? = some "string | number[]" ∧
    readType keyList.tree.tokens = some keyListReading ∧ keyListReading ≠ keyList.tree.flat ∧
    Json.string "key" ∈ keyListReading.values jsonMeaning ∧
    Json.string "key" ∉ keyList.values jsonMeaning := by
  refine ⟨fun doc state => rfl, by decide +kernel, by decide +kernel, by decide, by decide, ?_, ?_⟩
  · exact Or.inl ⟨"key", rfl⟩
  · rintro ⟨list, hlist, -⟩
    cases hlist

end OpenApiClient
