import OpenApiClient.Proofs.ListedDefinitions
import OpenApiClient.Proofs.RenderedTemplates

/-!
# Models that agree are declared alike

Two full models that agree are declared with the same text, comments apart (`SameButComments`),
wherever their expansions are cut.  So it does not matter which of the full occurrences of a name is
kept in a catalogue (`declarations_alike`).
-/

namespace OpenApiClient

inductive SameButComments : String → String → Prop
  | same (text : String) : SameButComments text text
  | comment {text text' : String} (h : Template.IsComment text) (h' : Template.IsComment text') :
    SameButComments text text'
  | append {first first' rest rest' : String} (h : SameButComments first first')
    (hrest : SameButComments rest rest') : SameButComments (first ++ rest) (first' ++ rest')

structure PropertyView.Alike (a b : PropertyView) : Prop where
  name : a.name = b.name
  key : a.key = b.key
  accessor : a.accessor = b.accessor
  typeName : a.typeName = b.typeName
  isRequired : a.isRequired = b.isRequired

structure ModelView.Alike (a b : ModelView) : Prop where
  name : a.name = b.name
  kind : a.kind = b.kind
  typeName : a.typeName = b.typeName
  isObject : a.isObject = b.isObject
  isArray : a.isArray = b.isArray
  imports : a.imports = b.imports
  properties : List.Forall₂ PropertyView.Alike a.properties b.properties

/-- Two models have the same declaration, comments apart. -/
structure Model.DeclaredAlike (a b : Model) : Prop where
  view : a.view.Alike b.view
  file : ∀ path, ∃ text text', SameButComments text text' ∧
    Templates.builtin.file .declaration path a.view.toJson = .ok ⟨path, text⟩ ∧
    Templates.builtin.file .declaration path b.view.toJson = .ok ⟨path, text'⟩

/-! ## Texts -/

namespace SameButComments

theorem join {texts texts' : List String} (h : List.Forall₂ SameButComments texts texts') :
    SameButComments (String.join texts) (String.join texts') := by
  induction h with
  | nil => exact .same _
  | cons h _ ih =>
      rw [String.join_cons, String.join_cons]
      exact h.append ih

theorem commentText (indent : String) (h : ∀ c ∈ indent.toList, c = ' ')
    (lines lines' : List String) :
    SameButComments (commentText indent lines) (commentText indent lines') :=
  .comment (Template.isComment_commentText h lines) (Template.isComment_commentText h lines')

end SameButComments

theorem PropertyView.Alike.declaredText {a b : PropertyView} (h : a.Alike b) :
    SameButComments a.declaredText b.declaredText := by
  have hfield : a.fieldText = b.fieldText := by
    rw [fieldText, fieldText, h.key, h.isRequired, h.typeName]
  refine .append (.commentText "  " (by simp) _ _) ?_
  rw [hfield]
  exact .same _

theorem ModelView.Alike.declarationText {a b : ModelView} (h : a.Alike b) :
    SameButComments a.declarationText b.declarationText := by
  have hfields : SameButComments (String.join (a.properties.map PropertyView.declaredText))
      (String.join (b.properties.map PropertyView.declaredText)) := by
    apply SameButComments.join
    rw [List.forall₂_map_left_iff, List.forall₂_map_right_iff]
    exact h.properties.imp fun _ _ => PropertyView.Alike.declaredText
  have hbody : SameButComments (if a.isObject then a.interfaceText else a.aliasText)
      (if b.isObject then b.interfaceText else b.aliasText) := by
    unfold interfaceText aliasText
    rw [h.isObject, h.name, h.typeName]
    split_ifs
    · exact .join (.cons (.same _) (.cons (.same _) (.cons (.same _) (.cons hfields
        (.cons (.same _) .nil)))))
    · exact .same _
  unfold ModelView.declarationText
  rw [h.imports]
  exact .join (.cons (.same _) (.cons (.same _) (.cons (.commentText "" (by simp) _ _)
    (.cons hbody .nil))))

/-! ## Views -/

theorem Property.alike_of_surface {a b : Property Model} (h : a.surface = b.surface) :
    a.view.Alike b.view := by
  obtain ⟨name, isRequired, _, model⟩ := a
  obtain ⟨name', isRequired', _, model'⟩ := b
  obtain ⟨rfl, rfl, -, htype⟩ := Property.mk.inj h
  exact ⟨rfl, rfl, rfl, htype, rfl⟩

namespace Model

variable {a b : Model}

theorem referenced_eq (model : Model) : model.referenced = model.children := by
  obtain ⟨_, _, kind⟩ := model
  cases kind <;> simp [referenced, children, Model.properties, parts]

theorem kindName_eq_of_surface (h : a.surface = b.surface) : a.kindName = b.kindName := by
  obtain ⟨_, _, kind⟩ := a
  obtain ⟨_, _, kind'⟩ := b
  cases kind <;> cases kind' <;> simp_all [surface, ModelKind.surface, kindName]

theorem isObject_eq (model : Model) : model.isObject = (model.kindName == "object") := by
  obtain ⟨_, _, kind⟩ := model
  cases kind <;> rfl

theorem isArray_eq (model : Model) : model.isArray = (model.kindName == "array") := by
  obtain ⟨_, _, kind⟩ := model
  cases kind <;> rfl

theorem properties_eq_of_surface (h : a.surface = b.surface) :
    a.properties.map Property.surface = b.properties.map Property.surface := by
  obtain ⟨_, _, kind⟩ := a
  obtain ⟨_, _, kind'⟩ := b
  cases kind <;> cases kind' <;> simp_all [surface, ModelKind.surface, Model.properties]

/-- Models that agree are referred to by the same names.  Without a name neither is pending, so the
names of their children are the same. -/
theorem dependsOn_eq_of_sameShape (h : a.sameShape b = true) (ha : a.NamesPending)
    (hb : b.NamesPending) : a.reference.dependsOn = b.reference.dependsOn := by
  have hname := name_eq_of_sameShape h
  unfold reference
  dsimp only
  cases hnone : a.name with
  | some name => rw [← hname, hnone]
  | none =>
      have hnone' := hname.symm.trans hnone
      obtain ⟨-, hchildren⟩ := outline_eq_of_sameShape h
        (ha.isPending_eq_false hnone) (hb.isPending_eq_false hnone')
      have hnames : a.children.map name = b.children.map name :=
        map_eq_of_forall₂ hchildren fun _ _ => name_eq_of_sameShape
      have hgiven : a.children.filterMap name = b.children.filterMap name := by
        simpa [List.filterMap_map] using congrArg (List.filterMap id) hnames
      rw [hnone', dependencies, dependencies, hgiven]

/-- Full models that agree are declared alike. -/
theorem alike_of_sameShape (h : a.sameShape b = true) (ha : a.NamesPending) (hb : b.NamesPending)
    (hpa : a.isPending = false) (hpb : b.isPending = false) : a.view.Alike b.view := by
  have hsurface := surface_eq_of_sameShape h ha hb hpa hpb
  have hkind := kindName_eq_of_surface hsurface
  have hname := typeName_eq_of_sameShape h ha hb
  obtain ⟨-, hchildren⟩ := outline_eq_of_sameShape h hpa hpb
  have hdependsOn := forall₂_imp_of_mem hchildren fun x hx y hy hxy =>
    dependsOn_eq_of_sameShape hxy (ha.child hx) (hb.child hy)
  have hdepends : a.children.map (fun child => child.reference.dependsOn) =
      b.children.map fun child => child.reference.dependsOn :=
    map_eq_of_forall₂ hdependsOn fun _ _ h => h
  refine ⟨hname, hkind, ?_, ?_, ?_, ?_, ?_⟩
  · change a.literalType?.getD _ = b.literalType?.getD _
    rw [literalType?_eq, literalType?_eq, hsurface]
  · change a.isObject = b.isObject
    rw [isObject_eq, isObject_eq, hkind]
  · change a.isArray = b.isArray
    rw [isArray_eq, isArray_eq, hkind]
  · change a.imports = b.imports
    rw [imports, imports, referenced_eq, referenced_eq, List.flatMap_def, List.flatMap_def,
      hdepends, hname]
  · have hproperties := properties_eq_of_surface hsurface
    rw [← List.forall₂_eq_eq_eq, List.forall₂_map_left_iff, List.forall₂_map_right_iff]
      at hproperties
    change List.Forall₂ _ (a.properties.map Property.view) (b.properties.map Property.view)
    rw [List.forall₂_map_left_iff, List.forall₂_map_right_iff]
    exact hproperties.imp fun _ _ => Property.alike_of_surface

theorem declaredAlike_of_sameShape (h : a.sameShape b = true) (ha : a.NamesPending)
    (hb : b.NamesPending) (hpa : a.isPending = false) (hpb : b.isPending = false) :
    a.DeclaredAlike b := by
  have hview := alike_of_sameShape h ha hb hpa hpb
  exact ⟨hview, fun path => ⟨_, _, hview.declarationText, Templates.file_declaration path a.view,
    Templates.file_declaration path b.view⟩⟩

end Model

/-- Full models that agree have the same declaration, comments apart, if their pending models have
names.  So the listed model of a document is declared like every full occurrence of its name. -/
theorem declarations_alike :
    (∀ a b : Model, a.sameShape b = true → a.NamesPending → b.NamesPending →
      a.isPending = false → b.isPending = false → a.DeclaredAlike b) ∧
    ∀ (doc : Document) (api : Api), doc.toApi.outcome.1 = .ok api → ∀ listed ∈ api.models,
      ∀ model, Reached api.endpoints api.methods model → model.name = listed.name →
        model.isPending = false → listed.DeclaredAlike model := by
  refine ⟨fun a b => Model.declaredAlike_of_sameShape, ?_⟩
  intro doc api h listed hlisted model hmodel hname hpending
  have hdescribes := doc.ensures_toApi.ok h
  -- Only one model of the name is listed, so it is the one that all its occurrences agree with.
  have hlistedName := hdescribes.name_eq hlisted
  obtain ⟨kept, honly, -, hagree⟩ :=
    hdescribes.exists_modelsNamed hmodel (hname.trans hlistedName)
  obtain rfl : kept = listed :=
    List.singleton_inj.mp (honly.symm.trans (hdescribes.modelsNamed_eq hlisted hlistedName))
  obtain ⟨hkept, hshape⟩ := hagree hpending
  exact Model.declaredAlike_of_sameShape hshape
    (hdescribes.namesPending (hdescribes.reached_of_mem hlisted)) (hdescribes.namesPending hmodel)
    hkept hpending

/-- The node of a list, described and expanded one step further. -/
def describedNode : Model :=
  ⟨some "Node", some "A node.", .object [⟨"rest", false, some "What follows.",
    ⟨some "List", none, .array ⟨some "Node", none, .pending "#/node"⟩⟩⟩]⟩

/-- A node is declared in the same way inside of a list and on its own. -/
theorem declarations_alike_on_lists :
    listedNode.sameShape describedNode = true ∧ listedNode.DeclaredAlike describedNode ∧
    listDocument.toApi.outcome.1 = .ok listApi ∧ listedNode.DeclaredAlike listedNode := by
  have hagree : listedNode.sameShape describedNode = true := by decide +kernel
  have hnames : listedNode.NamesPending := by
    simp [Model.NamesPending, listedNode, Model.occurrences, kindOccurrences, propertyOccurrences]
  have hnames' : describedNode.NamesPending := by
    simp [Model.NamesPending, describedNode, Model.occurrences, kindOccurrences,
      propertyOccurrences]
  obtain ⟨hmodels, hdocument⟩ := declarations_alike
  have hlisted : listedNode ∈ listApi.models := by simp [listApi]
  have hok := Document.outcome_listDocument
  exact ⟨hagree, hmodels _ _ hagree hnames hnames' rfl rfl, hok,
    hdocument _ _ hok _ hlisted _ ((listDocument.ensures_toApi.ok hok).reached_of_mem hlisted)
      rfl rfl⟩

end OpenApiClient
