import OpenApiClient.Proofs.Aggregation
import OpenApiClient.Proofs.FilePaths
import OpenApiClient.Proofs.ModelReferences

/-!
# Imports of generated modules

The modules of a client import models and serializers by name.  What they mention they import, and
what they import is generated (`Api.Closed`): for each name that occurs there is a listed model,
and it has a serializer unless it is a scalar.
-/

namespace OpenApiClient

namespace Api

variable {api : Api}

def Declares (api : Api) (name : String) : Prop := ∃ model ∈ api.models, model.name = some name

def Serializes (api : Api) (serializer : String) : Prop :=
  ∃ model ∈ api.models, model.serializer? = some serializer

/-- Generated modules import what they mention, and what they import is there. -/
structure Closed (api : Api) : Prop where
  mentioned : ∀ model ∈ api.models, ∀ name, model.Mentions name →
    model.name = some name ∨ name ∈ model.view.imports
  imports : ∀ model ∈ api.models, ∀ name ∈ model.view.imports, api.Declares name
  serializers : ∀ model ∈ api.models, ∀ serializer ∈ model.view.serializerImports,
    api.Serializes serializer
  endpoint : ∀ endpoint ∈ api.endpoints, ∃ view, api.endpointView endpoint = .ok view ∧
    (∀ method ∈ api.endpointMethods endpoint, ∀ root ∈ method.rootModels, ∀ name,
      root.Refers name → name ∈ view.imports) ∧
    (∀ name ∈ view.imports, api.Declares name) ∧
    ∀ serializer ∈ view.serializerImports, api.Serializes serializer

/-! ## Files -/

/-- The files of the listed models are among the files of a client. -/
theorem paths_of_renderFiles {templates : Templates} {files : List GeneratedFile}
    (h : api.renderFiles templates = .ok files) :
    (∀ name, api.Declares name → ∃ file ∈ files, file.path = "domain/" ++ name ++ ".ts") ∧
    ∀ serializer, api.Serializes serializer →
      ∃ file ∈ files, file.path = "serializers/" ++ serializer ++ ".ts" := by
  have hfile : ∀ model ∈ api.models, ∀ path ∈ model.paths, ∃ file ∈ files, file.path = path := by
    intro model hmodel path hpath
    have hmem : path ∈ files.map GeneratedFile.path :=
      map_path_renderFiles h ▸ paths_subset hmodel hpath
    exact List.mem_map.mp hmem
  constructor
  · rintro name ⟨model, hmodel, hname⟩
    rw [← Model.typeName_of_name hname]
    exact hfile model hmodel _ List.mem_cons_self
  · rintro serializer ⟨model, hmodel, hserializer⟩
    refine hfile model hmodel _ (List.mem_cons_of_mem _ ?_)
    rw [hserializer]
    exact List.mem_singleton_self _

end Api

namespace Document.Describes

variable {doc : Document} {api : Api} {model : Model}

theorem isScalar (h : doc.Describes api) (hmodel : Reached api.endpoints api.methods model) :
    model.name = none → model.isScalar = true :=
  h.aggregates.isScalar hmodel

theorem reached_of_mem (h : doc.Describes api) (hmodel : model ∈ api.models) :
    Reached api.endpoints api.methods model :=
  ((mem_of_catalogue_eq_ok h.catalogue).1 model hmodel).1

theorem name_eq (h : doc.Describes api) (hmodel : model ∈ api.models) :
    model.name = some model.typeName := by
  obtain ⟨name, hname⟩ := Option.ne_none_iff_exists'.mp
    ((mem_of_catalogue_eq_ok h.catalogue).1 model hmodel).2
  rw [hname, Model.typeName_of_name hname]

theorem declares (h : doc.Describes api) (hmodel : Reached api.endpoints api.methods model)
    {name : String} (hname : model.name = some name) : api.Declares name := by
  obtain ⟨kept, hkept, hkeptName, -⟩ :=
    (mem_of_catalogue_eq_ok h.catalogue).2 model name hmodel hname
  exact ⟨kept, hkept, hkeptName⟩

/-- The serializer of a full model that the endpoints reach is that of the listed model of its
name. -/
theorem serializes_of_full (h : doc.Describes api)
    (hmodel : Reached api.endpoints api.methods model) (hfull : model.isPending = false)
    {serializer : String} (hserializer : model.serializer? = some serializer) :
    api.Serializes serializer := by
  obtain ⟨hscalar, name, hname, hspelling⟩ := Model.serializer?_eq_some.mp hserializer
  obtain ⟨kept, hkept, hkeptName, hkeptFull⟩ :=
    (mem_of_catalogue_eq_ok h.catalogue).2 model name hmodel hname
  obtain ⟨hpending, hagree⟩ := hkeptFull hfull
  refine ⟨kept, hkept, Model.serializer?_eq_some.mpr ⟨?_, name, hkeptName, hspelling⟩⟩
  rw [Model.isScalar_eq_of_outline (Model.outline_eq_of_sameShape hagree hpending hfull).1, hscalar]

/-- The serializer of any model that the endpoints reach is that of a listed model.  A pending
model has the serializer of the full model that it stands for. -/
theorem serializes (h : doc.Describes api) (hmodel : Reached api.endpoints api.methods model)
    {serializer : String} (hserializer : model.serializer? = some serializer) :
    api.Serializes serializer := by
  cases hpending : model.isPending with
  | false => exact h.serializes_of_full hmodel hpending hserializer
  | true =>
      obtain ⟨name, full, hname, hreached, hfullName, hfull, hscalar⟩ :=
        h.aggregates.exists_full hmodel hpending
      obtain ⟨-, name', hname', hspelling⟩ := Model.serializer?_eq_some.mp hserializer
      obtain rfl : name = name' := Option.some.inj (hname.symm.trans hname')
      exact h.serializes_of_full hreached hfull
        (Model.serializer?_eq_some.mpr ⟨hscalar, name, hfullName, hspelling⟩)

theorem reached_of_child (h : doc.Describes api) (hmodel : model ∈ api.models) {child : Model}
    (hchild : child ∈ model.children) : Reached api.endpoints api.methods child :=
  (h.reached_of_mem hmodel).of_mem_occurrences (Model.child_mem_occurrences hchild)

theorem mem_imports (h : doc.Describes api) (hmodel : model ∈ api.models) {name : String} :
    name ∈ model.view.imports ↔
      (∃ child ∈ model.children, child.name = some name) ∧ name ≠ model.typeName :=
  Model.mem_imports fun _ hchild => h.isScalar (h.reached_of_child hmodel hchild)

theorem reached_of_root {endpoint : Endpoint} (hendpoint : endpoint ∈ api.endpoints)
    {method : Method} (hmethod : method ∈ api.endpointMethods endpoint)
    (hmodel : model ∈ method.rootModels) : Reached api.endpoints api.methods model := by
  obtain ⟨place, hplace, hmethod⟩ := mem_methodsAt.mp hmethod
  exact ⟨endpoint, hendpoint, place, hplace, method, hmethod, model, hmodel,
    model.self_mem_occurrences⟩

theorem closed (h : doc.Describes api) : api.Closed where
  mentioned := by
    rintro model hmodel name ⟨child, hchild, hrefers⟩
    have hname := (Model.refers_iff (h.isScalar (h.reached_of_child hmodel hchild))).mp hrefers
    rw [h.mem_imports hmodel]
    by_cases hown : name = model.typeName
    · rw [hown]
      exact Or.inl (h.name_eq hmodel)
    · exact Or.inr ⟨⟨child, hchild, hname⟩, hown⟩
  imports := by
    intro model hmodel name hname
    obtain ⟨⟨child, hchild, hname⟩, -⟩ := (h.mem_imports hmodel).mp hname
    exact h.declares (h.reached_of_child hmodel hchild) hname
  serializers := by
    intro model hmodel serializer hserializer
    obtain ⟨part, hpart, hserializer⟩ := Model.exists_of_mem_serializerImports hserializer
    exact h.serializes ((h.reached_of_mem hmodel).of_mem_occurrences hpart) hserializer
  endpoint := by
    intro endpoint hendpoint
    obtain ⟨view, hview, himports, hserializers⟩ := api.exists_endpointView endpoint
    refine ⟨view, hview, ?_, ?_, ?_⟩
    · intro method hmethod root hroot name hrefers
      have hscalar := h.isScalar (reached_of_root hendpoint hmethod hroot)
      have hname := (Model.refers_iff hscalar).mp hrefers
      have hdepends := (Model.mem_dependsOn hscalar).mpr hname
      exact (himports name).mpr ⟨method, hmethod, root, hroot, hdepends⟩
    · intro name hname
      obtain ⟨method, hmethod, root, hroot, hname⟩ := (himports name).mp hname
      have hreached := reached_of_root hendpoint hmethod hroot
      exact h.declares hreached ((Model.mem_dependsOn (h.isScalar hreached)).mp hname)
    · intro serializer hserializer
      obtain ⟨method, hmethod, root, hroot, hserializer⟩ := hserializers serializer hserializer
      exact h.serializes ((reached_of_root hendpoint hmethod hroot).of_mem_occurrences
        root.element_mem_occurrences) hserializer

end Document.Describes

/-- The modules that are generated for a document import what they mention, and the models and
serializers that they import have files. -/
theorem Document.imports_closed (doc : Document) {api : Api} (h : doc.toApi.outcome.1 = .ok api) :
    api.Closed ∧ ∀ templates files, api.renderFiles templates = .ok files →
      (∀ name, api.Declares name → ∃ file ∈ files, file.path = "domain/" ++ name ++ ".ts") ∧
      ∀ serializer, api.Serializes serializer →
        ∃ file ∈ files, file.path = "serializers/" ++ serializer ++ ".ts" := by
  have hdescribes := doc.ensures_toApi.ok h
  constructor
  · exact hdescribes.closed
  · intro templates files hfiles
    exact Api.paths_of_renderFiles hfiles

/-- A tree in which a node holds a list of nodes. -/
def listTree : Json :=
  .object [
    ("node", .object [("type", .string "object"),
      ("properties", .object [("rest", .object [("$ref", .string "#/list")])])]),
    ("list", .object [("type", .string "array"), ("items", .object [("$ref", .string "#/node")])])]

def listDocument : Document :=
  .of ⟨"3.0.0", ⟨"", none, ""⟩, [("/", ⟨none, none, [], [(.get, ⟨some "read", none, none, ["all"],
    [], none, [("200", .inline ⟨"", [("application/json", ⟨some (.ref "#/list"), none⟩)]⟩)],
    none⟩)]⟩)], none, [⟨"all", none⟩]⟩ listTree

/-- A node, whose list is that inside of which it stands. -/
def listedNode : Model :=
  ⟨some "Node", none, .object [⟨"rest", false, none, ⟨some "List", none, .pending "#/list"⟩⟩]⟩

def listApi : Api where
  info := ⟨"", none, ""⟩
  endpoints := [⟨.ofText "all", none, [0]⟩]
  methods := [⟨some (.ofText "read"), .get, "/", none, none, ["all"], [], [], [],
    [⟨"application/json", "Json", some ⟨some "List", none, .array listedNode⟩⟩], false⟩]
  models := [⟨some "List", none, .array listedNode⟩, listedNode]

theorem Document.outcome_listDocument : listDocument.toApi.outcome.1 = .ok listApi := by
  have hsorted : sortByName Model.name listApi.models = listApi.models :=
    List.mergeSort_of_pairwise (by decide +kernel)
  have hunsorted : listDocument.toApi.outcome.1 =
      .ok { listApi with models := sortByName Model.name listApi.models } := by
    with_unfolding_all rfl
  rw [hunsorted, hsorted]

/-- The module of a list is closed under imports, and the module of a node is generated. -/
theorem Document.imports_closed_on_lists :
    listDocument.toApi.outcome.1 = .ok listApi ∧ listApi.Closed ∧
    ∃ files, listApi.renderFiles .builtin = .ok files ∧
      ∃ file ∈ files, file.path = "domain/Node.ts" := by
  have hok := outcome_listDocument
  obtain ⟨hclosed, hfiles⟩ := listDocument.imports_closed hok
  obtain ⟨files, hrun⟩ := Except.exists_of_isOk
    (show (listApi.renderFiles .builtin).isOk = true by decide +kernel)
  exact ⟨hok, hclosed, files, hrun,
    (hfiles .builtin files hrun).1 "Node" ⟨listedNode, by simp [listApi], rfl⟩⟩

end OpenApiClient
