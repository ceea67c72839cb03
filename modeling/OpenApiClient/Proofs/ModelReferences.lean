import OpenApiClient.Proofs.ModelTree
import OpenApiClient.Proofs.Results
import OpenApiClient.View.Endpoint

/-!
# References between models

Which names the type expressions of generated code contain (`Model.Refers`, `Model.Mentions`),
which of them a view imports, and which serializers it imports.
-/

namespace OpenApiClient

theorem mem_insertNew {α : Type} [DecidableEq α] {items : List α} {item a : α} :
    a ∈ insertNew items item ↔ a ∈ items ∨ a = item := by
  unfold insertNew
  split
  next h =>
    refine ⟨Or.inl, ?_⟩
    rintro (hmem | rfl)
    · exact hmem
    · exact h
  next => simp

@[simp] theorem mem_distinct {α : Type} [DecidableEq α] {items : List α} {a : α} :
    a ∈ distinct items ↔ a ∈ items := by
  have hfold : ∀ found : List α, a ∈ items.foldl insertNew found ↔ a ∈ found ∨ a ∈ items := by
    induction items with
    | nil => simp
    | cons item items ih =>
        intro found
        rw [List.foldl_cons, ih, mem_insertNew, List.mem_cons, or_assoc]
  exact (hfold []).trans (by simp)

theorem foldl_insertNew_append {α : Type} [DecidableEq α] (found extra items : List α) :
    items.foldl insertNew (found ++ extra) =
      found ++ (items.filter (· ∉ found)).foldl insertNew extra := by
  induction items generalizing extra with
  | nil => rfl
  | cons item items ih =>
      by_cases hfound : item ∈ found
      · have hkept : insertNew (found ++ extra) item = found ++ extra :=
          if_pos (List.mem_append_left _ hfound)
        rw [List.foldl_cons, hkept, ih, List.filter_cons_of_neg (by simpa using hfound)]
      · have hnext : insertNew (found ++ extra) item = found ++ insertNew extra item := by
          simp only [insertNew, List.mem_append, hfound, false_or]
          split
          · rfl
          · exact List.append_assoc ..
        rw [List.foldl_cons, hnext, ih, List.filter_cons_of_pos (by simpa using hfound),
          List.foldl_cons]

theorem distinct_cons {α : Type} [DecidableEq α] (item : α) (items : List α) :
    distinct (item :: items) = item :: distinct (items.filter (· ≠ item)) := by
  have hfold := foldl_insertNew_append [item] [] items
  simpa [distinct, insertNew] using hfold

theorem nodup_distinct {α : Type} [DecidableEq α] (items : List α) : (distinct items).Nodup := by
  refine List.foldlRecOn items insertNew List.nodup_nil fun found hfound item _ => ?_
  unfold insertNew
  split
  next => exact hfound
  next hnew =>
    refine List.nodup_append.mpr ⟨hfound, by simp, ?_⟩
    rintro a ha b hb rfl
    exact hnew (List.mem_singleton.mp hb ▸ ha)

namespace Model

/-- The type expression for a model contains a name: its own, or if it has none, one that the type
expressions for its children contain. -/
inductive Refers : Model → String → Prop
  | named {model : Model} {name : String} : model.name = some name → Refers model name
  | through {model child : Model} {name : String} :
    model.name = none → child ∈ model.children → Refers child name → Refers model name

def Mentions (model : Model) (name : String) : Prop := ∃ child ∈ model.children, child.Refers name

variable {model : Model} {name : String}

theorem refers_iff (h : model.name = none → model.isScalar = true) :
    model.Refers name ↔ model.name = some name := by
  constructor
  · intro hrefers
    cases hrefers with
    | named hname => exact hname
    | through hname hchild _ =>
        rw [children_eq_nil_of_isScalar (h hname)] at hchild
        exact absurd hchild List.not_mem_nil
  · exact .named

theorem mem_dependsOn (h : model.name = none → model.isScalar = true) :
    name ∈ model.reference.dependsOn ↔ model.name = some name := by
  unfold reference
  cases hname : model.name with
  | some own => simp [eq_comm]
  | none => simp [dependencies, children_eq_nil_of_isScalar (h hname)]

theorem mem_referenced {child : Model} : child ∈ model.referenced ↔ child ∈ model.children := by
  simp only [referenced, children, List.mem_append]
  exact or_comm

theorem serializer?_eq (model : Model) :
    model.serializer? = if model.isScalar then none else model.name.map serializerOf := by
  obtain ⟨_, _, kind⟩ := model
  cases kind <;> rfl

theorem serializer?_eq_some {serializer : String} : model.serializer? = some serializer ↔
    model.isScalar = false ∧ ∃ name, model.name = some name ∧ serializerOf name = serializer := by
  rw [serializer?_eq]
  cases model.isScalar <;> simp

theorem element_mem_occurrences (model : Model) : model.element ∈ model.occurrences := by
  obtain ⟨_, _, kind⟩ := model
  cases kind with
  | array item => exact child_mem_occurrences (List.mem_singleton_self item)
  | _ => exact self_mem_occurrences _

/-- What a view imports are the names of its children, except its own. -/
theorem mem_imports (h : ∀ child ∈ model.children, child.name = none → child.isScalar = true) :
    name ∈ model.view.imports ↔
      (∃ child ∈ model.children, child.name = some name) ∧ name ≠ model.typeName := by
  change name ∈ model.imports ↔ _
  rw [imports, mem_distinct, List.mem_filter, List.mem_flatMap]
  simp only [mem_referenced, bne_iff_ne]
  refine and_congr_left fun _ => exists_congr fun child => and_congr_right fun hchild => ?_
  exact mem_dependsOn (h child hchild)

theorem exists_of_mem_serializerImports {serializer : String}
    (h : serializer ∈ model.view.serializerImports) :
    ∃ part ∈ model.occurrences, part.serializer? = some serializer := by
  change serializer ∈ model.serializerImports at h
  rw [serializerImports, mem_distinct, List.mem_filter, List.mem_filterMap] at h
  obtain ⟨⟨child, hchild, hserializer⟩, -⟩ := h
  exact ⟨child.element, occurrences_trans child.element_mem_occurrences
    (child_mem_occurrences (mem_referenced.mp hchild)), hserializer⟩

theorem typeName_of_name (h : model.name = some name) : model.typeName = name := by
  obtain ⟨_, _, _⟩ := model
  obtain rfl : _ = some name := h
  rw [typeName]

end Model

theorem Method.mem_mentioned {method : Method} {model : Model} :
    model ∈ method.mentioned ↔ model ∈ method.rootModels := by
  simp only [mentioned, rootModels, List.filterMap_append, List.mem_append]
  tauto

namespace Method

variable {method : Method}

/-- The only body has a view, and it is the view of one of the bodies. -/
theorem exists_bodyView (method : Method) : ∃ body, method.bodyView = .ok body ∧
    ∀ view ∈ body, view ∈ method.bodies.map MediaVariant.view := by
  unfold bodyView body onlyVariant
  match method.bodies with
  | [] => exact ⟨none, rfl, by simp⟩
  | [variant] => exact ⟨some variant.view, rfl, by simp⟩
  | _ :: _ :: _ => exact ⟨none, by simp, by simp⟩

theorem exists_hasBinaryResponse (method : Method) :
    ∃ isBinary, method.hasBinaryResponse = .ok isBinary := by
  unfold hasBinaryResponse response onlyVariant
  match method.returns with
  | [] => exact ⟨false, rfl⟩
  | [variant] => exact ⟨variant.isBinary, rfl⟩
  | _ :: _ :: _ => exact ⟨false, by simp⟩

/-- Every method has a view, and the serializers in it are those of its bodies. -/
theorem exists_view (method : Method) : ∃ view, method.view = .ok view ∧
    ∀ serializer ∈ view.bodySerializers, ∃ root ∈ method.rootModels,
      root.reference.serializer = some serializer := by
  obtain ⟨body, hbody, hview⟩ := method.exists_bodyView
  obtain ⟨isBinary, hisBinary⟩ := method.exists_hasBinaryResponse
  refine ⟨_, by rw [view, hbody, hisBinary]; rfl, fun serializer hserializer => ?_⟩
  obtain ⟨variant, hvariant, hserializer⟩ := List.mem_filterMap.mp hserializer
  have hmem : variant ∈ method.bodies.map MediaVariant.view := by
    rcases List.mem_append.mp hvariant with hvariant | hvariant
    · exact hview variant (Option.mem_toList.mp hvariant)
    · exact hvariant
  obtain ⟨source, hsource, rfl⟩ := List.mem_map.mp hmem
  obtain ⟨root, hroot, hserializer⟩ := Option.bind_eq_some_iff.mp hserializer
  refine ⟨root, ?_, hserializer⟩
  simp only [rootModels, List.mem_append, List.mem_filterMap]
  exact Or.inl ⟨source, Or.inr hsource, hroot⟩

end Method

theorem mem_methodsAt {methods : List Method} {places : List Nat} {method : Method} :
    method ∈ methodsAt methods places ↔ ∃ place ∈ places, methods[place]? = some method :=
  List.mem_filterMap

namespace Api

variable {api : Api} {endpoint : Endpoint}

/-- Every endpoint has a view.  It imports what its methods mention, and the serializers of their
bodies. -/
theorem exists_endpointView (api : Api) (endpoint : Endpoint) :
    ∃ view, api.endpointView endpoint = .ok view ∧
      (∀ name, name ∈ view.imports ↔ ∃ method ∈ api.endpointMethods endpoint,
        ∃ root ∈ method.rootModels, name ∈ root.reference.dependsOn) ∧
      ∀ serializer ∈ view.serializerImports, ∃ method ∈ api.endpointMethods endpoint,
        ∃ root ∈ method.rootModels, root.reference.serializer = some serializer := by
  obtain ⟨views, hviews⟩ :
      ∃ views, (api.endpointMethods endpoint).mapM Method.view = .ok views := by
    apply Except.exists_mapM_eq_ok
    intro method _
    obtain ⟨view, hview, -⟩ := method.exists_view
    exact ⟨view, hview⟩
  refine ⟨_, by rw [endpointView, hviews]; rfl, ?_, ?_⟩
  · intro name
    change name ∈ endpointImports (api.endpointMethods endpoint) ↔ _
    rw [endpointImports, mem_distinct, List.mem_flatMap]
    simp only [List.mem_flatMap, Method.mem_mentioned]
    constructor
    · rintro ⟨root, ⟨method, hmethod, hroot⟩, hname⟩
      exact ⟨method, hmethod, root, hroot, hname⟩
    · rintro ⟨method, hmethod, root, hroot, hname⟩
      exact ⟨root, ⟨method, hmethod, hroot⟩, hname⟩
  · intro serializer hserializer
    obtain ⟨view, hview, hserializer⟩ := List.mem_flatMap.mp (mem_distinct.mp hserializer)
    obtain ⟨method, hmethod, hok⟩ := exists_left_of_forall₂ (Except.mapM_eq_ok.mp hviews) hview
    obtain ⟨view', hview', hserializers⟩ := method.exists_view
    obtain rfl := Except.ok.inj (hok.symm.trans hview')
    exact ⟨method, hmethod, hserializers serializer hserializer⟩

end Api
end OpenApiClient
