import Mathlib.Data.List.Pairwise
import Mathlib.Data.List.Perm.Basic
import OpenApiClient.Document.Loading
import OpenApiClient.Proofs.FirstOccurrences
import OpenApiClient.Proofs.Imports

/-!
# Files with the same path

Writing the files of a client loses one exactly if two of them have the same path.  Files of
different directories never do, and in a directory it depends on the names alone
(`Api.nodup_paths_iff`).  Names of models differ as they are written, but names of serializers
and endpoints are spelled in ways in which different names become one.
-/

namespace OpenApiClient

def StartIn (letters : List Char) (paths : List String) : Prop :=
  ∀ path ∈ paths, ∃ letter ∈ letters, path.toList.head? = some letter

namespace StartIn

variable {letters letters' : List Char} {paths paths' : List String}

theorem append (h : StartIn letters paths) (h' : StartIn letters' paths') :
    StartIn (letters ++ letters') (paths ++ paths') := by
  intro path hpath
  rcases List.mem_append.mp hpath with hpath | hpath
  · obtain ⟨letter, hmem, hhead⟩ := h path hpath
    exact ⟨letter, List.mem_append_left _ hmem, hhead⟩
  · obtain ⟨letter, hmem, hhead⟩ := h' path hpath
    exact ⟨letter, List.mem_append_right _ hmem, hhead⟩

theorem disjoint (h : StartIn letters paths) (h' : StartIn letters' paths')
    (hletters : letters.Disjoint letters') : paths.Disjoint paths' := by
  intro path hpath hpath'
  obtain ⟨letter, hmem, hhead⟩ := h path hpath
  obtain ⟨letter', hmem', hhead'⟩ := h' path hpath'
  obtain rfl := Option.some.inj (hhead.symm.trans hhead')
  exact hletters hmem hmem'

theorem singleton {path : String} {letter : Char} (h : path.toList.head? = some letter) :
    StartIn [letter] [path] := by
  intro other hother
  obtain rfl := List.mem_singleton.mp hother
  exact ⟨letter, List.mem_singleton_self _, h⟩

theorem map_pathIn {directory : String} {letter : Char}
    (h : directory.toList.head? = some letter) (names : List String) :
    StartIn [letter] (names.map (pathIn directory)) := by
  intro path hpath
  obtain ⟨name, -, rfl⟩ := List.mem_map.mp hpath
  refine ⟨letter, List.mem_singleton_self _, ?_⟩
  rw [pathIn, String.toList_append, String.toList_append, List.append_assoc, List.head?_append, h,
    Option.some_or]

end StartIn

/-- Paths differ if the names in each of the three directories do, because the directories and the
files beside them start with different letters. -/
theorem nodup_directories_iff (domain serializers endpoints : List String) :
    (domain.map (pathIn "domain/") ++ (serializers.map (pathIn "serializers/") ++
      (endpoints.map (pathIn "endpoints/") ++ ["Client", "index"].map (pathIn "")))).Nodup ↔
        domain.Nodup ∧ serializers.Nodup ∧ endpoints.Nodup := by
  have hroot : StartIn ['C', 'i'] (["Client", "index"].map (pathIn "")) :=
    (StartIn.singleton rfl).append (StartIn.singleton rfl)
  have hnames : ["Client", "index"].Nodup := by simp
  have hendpoints : StartIn ['e'] (endpoints.map (pathIn "endpoints/")) := .map_pathIn rfl _
  have hserializers : StartIn ['s'] (serializers.map (pathIn "serializers/")) := .map_pathIn rfl _
  have hdomain : StartIn ['d'] (domain.map (pathIn "domain/")) := .map_pathIn rfl _
  have hrest := hendpoints.append hroot
  simp only [List.nodup_append', List.nodup_map_iff (pathIn_injective _), hnames,
    hendpoints.disjoint hroot (by simp), hserializers.disjoint hrest (by simp),
    hdomain.disjoint (hserializers.append hrest) (by simp), and_true]

namespace Api

/-- The paths of a client, directory by directory. -/
theorem perm_paths (api : Api) : api.paths.Perm
    ((api.models.map Model.typeName ++ ["index"]).map (pathIn "domain/") ++
      ((api.models.filterMap Model.serializer? ++ ["index"]).map (pathIn "serializers/") ++
      ((api.endpoints.map Endpoint.fileName ++ ["index"]).map (pathIn "endpoints/") ++
      ["Client", "index"].map (pathIn "")))) := by
  have hmodels : (api.models.flatMap Model.paths).Perm
      ((api.models.map Model.typeName).map (pathIn "domain/") ++
        (api.models.filterMap Model.serializer?).map (pathIn "serializers/")) := by
    rw [List.filterMap_eq_flatMap_toList, List.map_flatMap, List.map_map]
    exact (List.map_append_flatMap_perm api.models _ _).symm
  have hendpoints : api.endpoints.map Endpoint.path =
      (api.endpoints.map Endpoint.fileName).map (pathIn "endpoints/") := List.map_map.symm
  rw [List.perm_iff_count]
  intro path
  have hcount := hmodels.count_eq path
  simp only [paths, hendpoints, List.map_append, List.count_append, List.map_cons, List.map_nil,
    List.count_cons, List.count_nil] at hcount ⊢
  omega

theorem nodup_paths_iff (api : Api) : api.paths.Nodup ↔
    (api.models.map Model.typeName ++ ["index"]).Nodup ∧
      (api.models.filterMap Model.serializer? ++ ["index"]).Nodup ∧
        (api.endpoints.map Endpoint.fileName ++ ["index"]).Nodup := by
  rw [api.perm_paths.nodup_iff, nodup_directories_iff]

end Api

theorem nodup_append_index {names : List String} (h : "index" ∉ names) :
    (names ++ ["index"]).Nodup ↔ names.Nodup := by
  simp [List.nodup_append', h]

theorem nodup_filterMap_iff {α β : Type} {f : α → Option β} {items : List α}
    (hnodup : items.Nodup) : (items.filterMap f).Nodup ↔
      ∀ a ∈ items, ∀ b ∈ items, ∀ c, f a = some c → f b = some c → a = b := by
  unfold List.Nodup
  rw [List.pairwise_filterMap]
  constructor
  · intro h a ha b hb c hac hbc
    by_contra hne
    have hsymm : Std.Symm fun a b => ∀ c, f a = some c → ∀ d, f b = some d → c ≠ d :=
      ⟨fun _ _ h c hac d hbd => (h d hbd c hac).symm⟩
    exact h.forall ha hb hne c hac c hbc rfl
  · intro h
    apply hnodup.pairwise_of_forall_ne
    rintro a ha b hb hne c hac d hbd rfl
    exact hne (h a ha b hb c hac hbd)

theorem index_notMem_serializers (models : List Model) :
    "index" ∉ models.filterMap Model.serializer? := by
  intro hmem
  obtain ⟨model, -, hserializer⟩ := List.mem_filterMap.mp hmem
  obtain ⟨-, name, -, hspelling⟩ := Model.serializer?_eq_some.mp hserializer
  have hfirst := congrArg (fun text => text.toList.head?) hspelling
  simp [serializerOf] at hfirst

theorem index_notMem_fileNames (endpoints : List Endpoint) :
    "index" ∉ endpoints.map Endpoint.fileName := by
  intro hmem
  obtain ⟨endpoint, -, hname⟩ := List.mem_map.mp hmem
  have hlast := congrArg (fun text => text.toList.getLast?) hname
  simp [Endpoint.fileName] at hlast

namespace Document.Describes

variable {doc : Document} {api : Api} {model : Model}

theorem serializer_iff (h : doc.Describes api) (hmodel : model ∈ api.models) {serializer : String} :
    model.serializer? = some serializer ↔
      model.isScalar = false ∧ serializerOf model.typeName = serializer := by
  rw [Model.serializer?_eq_some, h.name_eq hmodel]
  simp only [Option.some.injEq, exists_eq_left']

theorem nodup_domain_iff (h : doc.Describes api) :
    (api.models.map Model.typeName ++ ["index"]).Nodup ↔
      ∀ model ∈ api.models, model.name ≠ some "index" := by
  have hname : ∀ model ∈ api.models, some model.typeName = model.name :=
    fun model hmodel => (h.name_eq hmodel).symm
  have hnames : (api.models.map Model.typeName).Nodup := by
    apply List.Nodup.of_map some
    have heq : (api.models.map Model.typeName).map some = api.models.map Model.name := by
      rw [List.map_map]
      exact List.map_congr_left hname
    exact heq ▸ nodup_names_catalogue h.catalogue
  have hindex : "index" ∉ api.models.map Model.typeName ↔
      ∀ model ∈ api.models, model.name ≠ some "index" := by
    rw [List.mem_map]
    push Not
    refine forall₂_congr fun model hmodel => ?_
    rw [← hname model hmodel, ne_eq, ne_eq, Option.some.injEq]
  rw [← hindex]
  constructor
  · intro hnodup hmem
    exact (List.nodup_append'.mp hnodup).2.2 hmem (List.mem_singleton_self _)
  · intro hmem
    exact (nodup_append_index hmem).mpr hnames

theorem nodup_serializers_iff (h : doc.Describes api) :
    (api.models.filterMap Model.serializer? ++ ["index"]).Nodup ↔
      ∀ a ∈ api.models, ∀ b ∈ api.models, a.isScalar = false → b.isScalar = false →
        Text.capitalize a.typeName = Text.capitalize b.typeName → a = b := by
  have hmodels : api.models.Nodup := (nodup_names_catalogue h.catalogue).of_map _
  rw [nodup_append_index (index_notMem_serializers _), nodup_filterMap_iff hmodels]
  refine forall₂_congr fun a ha => forall₂_congr fun b hb => ?_
  simp only [h.serializer_iff ha, h.serializer_iff hb]
  constructor
  · intro hsame hscalar hscalar' hcapital
    exact hsame _ ⟨hscalar, rfl⟩ ⟨hscalar', congrArg ("serialize" ++ ·) hcapital.symm⟩
  · rintro hsame c ⟨hscalar, rfl⟩ ⟨hscalar', heq⟩
    exact hsame hscalar hscalar' ((String.append_right_inj _).mp heq).symm

theorem nodup_endpoints_iff (h : doc.Describes api) :
    (api.endpoints.map Endpoint.fileName ++ ["index"]).Nodup ↔
      (doc.spec.tags.map fun tag => Name.pascalOf tag.name).Nodup := by
  have hnames := calc
    api.endpoints.map Endpoint.fileName =
        (api.endpoints.map Endpoint.name).map fun name => name.pascal ++ "Endpoint" := by
      rw [List.map_map]
      rfl
    _ = (doc.spec.tags.map fun tag => Name.pascalOf tag.name).map (· ++ "Endpoint") := by
      rw [h.aggregates.names, List.map_map, List.map_map]
      rfl
  rw [nodup_append_index (index_notMem_fileNames _), hnames,
    List.nodup_map_iff fun _ _ => (String.append_left_inj "Endpoint").mp]

end Document.Describes

/-- The files that are generated for a document have different paths exactly if no listed model is
called `index`, the names of models with serializers differ also after their first letters are
capitalized, and the names of the declared tags differ in Pascal case. -/
theorem Document.distinct_paths_iff (doc : Document) {api : Api}
    (h : doc.toApi.outcome.1 = .ok api) {templates : Templates} {files : List GeneratedFile}
    (hfiles : api.renderFiles templates = .ok files) :
    (files.map GeneratedFile.path).Nodup ↔
      (∀ model ∈ api.models, model.name ≠ some "index") ∧
      (∀ a ∈ api.models, ∀ b ∈ api.models, a.isScalar = false → b.isScalar = false →
        Text.capitalize a.typeName = Text.capitalize b.typeName → a = b) ∧
      (doc.spec.tags.map fun tag => Name.pascalOf tag.name).Nodup := by
  have hdescribes := doc.ensures_toApi.ok h
  rw [Api.map_path_renderFiles hfiles, Api.nodup_paths_iff, hdescribes.nodup_domain_iff,
    hdescribes.nodup_serializers_iff, hdescribes.nodup_endpoints_iff]

/-- A list and its nodes have different files. -/
theorem Document.distinct_paths_on_lists :
    listDocument.toApi.outcome.1 = .ok listApi ∧
    ∃ files, listApi.renderFiles .builtin = .ok files ∧
      (files.map GeneratedFile.path).Nodup := by
  obtain ⟨files, hfiles⟩ := Except.exists_of_isOk
    (show (listApi.renderFiles .builtin).isOk = true by decide +kernel)
  refine ⟨outcome_listDocument, files, hfiles, ?_⟩
  refine (listDocument.distinct_paths_iff outcome_listDocument hfiles).mpr ⟨?_, ?_, ?_⟩
  · decide
  · intro a ha b hb _ _ hcapital
    simp only [listApi, List.mem_cons, List.not_mem_nil, or_false] at ha hb
    rcases ha with rfl | rfl <;> rcases hb with rfl | rfl
    · rfl
    · exact absurd hcapital (by decide +kernel)
    · exact absurd hcapital (by decide +kernel)
    · rfl
  · decide +kernel

/-- A tree with one operation, called `pet`, which answers with a list of models called `Pet`. -/
def petTree : Json :=
  .object [("openapi", .string "3.0.0"),
    ("info", .object [("title", .string "Pets"), ("version", .string "1")]),
    ("paths", .object [("/pet", .object [("get", .object [("operationId", .string "pet"),
      ("tags", .array [.string "pets"]),
      ("responses", .object [("200", .object [("description", .string ""),
        ("content", .object [("application/json", .object [("schema", .object [
          ("type", .string "array"),
          ("items", .object [("$ref", .string "#/components/schemas/Pet")])])])])])])])])]),
    ("components", .object [("schemas", .object [("Pet", .object [("type", .string "object")])])]),
    ("tags", .array [.object [("name", .string "pets")]])]

def petDocument : Document :=
  .of ⟨"3.0.0", ⟨"Pets", none, "1"⟩, [("/pet", ⟨none, none, [], [(.get, ⟨some "pet", none, none,
      ["pets"], [], none, [("200", .inline ⟨"", [("application/json", ⟨some (.inline
        { Schema.empty with
          type := some (.single "array"), items := some (.ref "#/components/schemas/Pet") }),
        none⟩)]⟩)], none⟩)]⟩)],
    some ⟨[("Pet", .inline { Schema.empty with type := some (.single "object") })], [], [], []⟩,
    [⟨"pets", none⟩]⟩ petTree

def petModel : Model := ⟨some "Pet", none, .object []⟩

def petApi : Api where
  info := ⟨"Pets", none, "1"⟩
  endpoints := [⟨.ofText "pets", none, [0]⟩]
  methods := [⟨some (.ofText "pet"), .get, "/pet", none, none, ["pets"], [], [], [],
    [⟨"application/json", "Json", some ⟨some "pet", none, .array petModel⟩⟩], false⟩]
  models := [⟨some "pet", none, .array petModel⟩, petModel]

/-- The serializers of a list called `pet` and its elements, called `Pet`, have the same path. -/
theorem Document.paths_collide_on_pets :
    ofTree petTree = .ok petDocument ∧ petDocument.toApi.outcome.1 = .ok petApi ∧
    ∃ files, petApi.renderFiles .builtin = .ok files ∧
      ¬ (files.map GeneratedFile.path).Nodup := by
  have hloaded : ofTree petTree = .ok petDocument := by with_unfolding_all rfl
  have hsorted : sortByName Model.name petApi.models = petApi.models :=
    List.mergeSort_of_pairwise (by decide +kernel)
  have hunsorted : petDocument.toApi.outcome.1 =
      .ok { petApi with models := sortByName Model.name petApi.models } := by
    with_unfolding_all rfl
  obtain ⟨files, hfiles⟩ := Except.exists_of_isOk
    (show (petApi.renderFiles .builtin).isOk = true by decide +kernel)
  refine ⟨hloaded, by rw [hunsorted, hsorted], files, hfiles, ?_⟩
  rw [Api.map_path_renderFiles hfiles]
  decide +kernel

end OpenApiClient
