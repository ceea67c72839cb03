import OpenApiClient.Client.Files
import OpenApiClient.Proofs.Results

/-!
# Paths of generated files

The paths of the files of a client do not depend on the templates (`Api.paths`).  A file lies in
one of three directories or beside them (`pathIn`).
-/

namespace OpenApiClient

def pathIn (directory name : String) : String := directory ++ name ++ ".ts"

theorem pathIn_injective (directory : String) : Function.Injective (pathIn directory) := by
  intro name name' h
  rwa [pathIn, pathIn, String.append_left_inj, String.append_right_inj] at h

def Model.paths (model : Model) : List String :=
  pathIn "domain/" model.typeName :: model.serializer?.toList.map (pathIn "serializers/")

def Endpoint.path (endpoint : Endpoint) : String := pathIn "endpoints/" endpoint.fileName

def Api.paths (api : Api) : List String :=
  api.models.flatMap Model.paths ++ api.endpoints.map Endpoint.path ++
    ["domain/", "serializers/", "endpoints/"].map (pathIn · "index") ++
    ["Client", "index"].map (pathIn "")

variable {templates : Templates}

theorem path_of_file {kind : TemplateKind} {path : String} {value : Json} {file : GeneratedFile}
    (h : templates.file kind path value = .ok file) : file.path = path := by
  obtain ⟨text, -, h⟩ := Except.bind_eq_ok.mp h
  obtain rfl := Except.ok.inj h
  rfl

theorem map_path_modelFiles {model : Model} {files : List GeneratedFile}
    (h : templates.modelFiles model = .ok files) : files.map GeneratedFile.path = model.paths := by
  obtain ⟨declared, hdeclared, h⟩ := Except.bind_eq_ok.mp h
  have hpath := path_of_file hdeclared
  unfold Model.paths
  cases hserializer : model.serializer? with
  | none =>
      rw [hserializer] at h
      obtain rfl := Except.ok.inj h
      simp [hpath, pathIn]
  | some name =>
      rw [hserializer] at h
      obtain ⟨serialized, hserialized, h⟩ := Except.bind_eq_ok.mp h
      obtain rfl := Except.ok.inj h
      simp [hpath, path_of_file hserialized, pathIn]

namespace Api

variable {api : Api} {files : List GeneratedFile}

theorem path_endpointFile {endpoint : Endpoint} {file : GeneratedFile}
    (h : api.endpointFile templates endpoint = .ok file) : file.path = endpoint.path := by
  obtain ⟨view, -, h⟩ := Except.bind_eq_ok.mp h
  exact path_of_file h

theorem map_path_directoryIndexes (h : api.directoryIndexes templates = .ok files) :
    files.map GeneratedFile.path =
      ["domain/", "serializers/", "endpoints/"].map (pathIn · "index") := by
  obtain ⟨models, hmodels, h⟩ := Except.bind_eq_ok.mp h
  obtain ⟨serializers, hserializers, h⟩ := Except.bind_eq_ok.mp h
  obtain ⟨endpoints, hendpoints, h⟩ := Except.bind_eq_ok.mp h
  obtain rfl := Except.ok.inj h
  simp [path_of_file hmodels, path_of_file hserializers, path_of_file hendpoints, pathIn]

theorem paths_subset {model : Model} (h : model ∈ api.models) : model.paths ⊆ api.paths := by
  intro path hpath
  simp only [paths, List.mem_append, List.mem_flatMap]
  exact Or.inl (Or.inl (Or.inl ⟨model, h, hpath⟩))

/-- What a client is made of if all of it is rendered. -/
theorem exists_of_renderFiles (h : api.renderFiles templates = .ok files) :
    ∃ models endpoints indexes client root,
      api.models.mapM templates.modelFiles = .ok models ∧
      api.endpoints.mapM (api.endpointFile templates) = .ok endpoints ∧
      api.directoryIndexes templates = .ok indexes ∧
      templates.file .client "Client.ts" api.clientView.toJson = .ok client ∧
      templates.indexFile "index.ts" rootExports = .ok root ∧
      files = models.flatten ++ endpoints ++ indexes ++ [client, root] := by
  obtain ⟨models, hmodels, h⟩ := Except.bind_eq_ok.mp h
  obtain ⟨endpoints, hendpoints, h⟩ := Except.bind_eq_ok.mp h
  obtain ⟨indexes, hindexes, h⟩ := Except.bind_eq_ok.mp h
  obtain ⟨client, hclient, h⟩ := Except.bind_eq_ok.mp h
  obtain ⟨root, hroot, h⟩ := Except.bind_eq_ok.mp h
  exact ⟨models, endpoints, indexes, client, root, hmodels, hendpoints, hindexes, hclient, hroot,
    (Except.ok.inj h).symm⟩

/-- The files of a client have the paths of its models, endpoints and indexes. -/
theorem map_path_renderFiles (h : api.renderFiles templates = .ok files) :
    files.map GeneratedFile.path = api.paths := by
  obtain ⟨models, endpoints, indexes, client, root, hmodels, hendpoints, hindexes, hclient, hroot,
    rfl⟩ := exists_of_renderFiles h
  have hmodelPaths : models.flatten.map GeneratedFile.path = api.models.flatMap Model.paths := by
    rw [List.map_flatten, List.flatMap_def]
    exact congrArg List.flatten
      (Except.map_eq_of_mapM_eq_ok hmodels fun _ _ h => map_path_modelFiles h)
  have hendpointPaths : endpoints.map GeneratedFile.path = api.endpoints.map Endpoint.path :=
    Except.map_eq_of_mapM_eq_ok hendpoints fun _ _ h => path_endpointFile h
  simp only [List.map_append, hmodelPaths, hendpointPaths, map_path_directoryIndexes hindexes,
    List.map_cons, List.map_nil, path_of_file hclient, path_of_file hroot]
  rfl

/-- The files of the listed models are among the files of a client. -/
theorem modelFiles_subset {model : Model} {rendered : List GeneratedFile}
    (h : api.renderFiles templates = .ok files) (hmodel : model ∈ api.models)
    (hrendered : templates.modelFiles model = .ok rendered) : rendered ⊆ files := by
  obtain ⟨models, endpoints, indexes, client, root, hmodels, -, -, -, -, rfl⟩ :=
    exists_of_renderFiles h
  obtain ⟨listed, hlisted, hok⟩ := exists_right_of_forall₂ (Except.mapM_eq_ok.mp hmodels) hmodel
  obtain rfl := Except.ok.inj (hrendered.symm.trans hok)
  intro file hfile
  simp only [List.mem_append, List.mem_flatten]
  exact Or.inl (Or.inl (Or.inl ⟨rendered, hlisted, hfile⟩))

/-- The files of the endpoints are among the files of a client. -/
theorem endpointFile_mem {endpoint : Endpoint} {file : GeneratedFile}
    (h : api.renderFiles templates = .ok files) (hendpoint : endpoint ∈ api.endpoints)
    (hfile : api.endpointFile templates endpoint = .ok file) : file ∈ files := by
  obtain ⟨models, endpoints, indexes, client, root, -, hendpoints, -, -, -, rfl⟩ :=
    exists_of_renderFiles h
  obtain ⟨listed, hlisted, hok⟩ :=
    exists_right_of_forall₂ (Except.mapM_eq_ok.mp hendpoints) hendpoint
  obtain rfl := Except.ok.inj (hfile.symm.trans hok)
  simp [hlisted]

theorem clientFile_mem {file : GeneratedFile} (h : api.renderFiles templates = .ok files)
    (hfile : templates.file .client "Client.ts" api.clientView.toJson = .ok file) :
    file ∈ files := by
  obtain ⟨models, endpoints, indexes, client, root, -, -, -, hclient, -, rfl⟩ :=
    exists_of_renderFiles h
  obtain rfl := Except.ok.inj (hfile.symm.trans hclient)
  simp

end Api
end OpenApiClient
