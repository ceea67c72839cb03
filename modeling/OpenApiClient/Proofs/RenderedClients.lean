import OpenApiClient.Proofs.GeneratedTrees
import OpenApiClient.Proofs.RenderedTemplates

/-!
# Clients are always rendered

Without a directory of templates, rendering cannot fail, whatever the interface is.  So a document
that `validate` accepts is one that `generate` renders (`Command.client_rendered`).
-/

namespace OpenApiClient

namespace Api

/-- Rendering with the built-in templates succeeds, and reports the number of files. -/
theorem exists_files_eq (api : Api) {m : Type → Type} [Monad m] [LawfulMonad m]
    (access : FileAccess m) (engine : TemplateEngine) (notices : List Notice) :
    ∃ files, api.renderFiles .builtin = .ok files ∧
      (ExceptT.run (api.files access none engine)).run notices =
        pure (.ok files, notices ++ [.rendered files.length]) := by
  obtain ⟨files, hfiles⟩ := api.exists_renderFiles
  refine ⟨files, hfiles, ?_⟩
  have hload : Templates.load engine access none =
      (pure .builtin : ReportingT RenderError m Templates) := rfl
  have hrender : (ExceptT.mk (pure (api.renderFiles .builtin)) : ReportingT RenderError m _) =
      pure files := by
    rw [hfiles]
    rfl
  have hreport (notice : Notice) : (modify (· ++ [notice]) : ReportingT RenderError m Unit) =
      ExceptT.lift (modify (· ++ [notice])) := rfl
  unfold Api.files
  rw [hload, pure_bind, hrender, pure_bind, hreport]
  simp [Except.map]

end Api

open OnTree

namespace Running

variable {ε α β : Type} {tree tree' : FileTree} {transcript transcript' : Transcript}

/-- Printing a line changes none of the notices. -/
theorem of_note_bind {line : String} {f : Unit → Running (StateM FileTree) β} {b : β}
    (h : OnTree.result (note line >>= f) transcript tree = ((.ok b, transcript'), tree')) :
    ∃ printed, printed.notices = transcript.notices ∧
      OnTree.result (f ()) printed tree = ((.ok b, transcript'), tree') :=
  ⟨{ transcript with stderr := transcript.stderr ++ line ++ "\n" }, rfl, h⟩

theorem of_reporting_eq_ok {contexts : List String} {wrap : ε → FailureCause}
    {step : Reporting ε α} {a : α}
    (h : OnTree.result (reporting contexts wrap (Reporting.lift id step)) transcript tree =
      ((.ok a, transcript'), tree')) :
    ((ExceptT.run step).run transcript.notices).1 = .ok a := by
  have hresult := congrArg (fun run => run.1.1) h
  change Except.mapError _ (Except.mapError id _) = _ at hresult
  rwa [Except.mapError_eq_ok, Except.mapError_eq_ok] at hresult

end Running

namespace Command

variable {tree tree' : FileTree} {transcript transcript' : Transcript} {path : String}

/-- Loading a document depends on the file only. -/
theorem loadDocument_eq_ok {doc : Document}
    (h : OnTree.result (loadDocument FileTree.access path) transcript tree =
      ((.ok doc, transcript'), tree')) :
    transcript' = transcript ∧ ∀ other,
      OnTree.result (loadDocument FileTree.access path) other tree = ((.ok doc, other), tree) := by
  obtain ⟨text, middle, between, hread, hcheck⟩ := of_result_bind_eq_ok h
  obtain ⟨hdoc, rfl, rfl⟩ := Running.of_check_eq_ok hcheck
  obtain ⟨htext, rfl⟩ := Running.of_onFiles_eq_ok hread
  obtain rfl : tree' = tree := by
    have hreads := onlyReads_readText path tree
    rwa [htext] at hreads
  refine ⟨rfl, fun other => ?_⟩
  refine (result_bind_of_ok (Running.onFiles_eq_ok htext other)).trans ?_
  rw [hdoc]
  rfl

/-- A document that is found valid describes an interface. -/
theorem exists_of_validate
    (h : OnTree.result (runValidate FileTree.access path) .empty tree =
      ((.ok (), transcript), tree')) :
    ∃ doc api, (∀ other, OnTree.result (loadDocument FileTree.access path) other tree =
      ((.ok doc, other), tree)) ∧ doc.toApi.outcome.1 = .ok api := by
  obtain ⟨doc, loaded, between, hload, h⟩ := of_result_bind_eq_ok h
  obtain ⟨rfl, hdoc⟩ := loadDocument_eq_ok hload
  obtain ⟨first, hfirst, h⟩ := Running.of_note_bind h
  obtain ⟨second, hsecond, h⟩ := Running.of_note_bind h
  obtain ⟨third, hthird, h⟩ := Running.of_note_bind h
  have hnotices : third.notices = [] := hthird.trans (hsecond.trans hfirst)
  refine ⟨doc, ?_⟩
  cases hcomponents : doc.spec.components with
  | some components =>
      simp only [hcomponents] at h
      obtain ⟨fourth, hfourth, h⟩ := Running.of_note_bind h
      obtain ⟨api, _, _, happly, -⟩ := of_result_bind_eq_ok h
      have hok := Running.of_reporting_eq_ok happly
      rw [hfourth, hnotices] at hok
      exact ⟨api, hdoc, hok⟩
  | none =>
      simp only [hcomponents] at h
      obtain ⟨api, _, _, happly, -⟩ := of_result_bind_eq_ok h
      have hok := Running.of_reporting_eq_ok happly
      rw [hnotices] at hok
      exact ⟨api, hdoc, hok⟩

/-- With settings that name no other templates, all of what `generate` does before it writes
succeeds for a document that is found valid. -/
theorem prepare_eq_ok {config : Option Config} (engine : TemplateEngine)
    (output : Option String) (clear : Bool)
    (hvalid : OnTree.result (runValidate FileTree.access path) .empty tree =
      ((.ok (), transcript), tree'))
    (hconfig : ((Config.load FileTree.access).run tree).1 = .ok config)
    (htemplates : (config.getD .default).templates = none) :
    ∃ (api : Api) (plan : Plan) (prepared : Transcript),
      OnTree.result (prepare FileTree.access engine (some path) output clear none) .empty tree =
        ((.ok plan, prepared), tree) ∧ api.renderFiles .builtin = .ok plan.files := by
  obtain ⟨doc, api, hdoc, hapi⟩ := exists_of_validate hvalid
  have hloaded := result_lift (ε := Failure) (Config.load FileTree.access) Transcript.empty tree
  rw [hconfig, onlyReads_loadConfig tree] at hloaded
  have hlift : (ExceptT.run (Reporting.lift id doc.toApi : ReportingT _ (StateM FileTree) Api)).run
      [] = pure (.ok api, doc.toApi.outcome.2) :=
    congrArg (fun result => pure (Except.mapError id result, doc.toApi.outcome.2)) hapi
  obtain ⟨transformed, htransformed⟩ : ∃ transcript, OnTree.result (loadApi FileTree.access path)
      .empty tree = ((.ok api, transcript), tree) :=
    ⟨_, (result_bind_of_ok (hdoc .empty)).trans (Running.reporting_eq_ok hlift)⟩
  obtain ⟨_, overview, hoverview⟩ := succeeds_printOverview api transformed tree
  obtain ⟨files, hfiles, hrun⟩ := api.exists_files_eq FileTree.access engine overview.notices
  let plan : Plan := ⟨output.getD (config.getD .default).output,
    clear || (config.getD .default).clear, files⟩
  refine ⟨api, plan, { overview with notices := overview.notices ++ [.rendered files.length] }, ?_,
    hfiles⟩
  unfold prepare
  rw [result_bind_of_ok hloaded, Running.check, pure_bind]
  simp only [htemplates, Option.getD_some]
  rw [result_bind_of_ok htransformed, result_bind_of_ok hoverview]
  exact result_bind_of_ok (Running.reporting_eq_ok hrun)

/-- The built-in templates are rendered for every interface.  So a document that is found valid can
be rendered, with whatever settings name no other templates. -/
theorem client_rendered :
    (∀ (api : Api) (m : Type → Type) [Monad m] [LawfulMonad m] (access : FileAccess m)
      (engine : TemplateEngine) (notices : List Notice),
      ∃ files, api.renderFiles .builtin = .ok files ∧
        (ExceptT.run (api.files access none engine)).run notices =
          pure (.ok files, notices ++ [.rendered files.length])) ∧
    ∀ (engine : TemplateEngine) (tree tree' : FileTree) (path : String) (transcript : Transcript),
      ((Command.validate path).outcome FileTree.access engine).run tree =
        ((.ok (), transcript), tree') →
      ∀ (config : Option Config) (output : Option String) (clear : Bool),
        ((Config.load FileTree.access).run tree).1 = .ok config →
        (config.getD .default).templates = none →
        ∃ (api : Api) (plan : Plan) (prepared : Transcript),
          OnTree.result (prepare FileTree.access engine (some path) output clear none) .empty tree =
            ((.ok plan, prepared), tree) ∧ api.renderFiles .builtin = .ok plan.files := by
  refine ⟨fun api m _ _ access engine notices => api.exists_files_eq access engine notices, ?_⟩
  intro engine tree tree' path transcript hvalid config output clear hconfig htemplates
  exact prepare_eq_ok engine output clear hvalid hconfig htemplates

theorem loadConfig_of_missing (h : tree.exists? Config.fileName = false) :
    (Config.load FileTree.access).run tree = (.ok none, tree) := by
  have hexists : (FileTree.access.exists? Config.fileName).run tree = (false, tree) :=
    congrArg (fun there => (there, tree)) h
  unfold Config.load
  rw [StateT.run_bind, hexists]
  rfl

/-- A tree with a document that describes one method. -/
def validTree : FileTree :=
  .directory [("api.json", .file ("\x7b\"openapi\":\"3.0.0\"," ++
    "\"info\":\x7b\"title\":\"\",\"version\":\"\"\x7d,\"tags\":[\x7b\"name\":\"pets\"\x7d]," ++
    "\"paths\":\x7b\"/pets\":\x7b\"get\":\x7b\"operationId\":\"listPets\",\"tags\":[\"pets\"]," ++
    "\"responses\":\x7b\x7d\x7d\x7d\x7d\x7d").toUTF8)]

theorem client_rendered_validTree : ∃ (transcript : Transcript) (tree' : FileTree) (api : Api)
    (plan : Plan) (prepared : Transcript) (files : List GeneratedFile),
    ((Command.validate "api.json").outcome FileTree.access).run validTree =
      ((.ok (), transcript), tree') ∧
    OnTree.result (prepare FileTree.access .core (some "api.json") none false none) .empty
        validTree =
      ((.ok plan, prepared), validTree) ∧
    api.renderFiles .builtin = .ok plan.files ∧
    (ExceptT.run (api.files FileTree.access none)).run [] =
      pure (.ok files, [.rendered files.length]) := by
  have hok : (((Command.validate "api.json").outcome FileTree.access).run validTree).1.1.isOk =
      true := by decide +kernel
  have hconfig : ((Config.load FileTree.access).run validTree).1 = .ok none :=
    congrArg Prod.fst (loadConfig_of_missing (by decide +kernel))
  rcases hvalid : ((Command.validate "api.json").outcome FileTree.access).run validTree with
    ⟨⟨_ | ⟨⟩, transcript⟩, tree'⟩
  · rw [hvalid] at hok
    cases hok
  · obtain ⟨api, plan, prepared, hprepare, hfiles⟩ := client_rendered.2 .core validTree tree'
      "api.json" transcript hvalid none none false hconfig rfl
    obtain ⟨files, -, hrun⟩ := client_rendered.1 api (StateM FileTree) FileTree.access .core []
    exact ⟨transcript, tree', api, plan, prepared, files, rfl, hprepare, hfiles, hrun⟩

end Command
end OpenApiClient
