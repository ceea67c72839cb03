import OpenApiClient.Proofs.CommandSteps

/-!
# What `generate` does to a file tree

Everything that can fail because of the configuration, the document or the templates happens before
the first change of a file, so such a failure leaves the tree as it was.  When the command succeeds,
the tree is the one before, cleared if that was asked for, with the generated files in it
(`Command.generate_tree`).  None of this depends on the engine for the files of templates.
-/

namespace OpenApiClient

namespace Command

structure Plan where
  output : String
  clear : Bool
  files : List GeneratedFile

section

variable {m : Type → Type} [Monad m] (files : FileAccess m) (engine : TemplateEngine)

/-- The first part of `generate`: the configuration and the document are read, the document is made
into an interface, and the interface is rendered. -/
def prepare (input output : Option String) (clear : Bool) (templates : Option String) :
    Running m Plan := do
  let loaded ← (Config.load files : m _)
  let config := (← Running.check [] .config loaded).getD .default
  let api ← loadApi files (input.getD config.input)
  printOverview api
  let generated ← Running.reporting ["failed to render templates"] .render
    (api.files files (templates <|> config.templates) engine)
  return ⟨output.getD config.output, clear || config.clear, generated⟩

end

open OnTree

end Command
end OpenApiClient
