import OpenApiClient.Command.Usage

/-!
# Commands

What the command line can ask for (`Command`), and how the arguments say it (`Command.ofArguments`).
-/

namespace OpenApiClient

inductive SummaryFormat where
  | yaml
  | json
  deriving DecidableEq, Repr

inductive Command where
  /-- Generates a client. -/
  | generate (input output : Option String) (clear : Bool) (templates : Option String)
  | validate (input : String)
  /-- Prints a summary of a document. -/
  | inspect (input : String) (format : SummaryFormat)
  /-- Writes a configuration file. -/
  | init (force : Bool)
  /-- Asks for completions for a shell; there are none. -/
  | completions (shell : String)
  deriving DecidableEq, Repr

namespace Command

def inputOption : OptionSpec := ⟨"input", some 'i', true, []⟩

def generateSpec : CommandSpec where
  options := [inputOption, ⟨"output", some 'o', true, []⟩, ⟨"clear", some 'c', false, []⟩,
    ⟨"templates", some 't', true, []⟩]
  operand := none

def validateSpec : CommandSpec := ⟨[inputOption], none⟩

def inspectSpec : CommandSpec := ⟨[inputOption, ⟨"format", none, true, ["yaml", "json"]⟩], none⟩

def initSpec : CommandSpec := ⟨[⟨"force", none, false, []⟩], none⟩

def completionsSpec : CommandSpec :=
  ⟨[], some ⟨"shell", none, true, ["bash", "elvish", "fish", "powershell", "zsh"]⟩⟩

def names : List String := ["generate", "validate", "inspect", "init", "completions", "help"]

def required (given : Given) (name : String) : Except Usage String :=
  match List.lookup name given with
  | some value => .ok value
  | none => .error .missingArgument

def ofName (name : String) (texts : List String) : Except Usage Command := do
  if name = "generate" then
    let given ← readOptions generateSpec texts
    return .generate (List.lookup "input" given) (List.lookup "output" given)
      (List.lookup "clear" given).isSome (List.lookup "templates" given)
  else if name = "validate" then
    let given ← readOptions validateSpec texts
    return .validate (← required given "input")
  else if name = "inspect" then
    let given ← readOptions inspectSpec texts
    let input ← required given "input"
    return .inspect input (if List.lookup "format" given = some "json" then .json else .yaml)
  else if name = "init" then
    let given ← readOptions initSpec texts
    return .init (List.lookup "force" given).isSome
  else if name = "completions" then
    let given ← readOptions completionsSpec texts
    return .completions (← required given "shell")
  else throw .unknownCommand

def helpFor : List String → Usage
  | [] => .help
  | [name] => if names.contains name then .help else .unknownCommand
  | _ => .unknownCommand

def shortUsage : Char → Usage
  | 'h' => .help
  | 'V' => .version
  | _ => .unknownArgument

def dashedUsage (text : List Char) : Usage :=
  let name := text.takeWhile (· != '=')
  if name = "help".toList ∨ name = "version".toList then
    if name.length < text.length then .excessValue
    else if name = "help".toList then .help
    else .version
  else .unknownArgument

def ofArguments : List String → Except Usage Command
  | [] => .error .nothingGiven
  | text :: texts =>
    match text.toList with
    | ['-', '-'] =>
      match texts with
      | [] => .error .nothingGiven
      | text :: _ => .error (if names.contains text then .unknownArgument else .unknownCommand)
    | '-' :: '-' :: rest => .error (dashedUsage rest)
    | '-' :: letter :: _ => .error (shortUsage letter)
    | _ => if text = "help" then .error (helpFor texts) else ofName text texts

end Command
end OpenApiClient
