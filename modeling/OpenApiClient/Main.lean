import OpenApiClient.Command.Run

/-!
# The program

Runs the command that the arguments ask for on the files of the machine, prints what the command has
printed, and ends with its exit code.
-/

namespace OpenApiClient

def FileError.ofMachine : IO.Error → FileError
  | .noFileOrDirectory .. => .notFound
  | .alreadyExists _ 39 _ => .notEmpty
  | .alreadyExists .. => .alreadyExists
  | .inappropriateType _ 20 _ => .notDirectory
  | .inappropriateType _ 21 _ => .isDirectory
  | .invalidArgument _ 36 _ => .nameTooLong
  | .invalidArgument _ 22 _ => .invalidArgument
  | .resourceBusy 16 _ => .busy
  | error => .other (toString error)

def attempt {α : Type} (operation : IO α) : IO (Except FileError α) := do
  match ← operation.toBaseIO with
  | .ok value => return .ok value
  | .error error => return .error (.ofMachine error)

/-- The operations on the files of the machine.  A file is what can be read. -/
def machineFiles : FileAccess IO where
  exists? path := return (← attempt (IO.FS.realPath path)).isOk
  isFile path := return (← attempt do (← IO.FS.Handle.mk path .read).read 1).isOk
  read path := attempt (IO.FS.readBinFile path)
  createDirectory path := attempt (if path.isEmpty then pure () else IO.FS.createDirAll path)
  write path content := attempt (IO.FS.writeBinFile path content)
  removeDirectory path := attempt (IO.FS.removeDirAll path)

def helpText : String :=
  "OpenAPI 3.x to TypeScript client generator\n\n" ++
  "Usage: tsgen <COMMAND>\n\n" ++
  "Commands:\n" ++
  "  generate     Generate a TypeScript client from an OpenAPI document\n" ++
  "  validate     Validate an OpenAPI document\n" ++
  "  inspect      Inspect the IR built from an OpenAPI document\n" ++
  "  init         Initialize a new tsgen configuration\n" ++
  "  completions  Generate shell completions\n" ++
  "  help         Print this message or the help of the given subcommand(s)\n"

def Usage.text : Usage → String
  | help => helpText
  | version => "tsgen 0.3.0\n"
  | nothingGiven => helpText
  | unknownCommand => "error: unrecognized subcommand\n"
  | unknownArgument => "error: unexpected argument found\n"
  | missingArgument => "error: the following required arguments were not provided\n"
  | badValue => "error: invalid value for an argument\n"
  | excessValue => "error: unexpected value for an argument\n"
  | repeatedArgument => "error: an argument cannot be used multiple times\n"

/-- The messages of the cause of a failure, from the outside in. -/
def FailureCause.messages : FailureCause → List String
  | file error => [error.message]
  | load error => [error.message?.getD "the text is not well formed"]
  | transform error => [error.message]
  | render error => [error.message?.getD "template error"]
  | config error => [error.message?.getD "the configuration is not well formed"]
  | configExists path => [configExistsMessage path]

def Failure.report (failure : Failure) : String :=
  match failure.contexts ++ failure.cause.messages with
  | [] => "Error\n"
  | [message] => "Error: " ++ message ++ "\n"
  | message :: causes =>
    "Error: " ++ message ++ "\n\nCaused by:\n" ++
      String.join (causes.map fun cause => "    " ++ cause ++ "\n")

end OpenApiClient

open OpenApiClient in
def main (arguments : List String) : IO UInt32 := do
  match Command.ofArguments arguments with
  | .error usage =>
    if usage.exitCode = 0 then IO.print usage.text else IO.eprint usage.text
    return usage.exitCode.toUInt32
  | .ok command =>
    let (result, transcript) ← command.outcome machineFiles
    IO.print transcript.stdout
    IO.eprint transcript.stderr
    match result with
    | .ok _ => return 0
    | .error failure =>
      IO.eprint failure.report
      return 1
