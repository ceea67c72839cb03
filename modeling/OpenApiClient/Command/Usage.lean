/-!
# Command line arguments

How arguments are read as options with values, flags and operands (`readOptions`), and what is
reported when they do not fit (`Usage`).  An option may be long or short; short ones may be put
together after one dash, and a value may follow in the same argument or in the next one.
-/

namespace OpenApiClient

/-- What is reported in place of running a command. -/
inductive Usage where
  | help
  | version
  /-- There are no arguments at all. -/
  | nothingGiven
  | unknownCommand
  | unknownArgument
  | missingArgument
  | badValue
  /-- A flag with a value. -/
  | excessValue
  | repeatedArgument
  deriving DecidableEq, Repr

def Usage.exitCode : Usage → Nat
  | help => 0
  | version => 0
  | _ => 2

structure OptionSpec where
  /-- The name after two dashes. -/
  long : String
  /-- The letter after one dash. -/
  short : Option Char
  takesValue : Bool
  /-- The values to choose from; any but the empty one if there are none. -/
  choices : List String

namespace OptionSpec

def help : OptionSpec := ⟨"help", some 'h', false, []⟩

def accepts (option : OptionSpec) (value : String) : Bool :=
  if option.choices.isEmpty then value != "" else option.choices.contains value

end OptionSpec

structure CommandSpec where
  options : List OptionSpec
  operand : Option OptionSpec

abbrev Given := List (String × String)

/-- What is known between two arguments: what is given so far, and an option or operand that is not
checked yet, with its value if that has come. -/
structure ArgumentState where
  given : Given
  open? : Option (OptionSpec × Option String)

namespace ArgumentState

def enter (state : ArgumentState) (option : OptionSpec) (value : String) :
    Except Usage ArgumentState :=
  if state.given.any (·.1 == option.long) then .error .repeatedArgument
  else if option.takesValue && !option.accepts value then .error .badValue
  else .ok { state with given := state.given ++ [(option.long, value)] }

/-- Checks and enters what is open. -/
def close (state : ArgumentState) : Except Usage ArgumentState :=
  match state.open? with
  | none => .ok state
  | some (_, none) => .error .badValue
  | some (option, some value) => { state with open? := none }.enter option value

def await (state : ArgumentState) (option : OptionSpec) : Except Usage ArgumentState := do
  return { (← state.close) with open? := some (option, none) }

def attach (state : ArgumentState) (option : OptionSpec) (value : String) :
    Except Usage ArgumentState := do
  (← state.close).enter option value

/-- Enters a flag.  The flag for help ends everything. -/
def flag (state : ArgumentState) (option : OptionSpec) : Except Usage ArgumentState := do
  let state ← state.close
  if option.long = OptionSpec.help.long then throw .help
  state.enter option ""

end ArgumentState

def readShort (options : List OptionSpec) (state : ArgumentState) :
    List Char → Except Usage ArgumentState
  | [] => .ok state
  | letter :: rest =>
    match options.find? (·.short == some letter) with
    | none => .error .unknownArgument
    | some option =>
      if !option.takesValue then do readShort options (← state.flag option) rest
      else
        match rest with
        | [] => state.await option
        | '=' :: value => state.attach option (String.ofList value)
        | value => state.attach option (String.ofList value)

def readLong (options : List OptionSpec) (state : ArgumentState) (text : List Char) :
    Except Usage ArgumentState :=
  let name := String.ofList (text.takeWhile (· != '='))
  match options.find? (·.long == name), text.dropWhile (· != '=') with
  | none, _ => .error .unknownArgument
  | some option, [] => if option.takesValue then state.await option else state.flag option
  | some option, _ :: value =>
    if option.takesValue then state.attach option (String.ofList value) else .error .excessValue

def readOperand (spec : CommandSpec) (state : ArgumentState) (text : String) :
    Except Usage ArgumentState :=
  match spec.operand with
  | none => .error .unknownArgument
  | some operand =>
    let isGiven := state.given.any (·.1 == operand.long) ||
      (state.open?.map fun (option, _) => option.long == operand.long).getD false
    if isGiven then .error .unknownArgument
    else do return { (← state.close) with open? := some (operand, some text) }

/-- Reads an argument that is neither an option nor a mark. -/
def readPlain (spec : CommandSpec) (state : ArgumentState) (text : String) :
    Except Usage ArgumentState :=
  match state.open? with
  | some (option, none) => .ok { state with open? := some (option, some text) }
  | _ => readOperand spec state text

/-- Reads arguments one after the other.  After two dashes alone all are operands. -/
def readArguments (spec : CommandSpec) (state : ArgumentState) (operandsOnly : Bool) :
    List String → Except Usage ArgumentState
  | [] => state.close
  | text :: texts =>
    let options := OptionSpec.help :: spec.options
    if operandsOnly then do readArguments spec (← readOperand spec state text) true texts
    else
      match text.toList with
      | ['-', '-'] => readArguments spec state true texts
      | '-' :: '-' :: rest => do readArguments spec (← readLong options state rest) false texts
      | '-' :: letter :: rest => do
        readArguments spec (← readShort options state (letter :: rest)) false texts
      | _ => do readArguments spec (← readPlain spec state text) false texts

def readOptions (spec : CommandSpec) (texts : List String) : Except Usage Given :=
  ArgumentState.given <$> readArguments spec ⟨[], none⟩ false texts

end OpenApiClient
