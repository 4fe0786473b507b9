import PadMapping.Snippet.Printer

/-!
# The command line

Options that hold for all commands come first, then the command with its own options:

    [--config FILE] [--device PATH] [map | list-devices | codegen EXPORT [--name NAME]]

A value follows its option as the next argument or, behind an equals sign, in the same one. An
option is given at most once. Behind two hyphens that stand alone every argument is taken as it
is.
-/

namespace PadMapping

/-- What the program is asked to do. -/
inductive Command where
  /-- Record a control for each step. -/
  | map
  /-- List the gamepads. -/
  | listDevices
  /-- Print the snippets for an export. -/
  | codegen (path name : String)
deriving DecidableEq, Repr

/-- What the command line says. -/
structure Arguments where
  config : Option String
  device : Option String
  command : Command
deriving DecidableEq, Repr

/-- What comes of reading a command line. -/
inductive Arguments.Outcome where
  | run (arguments : Arguments)
  /-- A summary of the command line is asked for. -/
  | help
  /-- The version is asked for. -/
  | version
  /-- The command line makes no sense. -/
  | misuse
deriving DecidableEq, Repr

namespace Arguments

/-- An argument by its form. -/
inductive Token where
  /-- Two hyphens with a name, and what comes behind an equals sign. -/
  | long (name : List Char) (value : Option (List Char))
  /-- One hyphen with a letter, and what comes behind it. -/
  | short (letter : Char) (rest : List Char)
  /-- Two hyphens: no options come any more. -/
  | endOfOptions
  | word (text : String)
deriving DecidableEq, Repr

/-- The form of an argument. A single hyphen is a word. -/
def Token.of (argument : String) : Token :=
  match argument.toList with
  | ['-', '-'] => .endOfOptions
  | '-' :: '-' :: rest =>
    let name := rest.takeWhile (· ≠ '=')
    .long name (rest.dropWhile (· ≠ '=')).tail?
  | '-' :: letter :: rest => .short letter rest
  | _ => .word argument

/-- An argument that can be the value of the option in front of it. -/
def asValue? (argument : String) : Option String :=
  match Token.of argument with
  | .word text => some text
  | _ => none

/-- An option with a value. -/
structure ValueOption where
  long : String
  letter : Char
  /-- Whether the value may be empty. -/
  allowEmpty : Bool

/-- The file with the settings. -/
def configOption : ValueOption := ⟨"config", 'c', false⟩

/-- The device to use. -/
def deviceOption : ValueOption := ⟨"device", 'd', false⟩

/-- The name of the mapper function. -/
def nameOption : ValueOption := ⟨"name", 'n', true⟩

/-- What an argument means for an option. -/
inductive Use where
  /-- It is another one. -/
  | other
  /-- It is the option with its value. -/
  | value (text : String)
  /-- It is the option, and the value comes next. -/
  | next

/-- What an argument means for an option. -/
def ValueOption.use (o : ValueOption) : Token → Use
  | .long name value =>
    if name ≠ o.long.toList then .other
    else match value with
      | some text => .value (String.ofList text)
      | none => .next
  | .short letter rest =>
    if letter ≠ o.letter then .other
    else match rest with
      | [] => .next
      | '=' :: text => .value (String.ofList text)
      | text => .value (String.ofList text)
  | _ => .other

/-- Whether an argument asks for a summary. -/
def isHelp : Token → Bool
  | .long name value => name == "help".toList && value.isNone
  | .short letter _ => letter == 'h'
  | _ => false

/-- Whether an argument asks for the version. -/
def isVersion : Token → Bool
  | .long name value => name == "version".toList && value.isNone
  | .short letter _ => letter == 'V'
  | _ => false

/-- Keeps the value of an option; none if there is one already or it must not be empty. -/
def ValueOption.keep (o : ValueOption) (old : Option String) (text : String) :
    Option (Option String) :=
  if old.isSome || (text.isEmpty && !o.allowEmpty) then none else some (some text)

/-- Reads the arguments of a command that has none. -/
def readPlain (done : Outcome) : List String → Outcome
  | [] => done
  | argument :: rest =>
    match Token.of argument with
    | .endOfOptions => if rest.isEmpty then done else .misuse
    | token => if isHelp token then .help else .misuse

/-- Reads the words for which a summary is asked. -/
def readHelp : List String → Outcome
  | [] => .help
  | [text] => if ["map", "list-devices", "codegen", "help"].contains text then .help else .misuse
  | _ => .misuse

/-- Reads the arguments of the command for snippets; `options` says whether options may still
come. -/
def readCodegen (config device : Option String) (options : Bool) (path name : Option String) :
    List String → Outcome
  | [] =>
    match path with
    | none => .misuse
    | some path => .run ⟨config, device, .codegen path (name.getD Snippet.defaultName)⟩
  | argument :: rest =>
    let token := if options then Token.of argument else .word argument
    if isHelp token then .help
    else
      match nameOption.use token with
      | .value text =>
        match nameOption.keep name text with
        | some name => readCodegen config device options path name rest
        | none => .misuse
      | .next =>
        match rest with
        | value :: rest =>
          match (asValue? value).bind (nameOption.keep name) with
          | some name => readCodegen config device options path name rest
          | none => .misuse
        | [] => .misuse
      | .other =>
        match token, path with
        | .endOfOptions, _ => readCodegen config device false path name rest
        | .word text, none =>
          if text.isEmpty then .misuse else readCodegen config device options (some text) name rest
        | _, _ => .misuse

/-- Reads a command with its arguments. -/
def readCommand (config device : Option String) (word : String) (rest : List String) : Outcome :=
  match word with
  | "map" => readPlain (.run ⟨config, device, .map⟩) rest
  | "list-devices" => readPlain (.run ⟨config, device, .listDevices⟩) rest
  | "codegen" => readCodegen config device true none none rest
  | "help" => readHelp rest
  | _ => .misuse

/-- Reads the options in front of the command. -/
def readOptions (config device : Option String) : List String → Outcome
  | [] => .run ⟨config, device, .map⟩
  | argument :: rest =>
    let token := Token.of argument
    if isHelp token then .help
    else if isVersion token then .version
    else
      match token, configOption.use token, deviceOption.use token with
      | .endOfOptions, _, _ => if rest.isEmpty then .run ⟨config, device, .map⟩ else .misuse
      | .word text, _, _ => readCommand config device text rest
      | _, .value text, _ =>
        match configOption.keep config text with
        | some config => readOptions config device rest
        | none => .misuse
      | _, .next, _ =>
        match rest with
        | value :: rest =>
          match (asValue? value).bind (configOption.keep config) with
          | some config => readOptions config device rest
          | none => .misuse
        | [] => .misuse
      | _, .other, .value text =>
        match deviceOption.keep device text with
        | some device => readOptions config device rest
        | none => .misuse
      | _, .other, .next =>
        match rest with
        | value :: rest =>
          match (asValue? value).bind (deviceOption.keep device) with
          | some device => readOptions config device rest
          | none => .misuse
        | [] => .misuse
      | _, .other, .other => .misuse

/-- Reads a command line. -/
def parse (arguments : List String) : Outcome := readOptions none none arguments

end Arguments

end PadMapping
