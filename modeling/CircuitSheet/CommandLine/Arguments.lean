import CircuitSheet.Drawing.Options

/-!
# Command lines

A command line names a command, a file, and settings of the command. Settings have a long name
and some have a letter; each may be given once.
-/

namespace CircuitSheet
namespace CommandLine

/-- What the program can do. -/
inductive Command
  | generate
  | validate
  | parse
  | layout
  deriving DecidableEq, Repr

/-- A setting that is given or not. -/
inductive Flag
  | verbose
  | inferWiring
  | sequentialIds
  | failOnError
  deriving DecidableEq, Repr

/-- A setting with a value. -/
inductive Setting
  | output
  | format
  | options
  | dialect
  | strategy
  | routing
  | pageWidth
  | pageHeight
  | margin
  deriving DecidableEq, Repr

/-- The name of a command. -/
def Command.name : Command → String
  | .generate => "generate"
  | .validate => "validate"
  | .parse => "parse"
  | .layout => "layout"

/-- All commands. -/
def Command.all : List Command := [.generate, .validate, .parse, .layout]

/-- The long name of a flag. -/
def Flag.name : Flag → String
  | .verbose => "verbose"
  | .inferWiring => "infer-wiring"
  | .sequentialIds => "sequential-ids"
  | .failOnError => "fail-on-error"

/-- The letter of a flag. -/
def Flag.letter? : Flag → Option Char
  | .verbose => some 'v'
  | _ => none

/-- The long name of a setting. -/
def Setting.name : Setting → String
  | .output => "output"
  | .format => "format"
  | .options => "options"
  | .dialect => "dialect"
  | .strategy => "strategy"
  | .routing => "routing"
  | .pageWidth => "page-width"
  | .pageHeight => "page-height"
  | .margin => "margin"

/-- The letter of a setting. -/
def Setting.letter? : Setting → Option Char
  | .output => some 'o'
  | .format => some 'f'
  | _ => none

/-- The flags of a command. -/
def Command.flags : Command → List Flag
  | .generate => [.verbose, .inferWiring, .sequentialIds]
  | .validate => [.verbose, .inferWiring, .sequentialIds, .failOnError]
  | .parse => [.verbose]
  | .layout => [.verbose, .inferWiring, .sequentialIds]

/-- The settings that say how a sheet is drawn. -/
def drawingSettings : List Setting :=
  [.options, .dialect, .strategy, .routing, .pageWidth, .pageHeight, .margin]

/-- The settings of a command. -/
def Command.settings : Command → List Setting
  | .generate => [.output, .format] ++ drawingSettings
  | .validate => [.format] ++ drawingSettings
  | .parse => [.format]
  | .layout => [.format] ++ drawingSettings

/-- What has been read of a command line. -/
structure Given where
  flags : List Flag
  settings : List (Setting × String)
  files : List String
  deriving Repr

/-- Why a command line leads to no command: it is not understood, or it asks about the program
itself. -/
inductive Stop
  | usage
  | help
  | version
  deriving DecidableEq, Repr

namespace Given

/-- Nothing has been read. -/
def nothing : Given := ⟨[], [], []⟩

/-- Give a flag that has not been given. -/
def addFlag (given : Given) (flag : Flag) : Except Stop Given :=
  if given.flags.contains flag then .error .usage
  else .ok { given with flags := flag :: given.flags }

/-- Give a setting that has not been given. -/
def addSetting (given : Given) (setting : Setting) (value : String) : Except Stop Given :=
  if given.settings.any (·.1 == setting) then .error .usage
  else .ok { given with settings := (setting, value) :: given.settings }

/-- Name a file. -/
def addFile (given : Given) (file : String) : Given :=
  { given with files := given.files ++ [file] }

end Given

/-- An argument looks like the name of a setting. -/
def isDashed (argument : List Char) : Bool :=
  match argument with
  | ['-'] => false
  | '-' :: _ => true
  | _ => false

/-- Read an argument with a long name. A setting without a value takes the next argument. -/
def readLong (command : Command) (given : Given) (argument : List Char) :
    Except Stop (Given × Option Setting) :=
  let (name, value) :=
    match Text.cutAt? '=' argument with
    | some (name, value) => (String.ofList name, some (String.ofList value))
    | none => (String.ofList argument, none)
  match command.flags.find? (·.name == name), command.settings.find? (·.name == name), value with
  | some flag, _, none => (given.addFlag flag).map (·, none)
  | none, some setting, some value => (given.addSetting setting value).map (·, none)
  | none, some setting, none => .ok (given, some setting)
  | none, none, none => .error (if name = "help" then .help else .usage)
  | _, _, _ => .error .usage

/-- Read the letters of an argument. What follows the letter of a setting is its value; without
one it takes the next argument. -/
def readLetters (command : Command) (given : Given) :
    List Char → Except Stop (Given × Option Setting)
  | [] => .ok (given, none)
  | letter :: rest =>
      match command.flags.find? (·.letter? == some letter),
          command.settings.find? (·.letter? == some letter), rest with
      | some flag, _, _ =>
          match given.addFlag flag with
          | .ok next => readLetters command next rest
          | .error stop => .error stop
      | none, some setting, [] => .ok (given, some setting)
      | none, some setting, '=' :: value =>
          (given.addSetting setting (String.ofList value)).map (·, none)
      | none, some setting, value =>
          (given.addSetting setting (String.ofList value)).map (·, none)
      | none, none, _ => .error (if letter = 'h' then .help else .usage)

/-- Read the arguments of a command. A setting may be waiting for its value. -/
def readArguments (command : Command) (given : Given) (waiting : Option Setting) :
    List String → Except Stop Given
  | [] => if waiting.isSome then .error .usage else .ok given
  | argument :: rest =>
      match waiting, argument.toList with
      | some setting, text =>
          if isDashed text then .error .usage
          else
            match given.addSetting setting argument with
            | .ok next => readArguments command next none rest
            | .error stop => .error stop
      | none, ['-', '-'] => .ok (rest.foldl Given.addFile given)
      | none, '-' :: '-' :: long =>
          match readLong command given long with
          | .ok (next, setting) => readArguments command next setting rest
          | .error stop => .error stop
      | none, text =>
          if isDashed text then
            match readLetters command given (text.drop 1) with
            | .ok (next, setting) => readArguments command next setting rest
            | .error stop => .error stop
          else readArguments command (given.addFile argument) none rest

/-- How results are shown. -/
inductive OutputFormat
  | human
  | json
  deriving DecidableEq, Repr

/-- What a command line asks for. -/
structure Request where
  command : Command
  file : String
  output : Option String
  format : OutputFormat
  optionsFile : Option String
  dialect : Option Description.Dialect
  layout : Option LayoutStrategy
  routing : Option RoutingStrategy
  pageWidth : Option Float
  pageHeight : Option Float
  margin : Option Float
  flags : List Flag
  deriving Repr

/-- The value of a setting, if it is given. A value that cannot be read is an error. -/
def Given.value {α : Type} (given : Given) (setting : Setting) (read? : String → Option α) :
    Except Stop (Option α) :=
  match given.settings.find? (·.1 == setting) with
  | none => .ok none
  | some (_, text) =>
      match read? text with
      | some value => .ok (some value)
      | none => .error .usage

/-- The value that one of some names stands for. -/
def ofNames {α : Type} (names : List (String × α)) (text : String) : Option α :=
  (names.find? (·.1 == text)).map (·.2)

/-- A path; the empty one is none. -/
def path? (text : String) : Option String :=
  if text.isEmpty then none else some text

/-- A length. -/
def length? (text : String) : Option Float :=
  ScalarText.read? text.toList

/-- The formats by name. -/
def formatNames : List (String × OutputFormat) :=
  [("human", .human), ("json", .json)]

/-- The request that has been read. There is just one file. -/
def Given.request (given : Given) (command : Command) : Except Stop Request := do
  let [file] := given.files | .error .usage
  let some file := path? file | .error .usage
  let output ← given.value .output path?
  let format ← given.value .format (ofNames formatNames)
  let optionsFile ← given.value .options path?
  let dialect ← given.value .dialect (ofNames DrawingOptions.dialectNames)
  let layout ← given.value .strategy (ofNames DrawingOptions.layoutNames)
  let routing ← given.value .routing (ofNames DrawingOptions.routingNames)
  let pageWidth ← given.value .pageWidth length?
  let pageHeight ← given.value .pageHeight length?
  let margin ← given.value .margin length?
  .ok
    { command, file, output, optionsFile, dialect, layout, routing, pageWidth, pageHeight, margin
      format := format.getD .human
      flags := given.flags }

/-- Read a command line. Only the flag for more messages may stand in front of the command. -/
def Request.ofArguments (isVerbose : Bool) : List String → Except Stop Request
  | [] => .error .usage
  | argument :: rest =>
      match Command.all.find? (·.name == argument) with
      | some command =>
          match readArguments command Given.nothing none rest with
          | .ok given => given.request command
          | .error stop => .error stop
      | none =>
          if argument = "-v" ∨ argument = "--verbose" then
            if isVerbose then .error .usage else Request.ofArguments true rest
          else if argument = "-h" ∨ argument = "--help" ∨ argument = "help" then .error .help
          else if argument = "-V" ∨ argument = "--version" then .error .version
          else .error .usage

end CommandLine
end CircuitSheet
