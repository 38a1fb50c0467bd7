import CircuitSheet.CommandLine.Arguments
import CircuitSheet.CommandLine.Files
import CircuitSheet.Export.Drawing
import CircuitSheet.Json.Reader

/-!
# Running commands

A command reads its files, does its job and shows the result as text or as JSON. Where it fails
it tells the chain of causes.
-/

namespace CircuitSheet
namespace CommandLine

/-- What a run shows, and the code it ends with. -/
structure Outcome where
  code : Nat
  output : String
  errors : String
  deriving Repr

namespace Outcome

/-- A run that shows its result. -/
def success (output : String) : Outcome := ⟨0, output, ""⟩

/-- A run that fails for a chain of reasons. -/
def failure (reasons : List String) : Outcome :=
  ⟨1, "", "Error: " ++ ": ".intercalate reasons ++ "\n"⟩

end Outcome

/-- A line that separates a title from what follows. -/
def rule : String :=
  String.ofList (List.replicate 60 '─') ++ "\n"

/-- A text filled up with spaces to a width. -/
def padded (width : Nat) (text : String) : String :=
  text ++ String.ofList (List.replicate (width - text.length) ' ')

/-- JSON spread over lines. -/
def jsonLines (value : Json) : String :=
  String.ofList (value.pretty 0) ++ "\n"

/-- The summary of a drawing as text. -/
def drawingText (path : String) (drawing : Drawing Float) : String :=
  "Wrote " ++ path ++ "\n" ++ rule ++
    "  Circuit:     " ++ drawing.circuit.name ++ "\n" ++
    "  Components:  " ++ toString drawing.circuit.components.length ++ "\n" ++
    "  Power:       " ++ toString drawing.circuit.powers.length ++ "\n" ++
    "  Nets:        " ++ toString drawing.nets.length ++ "\n" ++
    "  Wires:       " ++ toString drawing.wireCount ++ "\n" ++
    if drawing.diagnostics.isEmpty then ""
    else
      "\n  Diagnostics:\n" ++
        String.join (drawing.diagnostics.map fun diagnostic =>
          "    - " ++ diagnostic.message ++ "\n")

/-- The summary of a drawing as JSON. -/
def drawingJson (path : String) (drawing : Drawing Float) : Json :=
  Json.sorted (.object
    [("output", .string path),
      ("circuit", .string drawing.circuit.name),
      ("components", Json.ofNat drawing.circuit.components.length),
      ("power_symbols", Json.ofNat drawing.circuit.powers.length),
      ("nets", Json.ofList Net.toJson drawing.nets),
      ("wires", Json.ofNat drawing.wireCount),
      ("layout", drawing.layoutFigures.toJson Json.ofFloat),
      ("routing", drawing.routingFigures.toJson Json.ofFloat),
      ("connectivity", drawing.wiringFigures.toJson),
      ("diagnostics", Json.ofList (Diagnostic.toJson Json.ofFloat) drawing.diagnostics)])

/-- What a sheet shows as text. -/
def contentText (path : String) (content : Sheet.Content Float) : String :=
  let circuit := content.circuit
  "Schematic: " ++ path ++ "\n" ++ rule ++
    "  Title: " ++ circuit.name ++ "\n" ++
    "\n  Components (" ++ toString circuit.components.length ++ "):\n" ++
    String.join (circuit.components.map fun component =>
      "    " ++ padded 8 component.reference ++ " " ++ padded 16 component.symbolName ++ " " ++
        padded 12 component.value ++ " " ++ component.position.describe ++ "\n") ++
    "\n  Power symbols (" ++ toString circuit.powers.length ++ "):\n" ++
    String.join (circuit.powers.map fun power =>
      "    " ++ padded 8 power.reference ++ " " ++ padded 16 power.rail ++ " " ++
        power.position.describe ++ "\n") ++
    "\n  Wires: " ++ toString content.wires.length ++ "\n"

/-- What a sheet shows as JSON. -/
def contentJson (path : String) (content : Sheet.Content Float) : Json :=
  Json.sorted (.object
    [("file", .string path),
      ("circuit", content.circuit.toJson Json.ofFloat),
      ("wires", Json.ofList (WireSegment.toJson Json.ofFloat) content.wires)])

/-- A number with some places after the point. -/
def fixedText (places : Nat) (value : Float) : String :=
  String.ofList (ScalarText.fixed places value)

/-- The positions of a laid out circuit as text. -/
def layoutText (laidOut : Floorplan.LaidOut Float) : String :=
  let figures := laidOut.plan.statistics
  "Layout: " ++ laidOut.circuit.name ++ "\n" ++ rule ++
    String.join (laidOut.placements.map fun placement =>
      "  " ++ padded 8 placement.reference ++ " " ++ placement.position.describe ++ "\n") ++
    "\n  Summary:\n" ++
    "    Placed:          " ++ toString figures.totalComponents ++ "\n" ++
    "    Utilization:     " ++ fixedText 1 (figures.areaUtilization * 100.0) ++ "%\n" ++
    "    Average spacing: " ++ fixedText 2 figures.averageSpacing ++ " mm\n" ++
    "    Out of bounds:   " ++ toString figures.boundsViolations ++ "\n"

/-- Options with what a command line says in place of theirs. -/
def Request.override (request : Request) (options : DrawingOptions Float) :
    DrawingOptions Float where
  dialect := request.dialect.getD options.dialect
  layout := request.layout.or options.layout
  routing := request.routing.getD options.routing
  infersWiring := options.infersWiring || request.flags.contains .inferWiring
  page :=
    { width := request.pageWidth.getD options.page.width
      height := request.pageHeight.getD options.page.height
      margin := request.margin.getD options.page.margin }
  grid := options.grid
  spacing := options.spacing
  numbersIdentifiers := options.numbersIdentifiers || request.flags.contains .sequentialIds

variable {m : Type → Type} [Monad m] (files : FileAccess m)

/-- The options in a file. -/
def readOptions (path : String) : m (Except (Failure Float) (DrawingOptions Float)) := do
  match ← files.read path with
  | .error reason => return .error (.optionsFile reason)
  | .ok text =>
      match (Json.parse? text).bind DrawingOptions.ofJson? with
      | some options => return .ok options
      | none => return .error .options

/-- The options of a request: those of its options file under those of the command line. -/
def Request.options (request : Request) : m (Except (List String) (DrawingOptions Float)) := do
  match request.optionsFile with
  | none => return .ok (request.override DrawingOptions.default)
  | some path =>
      match ← readOptions files path with
      | .ok options => return .ok (request.override options)
      | .error failure =>
          return .error (("reading options from " ++ path) :: failure.chain)

/-- The options of a request and the text of its file. -/
def Request.inputs (request : Request) :
    m (Except (List String) (DrawingOptions Float × List Char)) := do
  match ← request.options files with
  | .error reasons => return .error reasons
  | .ok options =>
      match ← files.read request.file with
      | .error reason => return .error ["reading " ++ request.file, reason]
      | .ok text => return .ok (options, text)

/-- Do a job with the options and the text of a request. -/
def Request.process {α : Type} (request : Request)
    (job : DrawingOptions Float → List Char → Except (Failure Float) α)
    (present : α → m Outcome) : m Outcome := do
  match ← request.inputs files with
  | .error reasons => return .failure reasons
  | .ok (options, text) =>
      match job options text with
      | .error failure => return .failure failure.chain
      | .ok result => present result

/-- Where the sheet of a request goes. -/
def Request.target (request : Request) : String :=
  request.output.getD
    (String.ofList (FileName.withExtension request.file.toList "kicad_sch".toList))

/-- Write a sheet and show what was drawn. -/
def Request.deliver (request : Request) (drawing : Drawing Float) : m Outcome := do
  let path := request.target
  match ← files.write path drawing.sheet with
  | .error reason => return .failure ["writing " ++ path, reason]
  | .ok () =>
      match request.format with
      | .human => return .success (drawingText path drawing)
      | .json => return .success (jsonLines (drawingJson path drawing))

/-- Show a report. The run fails on errors where that is asked for. -/
def Request.showReport (request : Request) (report : BoundaryReport Float) : Outcome :=
  let output :=
    match request.format with
    | .human => report.text
    | .json => report.jsonText ++ "\n"
  if request.flags.contains .failOnError && report.hasErrors then ⟨1, output, ""⟩
  else .success output

/-- Show where entities were placed. -/
def Request.showLayout (request : Request) (laidOut : Floorplan.LaidOut Float) : Outcome :=
  match request.format with
  | .human => .success (layoutText laidOut)
  | .json => .success (jsonLines (laidOut.toJson Json.ofFloat))

/-- Read a sheet and show what is on it. -/
def Request.showSheet (request : Request) : m Outcome := do
  match ← files.read request.file with
  | .error reason => return .failure (Failure.chain (.unreadableSheet reason : Failure Float))
  | .ok text =>
      match Sheet.read text with
      | .error cause => return .failure (Failure.chain (.reading cause : Failure Float))
      | .ok content =>
          match request.format with
          | .human => return .success (contentText request.file content)
          | .json => return .success (jsonLines (contentJson request.file content))

/-- Do what is requested. -/
def Request.run (request : Request) : m Outcome :=
  match request.command with
  | .generate => request.process files Drawing.ofText (request.deliver files)
  | .validate => request.process files reviewText fun report => pure (request.showReport report)
  | .layout => request.process files layOutText fun laidOut => pure (request.showLayout laidOut)
  | .parse => request.showSheet files

/-- What is shown about the program when that is asked for. -/
def helpText : String :=
  "Compile circuit descriptions into KiCad schematics\n\n" ++
    "Usage: schemgen [OPTIONS] <COMMAND>\n\n" ++
    "Commands:\n" ++
    "  generate  Build a schematic from a description file\n" ++
    "  validate  Check described positions against the page bounds\n" ++
    "  parse     Summarize a generated schematic\n" ++
    "  layout    Place components and print the positions\n" ++
    "  help      Print this message or the help of the given subcommand(s)\n\n" ++
    "Options:\n" ++
    "  -v, --verbose  Log debug details to stderr\n" ++
    "  -h, --help     Print help\n" ++
    "  -V, --version  Print version\n"

/-- Run a command line. -/
def run (arguments : List String) : m Outcome :=
  match Request.ofArguments false arguments with
  | .ok request => request.run files
  | .error .usage => pure ⟨2, "", "error: invalid command line\n"⟩
  | .error .help => pure (.success helpText)
  | .error .version =>
      pure (.success (Sheet.generator ++ " " ++ Sheet.generatorVersion ++ "\n"))

end CommandLine
end CircuitSheet
