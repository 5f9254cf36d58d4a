import OperatorKit.Channel.Comparison
import OperatorKit.CommandLine.Report
import OperatorKit.CommandLine.World
import OperatorKit.Discovery.Lookup
import OperatorKit.Settings
import OperatorKit.Spec.Merge

/-!
# Commands

Each command reads its arguments and files and gives a text to print, or a report. All files of a
command are read before any of them is looked into.
-/

namespace OperatorKit.CommandLine

open OperatorKit.Text

/-- The text of the `help` command. -/
def helpText : String :=
  "\n".intercalate [
    "Operand CLI",
    "",
    "USAGE:",
    "    operand <COMMAND> [OPTIONS]",
    "",
    "COMMANDS:",
    "    merge <default.json> <changed.json> [--strict]",
    "                      Fill gaps in a changed spec from a default spec",
    "    compare <v1> <v2>  Print whether channel v1 is newer than v2",
    "    resource-exists <discovery.json> <groupVersion> <kind>",
    "                      Print whether a kind is served",
    "    resource-namespaced <discovery.json> <groupVersion> <kind>",
    "                      Print whether a kind is namespace-scoped",
    "    env               Show operator settings read from the environment",
    "    help              Show this help message",
    "",
    "EXAMPLES:",
    "    operand merge template.json request.json",
    "    operand compare v3.20 v3",
    ""]

/-- The report of a command that was given the wrong arguments. -/
def usageReport (arguments : String) : Report :=
  ⟨"Usage: operand " ++ arguments, []⟩

/-- The content of a file. -/
def readInput (world : World) (path : String) : Except Report Bytes :=
  (world.readFile path).mapError fun fault => ⟨"Failed to read " ++ path, [fault.message]⟩

/-- What stands behind a decode fault. -/
def decodeCauses : Spec.DecodeFault → List String
  | fault@(.malformed detail) => [fault.message, detail.message]
  | fault@(.notAnObject _) => [fault.message]

/-- The report of a strict merge that failed. -/
def mergeReport (fault : Spec.InputFault) : Report :=
  ⟨"Failed to merge specs", fault.message :: decodeCauses fault.source⟩

/-- The option that makes a merge strict. -/
def strictOption : String :=
  "--strict"

/-- Merges two files. The option may stand anywhere and any number of times. -/
def runMerge (world : World) (arguments : List String) : Except Report String :=
  match arguments.filter (· != strictOption) with
  | [defaultPath, changedPath] => do
    let default ← readInput world defaultPath
    let changed ← readInput world changedPath
    if arguments.contains strictOption then
      match Spec.mergeStrict default changed with
      | .ok document => .ok document.indentedText
      | .error fault => .error (mergeReport fault)
    else .ok (Spec.mergeLenient default changed).document.indentedText
  | _ => .error (usageReport "merge <default.json> <changed.json> [--strict]")

/-- Compares two channels. -/
def runCompare : List String → Except Report String
  | [channel, other] =>
    match Channel.isNewer channel other with
    | .ok isNewer => .ok (toString isNewer)
    | .error fault =>
      .error ⟨"Failed to compare " ++ channel ++ " with " ++ other,
        [fault.message, fault.source.message]⟩
  | _ => .error (usageReport "compare <v1> <v2>")

/-- A question about a kind. -/
inductive KindQuestion where
  | hasKind
  | isNamespaced
deriving DecidableEq

/-- The command that asks a question. -/
def KindQuestion.command : KindQuestion → String
  | hasKind => "resource-exists"
  | isNamespaced => "resource-namespaced"

/-- Asks a source a question about a kind. -/
def KindQuestion.ask (question : KindQuestion) (source : Discovery.Source)
    (groupVersion kind : String) : Except Discovery.DiscoveryFault Bool :=
  match question with
  | hasKind => source.hasKind groupVersion kind
  | isNamespaced => source.isNamespaced groupVersion kind

/-- Asks a discovery file a question about a kind. -/
def runQuestion (world : World) (question : KindQuestion) : List String → Except Report String
  | [path, groupVersion, kind] => do
    let text ← readInput world path
    match question.ask (.ofDocument text) groupVersion kind with
    | .ok answer => .ok (toString answer)
    | .error fault => .error ⟨"Invalid discovery document " ++ path, [fault.message]⟩
  | _ => .error (usageReport (question.command ++ " <discovery.json> <groupVersion> <kind>"))

/-- Runs a command line: the text to print, or a report. -/
def run (world : World) : List String → Except Report String
  | [] => .ok helpText
  | "merge" :: arguments => runMerge world arguments
  | "compare" :: arguments => runCompare arguments
  | "resource-exists" :: arguments => runQuestion world .hasKind arguments
  | "resource-namespaced" :: arguments => runQuestion world .isNamespaced arguments
  | "env" :: _ => .ok (Settings.ofVariables world.valueOf).text
  | "help" :: _ | "--help" :: _ | "-h" :: _ => .ok helpText
  | command :: _ => .error ⟨"Unknown command: " ++ command ++ "\n\n" ++ helpText, []⟩

/-- The files that a command line reads if it reads any. -/
def paths : List String → List String
  | "merge" :: arguments => arguments.filter (· != strictOption)
  | "resource-exists" :: path :: _ | "resource-namespaced" :: path :: _ => [path]
  | _ => []

/-- What a command line leaves behind. -/
structure Outcome where
  exitCode : UInt32
  output : String
  errorOutput : String
deriving DecidableEq

/-- The outcome of a command line. A failing one prints its report and nothing else. -/
def outcome (world : World) (arguments : List String) : Outcome :=
  match run world arguments with
  | .ok text => ⟨0, text ++ "\n", ""⟩
  | .error report => ⟨1, "", report.text⟩

end OperatorKit.CommandLine
