import LayoutCompose.Command.Filter
import LayoutCompose.Command.Request
import LayoutCompose.Text.Plain
import LayoutCompose.View.Listing

/-!
The command: what it does on a request, and how what it says is shown.
-/

namespace LayoutCompose

/-- How notes are shown: which of them, and whether with their speaker. -/
structure LogStyle where
  filter : Filter
  withSpeaker : Bool
  deriving DecidableEq, Repr

namespace LogStyle

/-- A note as a line of the log. Further lines of its message are indented, and what is meant for
a terminal is left out of the whole. -/
def line (style : LogStyle) (n : Note) : String :=
  let message :=
    "\n    ".intercalate ((Text.pieces '\n' n.message.toList).map String.ofList)
  let line := "[" ++ Vocabulary.pad 5 n.level.name ++
    (if style.withSpeaker then " " ++ n.speaker else "") ++ "] " ++ message ++ "\n"
  String.ofList (Text.plain line.toList)

end LogStyle

namespace Message

def stdout : Message → String
  | print text => text
  | _ => ""

def stderr (style : LogStyle) : Message → String
  | print _ => ""
  | complaint input reason =>
    "Could not translate file: " ++ input ++ "\n - " ++ reason ++ "\n"
  | note n => if style.filter.shows n then style.line n else ""
  | failure failed total =>
    "Error: " ++ toString failed ++ " of " ++ toString total ++
      " file(s) could not be translated\n"

end Message

namespace Program

def versionText : String := "recast 0.1.0\n"

def helpText : String :=
  "Translate Android layout XML into Jetpack Compose\n\n" ++
    "Usage: recast [OPTIONS] [INPUTS]...\n\n" ++
    "Options:\n" ++
    "  -o, --output <OUTPUT>  Directory for generated `.kt` files\n" ++
    "  -c, --complete         Emit a complete file\n" ++
    "      --strict           Reject attributes that a tag does not understand\n" ++
    "      --stdout           Print generated code instead of writing files\n" ++
    "      --list-widgets     Print the supported tags and attributes, then exit\n" ++
    "  -v, --verbose          Debug-level logging\n" ++
    "  -h, --help             Print help\n" ++
    "  -V, --version          Print version\n"

/-- The text of the filter: what the environment asks for, or else the usual one. -/
def filterText (c : Command) (environment : Option String) : String :=
  environment.getD (Filter.usual c.verbose)

def logStyle (c : Command) (environment : Option String) : LogStyle :=
  ⟨Filter.read (filterText c environment), c.verbose⟩

variable {m : Type → Type} [Monad m]

def runCommand (host : Host m) (environment : Option String) (c : Command) : m Nat := do
  host.say (.note (.listening (filterText c environment)))
  if c.listing then
    host.say (.print Vocabulary.listing)
    return 0
  else
    let summary ← Batch.run host c.options c.inputs
    host.say (.note (.finished summary.converted.length summary.failed.length))
    if summary.failed.isEmpty then return 0
    else
      host.say (.failure summary.failed.length c.inputs.length)
      return 1

def run (host : Host m) (environment : Option String) : Request → m Nat
  | .command c => runCommand host environment c
  | .version => do
    host.say (.print versionText)
    return 0
  | .help => do
    host.say (.print helpText)
    return 0
  | .mistake => return 2

end Program

end LayoutCompose
