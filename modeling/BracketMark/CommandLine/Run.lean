import BracketMark.CommandLine.Arguments
import BracketMark.Engine
import BracketMark.Markup.NodeJson

/-!
# Running commands

A command is run against standard input and a file system at one moment, and gives what to
write and a status.  The configuration comes first, then the engine, then the input, then
the work on it, so an error of an earlier step hides those of later ones.
-/

namespace BracketMark
namespace CommandLine

open File

/-- What a run writes, and its status. -/
structure Outcome where
  code : Nat
  stdout : String
  /-- The report of an error. -/
  report : Option String
  deriving DecidableEq, Repr

def Outcome.success (stdout : String) : Outcome := ⟨0, stdout, none⟩

def Outcome.failure (report : String) : Outcome := ⟨1, "", some report⟩

/-- The report of an error of configuration.  What stopped a file from being read is told
    once in the message and once as its cause. -/
def configReport : ConfigError → String
  | .unreadable path reason => (ConfigError.unreadable path reason).message ++ ": " ++ reason
  | error => error.message

/-- The configuration that options ask for: libraries replace the configured ones, template
    directories are added to them. -/
def loadConfig (options : Options) (files : Files) : Except ConfigError Config := do
  let config ← match options.config with
    | some path => Config.ofFile files path
    | none => pure Config.default
  return {
    tagLibraries :=
      if options.libraries.isEmpty then config.tagLibraries else options.libraries
    templateDirs := config.templateDirs ++ options.templateDirs }

/-- The engine that options ask for. -/
def loadEngine (options : Options) (files : Files) : Except String Engine :=
  match loadConfig options files >>= fun config => Engine.ofConfig config .builtin files with
  | .ok engine => .ok engine
  | .error error => .error (configReport error)

/-- The text of a file, or of standard input when none is named. -/
def readInput (file : Option String) (stdin : ByteArray) (files : Files) : Except String String :=
  match file with
  | some path =>
    (files.readText path).mapError fun fault => "failed to read " ++ path ++ ": " ++ fault.message
  | none => (decodeText stdin).mapError fun fault => "failed to read stdin: " ++ fault.message

/-- The lines about a tag. -/
def tagLines (definition : Tag.Definition) : String :=
  String.join (("[" ++ definition.name ++ "] " ++ definition.contract.label ++ "\n") ::
    definition.usage.map fun line => "    " ++ line ++ "\n")

/-- What a command writes to standard output, or the report of an error. -/
def perform (command : Command) (options : Options) (stdin : ByteArray) (files : Files) :
    Except String String :=
  match command with
  | .render file => do
    let engine ← loadEngine options files
    let input ← readInput file stdin files
    match (engine.render files input).1 with
    | .ok html => return html.text ++ "\n"
    | .error error => throw error.message
  | .parse file => do
    let input ← readInput file stdin files
    return (Markup.parse Markup.defaultLimit input).toJson.pretty 0 ++ "\n"
  | .tags => do
    let engine ← loadEngine options files
    match (Tag.Registry.definitions.run engine.registry).1 with
    | .ok definitions => return String.join (definitions.map tagLines)
    | .error error => throw error.message

/-- What the program answers when asked for its version. -/
def versionText : String := "bbking 0.3.0\n"

/-- What the program answers when asked for help. -/
def helpText : String := String.join [
  "Usage: bbking [OPTIONS] <COMMAND>\n",
  "\n",
  "Commands:\n",
  "  render [FILE]         Render markup to HTML\n",
  "  parse [FILE]          Show how markup is read, as JSON\n",
  "  tags                  List the tags and how to write them\n",
  "  help [COMMAND]        Show this text\n",
  "\n",
  "Options:\n",
  "  --config FILE         Read the configuration from a file\n",
  "  --library NAME        Load this tag library instead of the configured ones (repeatable)\n",
  "  --template-dir DIR    Look for templates in this directory too (repeatable)\n",
  "  -v, --verbose         Say more\n",
  "  -h, --help            Show this text\n",
  "  -V, --version         Show the version\n"]

def run (args : List String) (stdin : ByteArray) (files : Files) : Outcome :=
  match Request.ofArgs args with
  | .run command options =>
    match perform command options stdin files with
    | .ok stdout => .success stdout
    | .error report => .failure report
  | .version => .success versionText
  | .help => .success helpText
  | .misuse => ⟨2, "", none⟩

end CommandLine
end BracketMark
