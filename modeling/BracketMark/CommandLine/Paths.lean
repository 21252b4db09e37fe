import BracketMark.CommandLine.Run

/-!
# The files of a command line

Which paths a request may ask for.  The ones it names are known from its words; where
templates are looked for is known once the configuration has been read.
-/

namespace BracketMark
namespace CommandLine

open File Template

/-- The file that a command reads. -/
def Command.file? : Command → Option String
  | .render file => file
  | .parse file => file
  | .tags => none

/-- The files that a request names. -/
def Request.namedPaths : Request → List String
  | .run command options => options.config.toList ++ command.file?.toList
  | _ => []

/-- Where a directory may hold the templates of the built-in tags, and the directory. -/
def templatePathsIn (dir : String) : List String :=
  dir :: builtinSources.map fun p => Shelf.filePath dir p.1

/-- Where a request looks for templates, given the files that it names. -/
def Request.templatePaths (files : Files) : Request → List String
  | .run _ options =>
    match loadConfig options files with
    | .ok config => config.templateDirs.flatMap templatePathsIn
    | .error _ => []
  | _ => []

def Request.readsStdin : Request → Bool
  | .run (.render none) _ => true
  | .run (.parse none) _ => true
  | _ => false

end CommandLine
end BracketMark
