import BracketMark.Dict
import BracketMark.File.Files

/-!
# Surveys

What was found on a file system, path by path.  A program that knows beforehand which paths
it may ask for can look at all of them first and then work on the survey alone.
-/

namespace BracketMark
namespace File

/-- What was found under a path. -/
structure Finding where
  isDirectory : Bool
  isFile : Bool
  content : Except Fault ByteArray

def Finding.nothing (fault : Fault) : Finding := ⟨false, false, .error fault⟩

def Finding.directory : Finding := ⟨true, false, .error .isDirectory⟩

/-- Findings by path. -/
abbrev Survey := Dict Finding

/-- The file system as far as it was surveyed; there is nothing elsewhere. -/
def Survey.files (survey : Survey) : Files where
  isDirectory path := (survey.get? path).any (·.isDirectory)
  isFile path := (survey.get? path).any (·.isFile)
  read path := match survey.get? path with
    | some finding => finding.content
    | none => .error .notFound

end File
end BracketMark
