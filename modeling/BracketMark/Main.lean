import BracketMark.CommandLine.Paths
import BracketMark.File.Survey

/-!
# The program

`main` surveys the files that a command line leads to, runs the request against the survey,
and writes what that gives.  What is written, and with which status, is decided by
`CommandLine.run`.
-/

namespace BracketMark
namespace CommandLine

open File

/-- The fault of a system error, by its number, which some systems negate. -/
def numberedFault (code : UInt32) (details : String) : Fault :=
  match min code (0 - code) with
  | 2 => .notFound
  | 13 => .denied
  | 20 => .notDirectory
  | 21 => .isDirectory
  | 36 => .nameTooLong
  | code => .other (details ++ " (os error " ++ toString code ++ ")")

def faultOf : IO.Error → Fault
  | .noFileOrDirectory _ code details => numberedFault code details
  | .inappropriateType _ code details => numberedFault code details
  | .invalidArgument _ code details => numberedFault code details
  | .permissionDenied _ code details => numberedFault code details
  | .resourceExhausted _ code details => numberedFault code details
  | .otherError code details => numberedFault code details
  | .hardwareFault code details => numberedFault code details
  | e => .other (toString e)

def contentOf (path : String) : IO (Except Fault ByteArray) := do
  try
    return .ok (← IO.FS.readBinFile path)
  catch e =>
    return .error (faultOf e)

/-- What the system has under a path. -/
def look (path : String) : IO Finding := do
  if path.contains '\x00' then return .nothing .nulInName
  try
    let place ← IO.FS.realPath path
    if ← place.isDir then return .directory
    return ⟨false, (← place.metadata).type == .file, ← contentOf path⟩
  catch _ =>
    return ⟨false, false, ← contentOf path⟩

/-- What the system has under several paths. -/
def surveyOf (paths : List String) : IO Survey :=
  paths.foldlM (fun survey path => return survey.insert path (← look path)) .empty

def runHere (args : List String) : IO UInt32 := do
  let request := Request.ofArgs args
  let named ← surveyOf request.namedPaths
  let templates ← surveyOf (request.templatePaths (Survey.files named))
  let stdin ← if request.readsStdin then (← IO.getStdin).readBinToEnd else pure .empty
  let outcome := run args stdin (Survey.files (named.overlay templates))
  IO.print outcome.stdout
  if let some report := outcome.report then IO.eprintln ("Error: " ++ report)
  if outcome.code = 2 then IO.eprint helpText
  return outcome.code.toUInt32

end CommandLine
end BracketMark

def main (args : List String) : IO UInt32 :=
  BracketMark.CommandLine.runHere args
