/-!
# Files

What a program may ask of a file system: whether a path is a directory or a regular file,
and what a file holds.  A `Files` is a file system at one moment; how paths are resolved is
its own business.
-/

namespace BracketMark
namespace File

/-- Why a file cannot be read. -/
inductive Fault where
  | notFound
  | denied
  | notDirectory
  | isDirectory
  | nameTooLong
  | nulInName
  /-- The file can be read, but its bytes are no text. -/
  | notText
  /-- Something else that the system reports. -/
  | other (reason : String)
  deriving DecidableEq, Repr

def Fault.message : Fault → String
  | .notFound => "No such file or directory (os error 2)"
  | .denied => "Permission denied (os error 13)"
  | .notDirectory => "Not a directory (os error 20)"
  | .isDirectory => "Is a directory (os error 21)"
  | .nameTooLong => "File name too long (os error 36)"
  | .nulInName => "file name contained an unexpected NUL byte"
  | .notText => "stream did not contain valid UTF-8"
  | .other reason => reason

/-- A file system at one moment. -/
structure Files where
  isDirectory : String → Bool
  isFile : String → Bool
  read : String → Except Fault ByteArray

/-- The text that bytes are in UTF-8. -/
def decodeText (bytes : ByteArray) : Except Fault String :=
  match String.fromUTF8? bytes with
  | some text => .ok text
  | none => .error .notText

def Files.readText (files : Files) (path : String) : Except Fault String :=
  files.read path >>= decodeText

end File
end BracketMark
