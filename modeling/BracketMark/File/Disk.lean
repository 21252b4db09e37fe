import BracketMark.Dict
import BracketMark.File.Path
import BracketMark.File.Files

/-!
# Disks

A directory tree held in memory.  Its entries are kept under their absolute paths without
empty components, full stops or steps upward.  Every directory is entered: a file has
entries for all the directories it lies in.
-/

namespace BracketMark
namespace File

/-- What stands under a path. -/
inductive Entry where
  | directory
  | file (bytes : ByteArray)

/-- A directory tree and a current directory. -/
structure Disk where
  entries : Dict Entry
  current : List (List Char)

namespace Disk

/-- The absolute path of components. -/
def pathOf (parts : List (List Char)) : String :=
  if parts.isEmpty then "/"
  else String.ofList (parts.flatMap ('/' :: ·))

/-- The entry under components; the root is always a directory. -/
def entry? (disk : Disk) (parts : List (List Char)) : Option Entry :=
  if parts.isEmpty then some .directory else disk.entries.get? (pathOf parts)

def byteLength (cs : List Char) : Nat := (String.ofList cs).utf8ByteSize

/-- Follow pieces of a path from a directory, given by its components in reverse.  Every
    piece but the last is entered, so it has to be a directory; an empty last piece and a
    full stop ask for a directory too. -/
def follow (disk : Disk) : List (List Char) → List (List Char) → Except Fault (List (List Char))
  | here, [] => .ok here
  | here, piece :: pieces =>
    match disk.entry? here.reverse with
    | none => .error .notFound
    | some (.file _) => .error .notDirectory
    | some .directory =>
      if byteLength piece > 255 then .error .nameTooLong
      else if piece = [] ∨ piece = ['.'] then disk.follow here pieces
      else if piece = ['.', '.'] then disk.follow here.tail pieces
      else disk.follow (piece :: here) pieces

def resolve (disk : Disk) (path : String) : Except Fault Entry :=
  let cs := path.toList
  if cs.contains '\x00' then .error .nulInName
  else if cs.isEmpty then .error .notFound
  else if path.utf8ByteSize ≥ 4096 then .error .nameTooLong
  else
    let start := if isAbsolute cs then [] else disk.current.reverse
    match disk.follow start (splitPath cs) with
    | .error fault => .error fault
    | .ok here =>
      match disk.entry? here.reverse with
      | some entry => .ok entry
      | none => .error .notFound

def files (disk : Disk) : Files where
  isDirectory path := match disk.resolve path with
    | .ok .directory => true
    | _ => false
  isFile path := match disk.resolve path with
    | .ok (.file _) => true
    | _ => false
  read path := match disk.resolve path with
    | .ok (.file bytes) => .ok bytes
    | .ok .directory => .error .isDirectory
    | .error fault => .error fault

/-- The disk with a directory and the directories it lies in, from `here` on down. -/
def enterAll (entries : Dict Entry) (here : List (List Char)) : List (List Char) → Dict Entry
  | [] => entries
  | piece :: pieces =>
    enterAll (entries.insert (pathOf (here ++ [piece])) .directory) (here ++ [piece]) pieces

/-- The disk with a directory, and the directories it lies in. -/
def makeDirectory (disk : Disk) (parts : List (List Char)) : Disk :=
  { disk with entries := enterAll disk.entries [] parts }

/-- The disk with a file, and the directories it lies in. -/
def writeFile (disk : Disk) (path : String) (bytes : ByteArray) : Disk :=
  let parts := components path.toList
  let disk := disk.makeDirectory parts.dropLast
  { disk with entries := disk.entries.insert (pathOf parts) (.file bytes) }

/-- The disk without a file, and whether there was one. -/
def removeFile (disk : Disk) (path : String) : Bool × Disk :=
  match disk.resolve path with
  | .ok (.file _) =>
    (true, { disk with entries := disk.entries.erase (pathOf (components path.toList)) })
  | _ => (false, disk)

end Disk
end File
end BracketMark
