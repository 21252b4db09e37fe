/-!
# Paths

Paths as text.  They are taken apart at slashes and put together again without looking at
any file: `.` and `..` are left where they stand.
-/

namespace BracketMark
namespace File

/-- The pieces between the slashes of a path; there is always at least one. -/
def splitPath : List Char → List (List Char)
  | [] => [[]]
  | c :: cs =>
    if c = '/' then [] :: splitPath cs
    else match splitPath cs with
      | [] => [[c]]
      | piece :: pieces => (c :: piece) :: pieces

/-- The components of a path: its pieces without the empty ones and without full stops
    alone. -/
def components (path : List Char) : List (List Char) :=
  (splitPath path).filter (fun piece => piece ≠ [] ∧ piece ≠ ['.'])

def isAbsolute (path : List Char) : Bool :=
  path.head? == some '/'

/-- Whether every component of a path is plain: it does not start at the root or at the
    current directory, and never goes up. -/
def isPlain (path : List Char) : Bool :=
  !isAbsolute path && (splitPath path).head? != some ['.'] && !(splitPath path).contains ['.', '.']

/-- A path seen from a directory: an absolute one is itself, any other is written after the
    directory, with a slash between unless one is there. -/
def join (dir path : List Char) : List Char :=
  if isAbsolute path then path
  else match dir.getLast? with
    | none => path
    | some '/' => dir ++ path
    | some _ => dir ++ '/' :: path

/-- A path, written backwards, without the slashes and the full stops alone that it ends
    with. -/
def dropIdle : List Char → List Char
  | '.' :: '/' :: rest => dropIdle ('/' :: rest)
  | '/' :: rest => dropIdle rest
  | path => path
termination_by path => path.length

/-- The directory a path lies in, as text; none for the root and for no path at all. -/
def parent? (path : List Char) : Option (List Char) :=
  match dropIdle path.reverse with
  | [] => none
  | c :: cs =>
    match dropIdle ((c :: cs).dropWhile (· != '/')) with
    | [] => some (if isAbsolute path then ['/'] else [])
    | rest => some rest.reverse

end File
end BracketMark
