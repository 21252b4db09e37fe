import BracketMark.Tag.Formatting
import BracketMark.Tag.Links
import BracketMark.Tag.Quotation

/-!
# The tag registry

A registry answers tag names from the libraries it is configured with.  Libraries come from
a catalog of loaders.  They are loaded when a name is first needed, all at once and in the
configured order; a tag exported again by a later library replaces the earlier one, and a
library listed twice is loaded once.  A load that fails leaves the registry unloaded, and
the next need starts it again from the first library; once it has succeeded no loader is
called any more.

A loader may answer differently each time it is called.  What it answers is a function of
how often it was called before, which the registry reads off the record of its calls.
-/

namespace BracketMark
namespace Tag

open Text

/-- Produces a library, given how often it did before. -/
abbrev Loader := Nat → Except BuildError Library

/-- Loaders by the identifiers of their libraries. -/
abbrev Catalog := Dict Loader

/-- The libraries that come with the program. -/
def Catalog.builtin : Catalog :=
  Dict.ofList [
    ("text", fun _ => .ok Formatting.library),
    ("hrefs", fun _ => .ok Links.library),
    ("quote", fun _ => .ok Quotation.library)]

/-- The libraries loaded when none are configured. -/
def defaultLibraries : List String := ["text", "hrefs", "quote"]

abbrev Index := Dict Definition

/-- The index with the exports of one more library. -/
def Index.addLibrary (index : Index) (library : Library) : Index :=
  library.exports.foldl (fun index definition => index.insert definition.name definition) index

/-- The first occurrences in a list, in order. -/
def firsts : List String → List String
  | [] => []
  | x :: xs => x :: (firsts xs).filter (· != x)

structure Registry where
  catalog : Catalog
  /-- The identifiers of the configured libraries, in load order. -/
  libraries : List String
  /-- The definitions, once they are loaded. -/
  index : Option Index
  /-- The identifiers whose loaders were called, in order. -/
  calls : List String

namespace Registry

def new (catalog : Catalog) (libraries : List String) : Registry :=
  ⟨catalog, libraries, none, []⟩

/-- The registry of the built-in libraries. -/
def builtin : Registry := new .builtin defaultLibraries

def isLoaded (registry : Registry) : Bool := registry.index.isSome

end Registry

/-- What works with a registry: it may fail, and it may have to load the libraries. -/
abbrev RegistryM := ExceptT BuildError (StateM Registry)

namespace Registry

/-- The library of an identifier, from its loader. -/
def callLoader (id : String) : RegistryM Library := do
  let registry ← get
  match registry.catalog.get? id with
  | none => throw (.unknownLibrary id)
  | some loader =>
    set { registry with calls := registry.calls ++ [id] }
    match loader (registry.calls.count id) with
    | .ok library => pure library
    | .error e => throw e

/-- The index with the libraries of the identifiers, in order; the first that cannot be
    loaded ends it. -/
def loadAll : List String → Index → RegistryM Index
  | [], index => pure index
  | id :: ids, index => do
    let library ← callLoader id
    loadAll ids (index.addLibrary library)

/-- The definitions by name, loaded now if they have not been. -/
def ensureLoaded : RegistryM Index := do
  let registry ← get
  match registry.index with
  | some index => pure index
  | none =>
    let index ← loadAll (firsts registry.libraries) .empty
    modify fun registry => { registry with index := some index }
    pure index

/-- The definition of a tag, whatever the case of its name. -/
def lookup (name : String) : RegistryM Definition := do
  let index ← ensureLoaded
  match index.get? (foldCase name) with
  | some definition => pure definition
  | none => throw (.unknownTag name)

/-- All definitions, in order of name. -/
def definitions : RegistryM (List Definition) := do
  return (← ensureLoaded).values

end Registry
end Tag
end BracketMark
