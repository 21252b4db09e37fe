import BracketMark.Config
import BracketMark.Document.Build
import BracketMark.Document.Render
import BracketMark.Template.Shelf

/-!
# Engines

An engine turns markup into HTML: it compiles with a registry and renders with a shelf of
templates.  It keeps what it has loaded, so it is a value that each use gives back anew.
-/

namespace BracketMark

open Document File Tag Template

/-- Why markup gave no HTML. -/
inductive Error where
  | build (error : BuildError)
  | render (error : RenderError)
  deriving DecidableEq, Repr

def Error.message : Error → String
  | .build error => error.message
  | .render error => error.message

/-- A shelf as a template source in the world of a file system. -/
def shelfSource (shelf : Shelf) : Source Files :=
  fun name files => (shelf.load files name, files)

/-- A compiler and a renderer. -/
structure Engine where
  registry : Registry
  shelf : Shelf
  store : Store .standard

namespace Engine

/-- The engine of the built-in libraries and templates. -/
def standard : Engine := ⟨.builtin, .standard, .empty⟩

/-- The engine of a configuration, its library identifiers resolved in a catalog.  Every
    template directory has to be one now. -/
def ofConfig (config : Config) (catalog : Catalog) (files : Files) : Except ConfigError Engine :=
  match config.templateDirs.find? (fun dir => !files.isDirectory dir) with
  | some dir => .error (.noTemplateDirectory dir)
  | none =>
    .ok ⟨.new catalog config.tagLibraries, { Shelf.standard with dirs := config.templateDirs },
      .empty⟩

def compile (engine : Engine) (markup : String) : Except BuildError Tree × Engine :=
  let (result, registry) := (Document.compile (bracketParser Markup.defaultLimit) markup).run
    engine.registry
  (result, { engine with registry := registry })

/-- The HTML of a tree, in a context of its own. -/
def renderTree (engine : Engine) (files : Files) (tree : Tree) :
    Except RenderError Html.Safe × Engine :=
  let (result, stage) := (tree.render (shelfSource engine.shelf)).run
    ⟨.empty, engine.store, files, []⟩
  (result, { engine with store := stage.store })

def render (engine : Engine) (files : Files) (markup : String) :
    Except Error Html.Safe × Engine :=
  match engine.compile markup with
  | (.error e, engine) => (.error (.build e), engine)
  | (.ok tree, engine) =>
    match engine.renderTree files tree with
    | (.error e, engine) => (.error (.render e), engine)
    | (.ok html, engine) => (.ok html, engine)

end Engine

/-- A file system with nothing in it. -/
def noFiles : Files := ⟨fun _ => false, fun _ => false, fun _ => .error .notFound⟩

/-- The HTML of markup with the built-in libraries and templates. -/
def toHtml (markup : String) : Except Error Html.Safe :=
  (Engine.standard.render noFiles markup).1

end BracketMark
