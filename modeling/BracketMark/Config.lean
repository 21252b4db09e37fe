import BracketMark.Error
import BracketMark.File.Path
import BracketMark.File.Files
import BracketMark.Tag.Registry
import BracketMark.Text.Blank
import BracketMark.Yaml.Settings

/-!
# Configuration

Which tag libraries to load and where to look for templates, as YAML settings.  Both may be
left out.  Directories in a configuration file are relative to the directory of the file.
-/

namespace BracketMark

open Text File

/-- What an engine is configured with. -/
structure Config where
  /-- The identifiers of the tag libraries, in load order. -/
  tagLibraries : List String
  /-- The directories that are searched for templates. -/
  templateDirs : List String
  deriving DecidableEq, Repr

namespace Config

/-- The configuration when nothing is configured. -/
def default : Config := ⟨Tag.defaultLibraries, []⟩

instance : Inhabited Config := ⟨default⟩

/-- The configuration that settings make.  A name that is not known, or that is given
    twice, makes none. -/
def ofSettings (settings : Yaml.Settings) : Option Config :=
  let names := settings.map (·.1)
  if names.all (["tag_libraries", "template_dirs"].contains ·) && names.Nodup then
    some ⟨(settings.lookup "tag_libraries").getD default.tagLibraries,
      (settings.lookup "template_dirs").getD default.templateDirs⟩
  else none

/-- The configuration that a text spells; a blank text is the default one. -/
def ofYaml (source : String) : Except ConfigError Config :=
  if blank source then .ok default
  else match (Yaml.readSettings source.toList).bind ofSettings with
    | some config => .ok config
    | none => .error .malformed

/-- A directory named in a configuration file, seen from the directory of the file. -/
def resolveDir (base : List Char) (dir : String) : String :=
  String.ofList (join base dir.toList)

/-- The configuration in a file. -/
def ofFile (files : Files) (path : String) : Except ConfigError Config :=
  match files.readText path with
  | .error fault => .error (.unreadable path fault.message)
  | .ok source => do
    let config ← ofYaml source
    match parent? path.toList with
    | some base => pure { config with templateDirs := config.templateDirs.map (resolveDir base) }
    | none => pure config

end Config
end BracketMark
