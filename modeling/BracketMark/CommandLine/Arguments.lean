/-!
# The command line

What the words of a command line ask for.  Options may stand before the command and after
it; where both places give the same option, the one after the command counts.  Whatever is
not understood makes the whole line a misuse.
-/

namespace BracketMark
namespace CommandLine

/-- What the program is asked to do. -/
inductive Command where
  /-- Render markup, from a file or else from standard input. -/
  | render (file : Option String)
  /-- Show how markup is read. -/
  | parse (file : Option String)
  /-- List the tags. -/
  | tags
  deriving DecidableEq, Repr

/-- The options given in one place. -/
structure Options where
  config : Option String
  libraries : List String
  templateDirs : List String
  deriving DecidableEq, Repr

def Options.none : Options := ⟨Option.none, [], []⟩

/-- Options with others that were given later and count more. -/
def Options.override (outer inner : Options) : Options where
  config := inner.config.or outer.config
  libraries := if inner.libraries.isEmpty then outer.libraries else inner.libraries
  templateDirs := if inner.templateDirs.isEmpty then outer.templateDirs else inner.templateDirs

/-- What a command line asks for. -/
inductive Request where
  | run (command : Command) (options : Options)
  | version
  | help
  | misuse
  deriving DecidableEq, Repr

/-- The form of a word on the command line. -/
inductive Form where
  /-- `--`: only plain words follow. -/
  | divider
  /-- `--name` or `--name=value` -/
  | long (name : String) (value : Option String)
  /-- `-abc`, several flags at once -/
  | short (flags : List Char)
  | word (word : String)
  deriving DecidableEq, Repr

/-- The form of a word.  A hyphen alone is a plain word. -/
def Form.of (arg : String) : Form :=
  match arg.toList with
  | ['-', '-'] => .divider
  | '-' :: '-' :: cs =>
    let name := String.ofList (cs.takeWhile (· != '='))
    match cs.dropWhile (· != '=') with
    | [] => .long name none
    | _ :: value => .long name (some (String.ofList value))
  | '-' :: c :: cs => .short (c :: cs)
  | _ => .word arg

/-- A command line read so far. -/
structure Draft where
  /-- The options before the command. -/
  outer : Options
  command : Option Command
  /-- The options after it. -/
  inner : Options

namespace Draft

/-- Options with one more; none if it may not be given, or not again. -/
def addTo (options : Options) (name value : String) : Option Options :=
  match name with
  | "config" =>
    if value = "" || options.config.isSome then none else some { options with config := some value }
  | "library" => some { options with libraries := options.libraries ++ [value] }
  | "template-dir" =>
    if value = "" then none
    else some { options with templateDirs := options.templateDirs ++ [value] }
  | _ => none

/-- One more option with a value. -/
def option (draft : Draft) (name value : String) : Option Draft :=
  match draft.command with
  | none => (addTo draft.outer name value).map fun outer => { draft with outer := outer }
  | some _ => (addTo draft.inner name value).map fun inner => { draft with inner := inner }

/-- A file for a command that takes one and has none yet. -/
def file (draft : Draft) (path : String) : Option Draft :=
  if path = "" then none
  else match draft.command with
    | some (.render none) => some { draft with command := some (.render (some path)) }
    | some (.parse none) => some { draft with command := some (.parse (some path)) }
    | _ => none

/-- The command of a name. -/
def command? : String → Option Command
  | "render" => some (.render none)
  | "parse" => some (.parse none)
  | "tags" => some .tags
  | _ => none

/-- Plain words only, after a divider. -/
def readWords (draft : Draft) : List String → Option Draft
  | [] => some draft
  | word :: words => (draft.file word).bind (·.readWords words)

/-- What the words make in the end. -/
def finish (draft : Draft) : Request :=
  match draft.command with
  | some command => .run command (draft.outer.override draft.inner)
  | none => .misuse

/-- What a run of flags asks for before the rest is looked at, if anything. -/
def flags (draft : Draft) : List Char → Option Request
  | [] => none
  | 'v' :: rest => draft.flags rest
  | 'h' :: _ => some .help
  | 'V' :: _ => if draft.command.isNone then some .version else some .misuse
  | _ :: _ => some .misuse

/-- Help is given on the whole program, on a command, or on help itself. -/
def helpOn : List String → Request
  | [] => .help
  | [topic] => if topic = "help" || (command? topic).isSome then .help else .misuse
  | _ => .misuse

/-- Read the words of a command line. -/
def read (draft : Draft) : List String → Request
  | [] => draft.finish
  | arg :: args =>
    match Form.of arg with
    | .divider =>
      match draft.readWords args with
      | some draft => draft.finish
      | none => .misuse
    | .long name (some value) =>
      match draft.option name value with
      | some draft => draft.read args
      | none => .misuse
    | .long "verbose" none => draft.read args
    | .long "help" none => .help
    | .long "version" none => if draft.command.isNone then .version else .misuse
    | .long name none =>
      match args with
      | [] => .misuse
      | value :: args =>
        match Form.of value, draft.option name value with
        | .word _, some draft => draft.read args
        | _, _ => .misuse
    | .short cs => (draft.flags cs).getD (draft.read args)
    | .word word =>
      match draft.command with
      | none =>
        if word = "help" then helpOn args
        else match command? word with
          | some command => read { draft with command := some command } args
          | none => .misuse
      | some _ =>
        match draft.file word with
        | some draft => draft.read args
        | none => .misuse

end Draft

def Request.ofArgs (args : List String) : Request :=
  Draft.read ⟨.none, none, .none⟩ args

end CommandLine
end BracketMark
