import BracketMark.Document.Tree
import BracketMark.Template.Store

/-!
# Rendering documents

A literal is escaped and its line breaks are kept; a block is its children one after
another.  A tag opens a frame, renders its contents inside it, binds the result and its
arguments, runs its hook, and then renders its template against all that is bound.  The
frame is closed whatever happens inside it, so a context is the same after rendering as
before, also when rendering fails.
-/

namespace BracketMark
namespace Document

open Html Tag Template

/-- What rendering may change: the context, the templates kept, the world of the template
    source, and the notes of hooks, the last one first. -/
structure Stage (lang : Language) (σ : Type) where
  context : Context
  store : Store lang
  world : σ
  notes : List Note

/-- What renders: it may fail, and it leaves a stage behind in either case. -/
abbrev RenderM (lang : Language) (σ : Type) := ExceptT RenderError (StateM (Stage lang σ))

variable {lang : Language} {σ : Type}

def onContext (f : Context → Context) : RenderM lang σ Unit :=
  modify fun stage => { stage with context := f stage.context }

/-- Remove a name from the innermost frame, with what it was bound to there. -/
def unbind (key : String) : RenderM lang σ (Option Value) :=
  modifyGet fun stage =>
    let (removed, context) := stage.context.remove key
    (removed, { stage with context := context })

/-- An action inside a frame of its own, which is closed when the action ends or fails. -/
def inFrame {α : Type} (action : RenderM lang σ α) : RenderM lang σ α :=
  ExceptT.mk fun stage =>
    let (result, stage) := action.run { stage with context := stage.context.push }
    (result, { stage with context := stage.context.pop })

/-- The names that rendering binds itself; keyword arguments do not reach them. -/
def reservedKeys : List String := ["contents", "arg"]

/-- The bindings of a tag's arguments. -/
def bindArguments : Arguments → Context → Context
  | .none, context => context
  | .positional arg, context => context.insert "arg" (.text arg)
  | .keywords kwargs, context =>
    kwargs.toList.foldl
      (fun context p =>
        if reservedKeys.contains p.1 then context else context.insert p.1 (.text p.2))
      context

/-- A hook's script, action by action. -/
def runScript : Script → RenderM lang σ Unit
  | .done => pure ()
  | .refuse error => throw error
  | .bind key value next => do
    onContext (·.insert key value)
    runScript next
  | .unbind key next => do
    runScript (next (← unbind key))
  | .look key next => do
    runScript (next ((← get).context.get? key))
  | .flatten next => do
    runScript (next (← get).context.flatten)
  | .depth next => do
    runScript (next (← get).context.depth)
  | .note note next => do
    modify fun stage => { stage with notes := note :: stage.notes }
    runScript next

/-- An action on the templates kept and on the world of their source. -/
def onTemplates {α : Type}
    (action : Store lang → σ → Except RenderError α × Store lang × σ) : RenderM lang σ α :=
  ExceptT.mk fun stage =>
    let (result, store, world) := action stage.store stage.world
    (result, { stage with store := store, world := world })

def fetchTemplate (source : Source σ) (name : String) : RenderM lang σ lang.Compiled :=
  onTemplates (Store.fetch source name)

/-- Whether there is a template of a name that compiles.  If so, it is kept. -/
def hasTemplate (source : Source σ) (name : String) : StateM (Stage lang σ) Bool := do
  return (← (fetchTemplate source name).run).isOk

/-- A template against all that is bound. -/
def renderTemplate (source : Source σ) (name : String) : RenderM lang σ Safe := do
  let frame := (← get).context.flatten
  onTemplates (Store.follow source (lang.applyNamed name frame))

/-- What a hook is told of a tag. -/
def occurrence (definition : Definition) (args : Arguments) (contents : Tree) : Occurrence :=
  ⟨definition.profile, args, contents.view⟩

mutual

def Tree.render (source : Source σ) : Tree → RenderM lang σ Safe
  | .literal text => pure (Html.literal text)
  | .block children => do return Safe.join (← renderAll source children)
  | .tag definition args contents =>
    inFrame do
      -- the contents come first, so that nothing bound below reaches them
      let html ← contents.render source
      onContext (·.insert "contents" (.safe html))
      onContext (bindArguments args)
      if let some hook := definition.hook? then
        runScript (hook (occurrence definition args contents))
      renderTemplate source definition.template

def renderAll (source : Source σ) : List Tree → RenderM lang σ (List Safe)
  | [] => pure []
  | tree :: trees => do
    let html ← tree.render source
    let rest ← renderAll source trees
    return html :: rest

end

end Document
end BracketMark
