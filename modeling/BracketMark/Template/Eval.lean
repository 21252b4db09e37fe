import BracketMark.Error
import BracketMark.Context
import BracketMark.Text.Upper
import BracketMark.Template.Basic
import BracketMark.Template.Function

/-!
# Evaluating templates

A template is evaluated against one frame of bindings.  A name that is not bound stands for
the function of that name, and if there is none it is undefined: it prints nothing and no
condition on it holds, but asking it for a member is an error.  Filters and functions that
do not exist are errors when they are reached.
-/

namespace BracketMark
namespace Template

open Text Html

/-- What a filter makes of a datum.  None if there is no such filter.  The upper-case form of
    safe text counts as safe. -/
def applyFilter (name : String) (datum : Datum) : Option Value :=
  match name with
  | "linebreaksbr" => some (.safe datum.toSafe.lineBreaks)
  | "safe" => some (.safe ⟨datum.toText⟩)
  | "upper" =>
    let capitals := String.ofList (upper datum.toText.toList)
    some (match datum with
      | .value (.safe _) => .safe ⟨capitals⟩
      | _ => .text capitals)
  | _ => none

/-- What a name stands for. -/
def resolve (frame : Frame) (name : String) : Datum :=
  match frame.get? name with
  | some value => .value value
  | none => match Function.ofName? name with
    | some function => .function function
    | none => .undefined

/-- A datum that has to be defined. -/
def defined : Datum → Except RenderError Datum
  | .undefined => .error (.template "undefined value")
  | datum => .ok datum

/-- What a datum makes of arguments. -/
def applyDatum (callee : Datum) (args : List Argument) : Except RenderError Datum :=
  match callee with
  | .undefined => .error (.template "unknown function")
  | .function function =>
    match function.apply? args with
    | some datum => .ok datum
    | none => .error (.operation "invalid operation: unsuitable arguments")
  | _ => .error (.operation "invalid operation: not callable")

mutual

/-- What an expression stands for. -/
def Expr.eval (frame : Frame) : Expr → Except RenderError Datum
  | .name name => .ok (resolve frame name)
  | .literal value => .ok (.value value)
  | .list items => do return .list (← evalItems frame items)
  | .member subject key => do return (← defined (← subject.eval frame)).member key
  | .index subject n => do return (← defined (← subject.eval frame)).index n
  | .filter subject name args => do
    let datum ← subject.eval frame
    let args ← evalArgs frame args
    match applyFilter name datum with
    | none => throw (.template ("unknown filter: filter " ++ name ++ " is unknown"))
    | some value =>
      -- none of the filters takes arguments
      if args.isEmpty then return .value value
      else throw (.operation "too many arguments")
  | .call callee args => do
    let callee ← callee.eval frame
    applyDatum callee (← evalArgs frame args)

def evalItems (frame : Frame) : List Expr → Except RenderError (List Datum)
  | [] => .ok []
  | item :: items => do
    let datum ← item.eval frame
    let data ← evalItems frame items
    return datum :: data

def evalArgs (frame : Frame) : List (Option String × Expr) → Except RenderError (List Argument)
  | [] => .ok []
  | (name, expr) :: rest => do
    let datum ← expr.eval frame
    let args ← evalArgs frame rest
    return (name, datum) :: args

end

/-- How a datum prints. -/
def printDatum (escaping : Bool) (datum : Datum) : String :=
  if escaping then datum.printEscaped else datum.toText

mutual

/-- The text a part gives. -/
def Part.eval (escaping : Bool) (frame : Frame) : Part → Except RenderError String
  | .text text => .ok text
  | .print expr => do return printDatum escaping (← expr.eval frame)
  | .choose test yes no => do
    if (← test.eval frame).isTrue then evalParts escaping frame yes
    else evalParts escaping frame no

/-- The text parts give, one after another. -/
def evalParts (escaping : Bool) (frame : Frame) : List Part → Except RenderError String
  | [] => .ok ""
  | part :: parts => do
    let text ← part.eval escaping frame
    let rest ← evalParts escaping frame parts
    return text ++ rest

end

/-- The text of a template against a frame. -/
def Compiled.eval (template : Compiled) (frame : Frame) : Except RenderError Safe := do
  return ⟨← evalParts template.escaping frame template.parts⟩

end Template
end BracketMark
