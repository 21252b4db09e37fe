import BracketMark.Dict
import BracketMark.Template.Value

/-!
# Contexts

The names a template may use, as a stack of frames.  A look-up goes from the innermost
frame outwards, so an inner binding hides an outer one of the same name without destroying
it.  Bindings are made and removed in the innermost frame only.  The outermost frame is the
caller's; a context is never without it.
-/

namespace BracketMark

open Template

/-- The bindings of one scope. -/
abbrev Frame := Dict Value

/-- A stack of frames that is never empty. -/
structure Context where
  /-- The innermost frame. -/
  top : Frame
  /-- The frames around it, from the inside out. -/
  below : List Frame

namespace Context

/-- The context with the caller's bindings and nothing else. -/
def ofFrame (base : Frame) : Context := ⟨base, []⟩

def empty : Context := ofFrame .empty

instance : Inhabited Context := ⟨empty⟩

def push (ctx : Context) : Context := ⟨.empty, ctx.top :: ctx.below⟩

/-- The context without its innermost frame; the caller's frame stays. -/
def pop (ctx : Context) : Context :=
  match ctx.below with
  | [] => ctx
  | frame :: below => ⟨frame, below⟩

def depth (ctx : Context) : Nat := ctx.below.length + 1

def insert (ctx : Context) (key : String) (value : Value) : Context :=
  { ctx with top := ctx.top.insert key value }

/-- What the innermost frame binds a name to, and the context without that binding; an outer
    one shows again. -/
def remove (ctx : Context) (key : String) : Option Value × Context :=
  (ctx.top.get? key, { ctx with top := ctx.top.erase key })

/-- The value a name stands for, from the innermost frame outwards. -/
def get? (ctx : Context) (key : String) : Option Value :=
  (ctx.top :: ctx.below).findSome? (·.get? key)

/-- All bindings that show, as one frame. -/
def flatten (ctx : Context) : Frame :=
  (ctx.top :: ctx.below).foldr (fun inner outer => outer.overlay inner) .empty

@[simp] theorem pop_push (ctx : Context) : ctx.push.pop = ctx := rfl

@[simp] theorem depth_push (ctx : Context) : ctx.push.depth = ctx.depth + 1 := rfl

end Context
end BracketMark
