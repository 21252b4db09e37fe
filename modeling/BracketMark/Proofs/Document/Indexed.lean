import BracketMark.Document.Build
import BracketMark.Proofs.Tag.Loading

/-!
# Building with an index

Building asks the registry for one thing, its index, and only if there is a tag to look up.  So
what is built is a function of the forest and of an index (`Index.buildNodes`).  A registry that is
loaded answers with its own (`AnswersLoaded`); one that is not is loaded at the first tag, before
anything can fail (`Consults`); and a forest without a tag is built as any index would
(`Ignores`).
-/

namespace BracketMark

open Markup Tag Document

/-! ## Answers of an index -/

namespace Tag

/-- The definition that an index has for a name, whatever the case of it. -/
def Index.lookup (index : Index) (name : String) : Except BuildError Definition :=
  match index.get? (Text.foldCase name) with
  | some definition => .ok definition
  | none => .error (.unknownTag name)

mutual

/-- A node built with the definitions of an index. -/
def Index.buildNode (index : Index) : Node → Except BuildError Tree
  | .literal text => .ok (.literal text)
  | .tagged opening children => do
    let definition ← index.lookup opening.name
    let contents ← index.buildNodes children
    return .tagWith definition (.ofSiblings contents) opening.arg opening.kwargs

def Index.buildNodes (index : Index) : List Node → Except BuildError (List Tree)
  | [] => .ok []
  | node :: nodes => do
    let tree ← index.buildNode node
    let trees ← index.buildNodes nodes
    return tree :: trees

end

def Index.build (index : Index) (forest : Forest) : Except BuildError Tree := do
  return .ofSiblings (← index.buildNodes forest)

/-- The tree of markup, built with the definitions of an index. -/
def Index.compile (index : Index) (parser : Parser) (markup : String) : Except BuildError Tree :=
  match parser markup with
  | some (node :: nodes) => index.build (node :: nodes)
  | _ => .error .empty

/-- `Builds index trees nodes`: with the definitions of the index these trees are built of the
    nodes. -/
inductive Builds (index : Index) : List Tree → List Node → Prop
  | nil : Builds index [] []
  | literal {text : String} {trees : List Tree} {nodes : List Node}
      (hrest : Builds index trees nodes) :
      Builds index (.literal text :: trees) (.literal text :: nodes)
  | tagged {definition : Definition} {opening : Opening} {contents trees : List Tree}
      {children nodes : List Node}
      (hindex : index.get? (Text.foldCase opening.name) = some definition)
      (hchildren : Builds index contents children) (hrest : Builds index trees nodes) :
      Builds index
        (.tagWith definition (.ofSiblings contents) opening.arg opening.kwargs :: trees)
        (.tagged opening children :: nodes)

theorem Index.lookup_eq_ok_iff {index : Index} {name : String} {definition : Definition} :
    index.lookup name = .ok definition ↔ index.get? (Text.foldCase name) = some definition := by
  rw [Index.lookup]
  cases index.get? (Text.foldCase name) <;> simp

mutual

theorem builds_cons {index : Index} {node : Node} {tree : Tree} {nodes : List Node}
    {trees : List Tree} (h : index.buildNode node = .ok tree) (hrest : Builds index trees nodes) :
    Builds index (tree :: trees) (node :: nodes) := by
  match node with
  | .literal text =>
    rw [Index.buildNode] at h
    cases h
    exact .literal hrest
  | .tagged opening children =>
    rw [Index.buildNode] at h
    obtain ⟨definition, hlookup, h⟩ := exists_of_bind_ok h
    obtain ⟨contents, hchildren, h⟩ := exists_of_bind_ok h
    cases h
    exact .tagged (Index.lookup_eq_ok_iff.1 hlookup) (builds_of_buildNodes hchildren) hrest

/-- Nodes that are built are built one by one, whatever is inside them first. -/
theorem builds_of_buildNodes {index : Index} {nodes : List Node} {trees : List Tree}
    (h : index.buildNodes nodes = .ok trees) : Builds index trees nodes := by
  match nodes with
  | [] =>
    rw [Index.buildNodes] at h
    cases h
    exact .nil
  | node :: nodes =>
    rw [Index.buildNodes] at h
    obtain ⟨tree, hnode, h⟩ := exists_of_bind_ok h
    obtain ⟨rest, hnodes, h⟩ := exists_of_bind_ok h
    cases h
    exact builds_cons hnode (builds_of_buildNodes hnodes)

end

end Tag

/-- Whether nodes have a tag among them.  Any deeper one is inside one of these. -/
def Markup.hasTag (nodes : List Node) : Bool :=
  nodes.any (·.opening?.isSome)

/-! ## Registries that are asked -/

namespace Tag
namespace Registry

variable {α β : Type} {action : RegistryM α} {answer : Index → Except BuildError α}
  {next : α → RegistryM β} {more : α → Index → Except BuildError β}

/-- On a registry that is loaded, the action gives this answer to its index and leaves it alone. -/
def AnswersLoaded (action : RegistryM α) (answer : Index → Except BuildError α) : Prop :=
  ∀ registry index, registry.index = some index → action.run registry = (answer index, registry)

/-- The action has the registry loaded if it is not, and then gives this answer to its index. -/
def Consults (action : RegistryM α) (answer : Index → Except BuildError α) : Prop :=
  ∀ registry, action.run registry =
    ((ensureLoaded.run registry).1.bind answer, (ensureLoaded.run registry).2)

/-- The action leaves the registry alone and gives the answer that it gives to any index. -/
def Ignores (action : RegistryM α) (answer : Index → Except BuildError α) : Prop :=
  ∀ registry index, action.run registry = (answer index, registry)

theorem Consults.answersLoaded (h : Consults action answer) : AnswersLoaded action answer := by
  intro registry index hindex
  rw [h registry, run_ensureLoaded_of_index hindex]
  rfl

theorem Ignores.answersLoaded (h : Ignores action answer) : AnswersLoaded action answer :=
  fun registry index _ => h registry index

theorem AnswersLoaded.bind (h : AnswersLoaded action answer)
    (hnext : ∀ a, AnswersLoaded (next a) (more a)) :
    AnswersLoaded (action >>= next) (fun index => answer index >>= (more · index)) := by
  intro registry index hindex
  have hrun := h registry index hindex
  show _ = (answer index >>= (more · index), registry)
  cases hanswer : answer index with
  | error e =>
    rw [hanswer] at hrun
    exact run_bind_error hrun
  | ok a =>
    rw [hanswer] at hrun
    exact (run_bind_ok hrun).trans (hnext a registry index hindex)

theorem answersLoaded_pure (a : α) : AnswersLoaded (pure a) (fun _ => pure a) :=
  fun _ _ _ => rfl

/-- What was loaded is the index from then on. -/
theorem index_of_run_ensureLoaded {registry loaded : Registry} {index : Index}
    (h : ensureLoaded.run registry = (.ok index, loaded)) : loaded.index = some index := by
  cases hindex : registry.index with
  | some old =>
    rw [run_ensureLoaded_of_index hindex] at h
    cases h
    exact hindex
  | none =>
    obtain ⟨made, result, -, hrun⟩ := run_ensureLoaded_of_unloaded hindex
    rw [hrun] at h
    cases result with
    | error e => cases h
    | ok libraries =>
      cases h
      rfl

/-- Once it has consulted the registry, an action may go on with anything that a loaded one
    answers. -/
theorem Consults.bind (h : Consults action answer)
    (hnext : ∀ a, AnswersLoaded (next a) (more a)) :
    Consults (action >>= next) (fun index => answer index >>= (more · index)) := by
  intro registry
  have hrun := h registry
  match hload : ensureLoaded.run registry with
  | (.error e, unloaded) =>
    rw [hload] at hrun
    exact run_bind_error hrun
  | (.ok index, loaded) =>
    rw [hload] at hrun
    have hrun : action.run registry = (answer index, loaded) := hrun
    show _ = (answer index >>= (more · index), loaded)
    cases hanswer : answer index with
    | error e =>
      rw [hanswer] at hrun
      exact run_bind_error hrun
    | ok a =>
      rw [hanswer] at hrun
      exact (run_bind_ok hrun).trans (hnext a loaded index (index_of_run_ensureLoaded hload))

theorem Consults.map (h : Consults action answer) (f : α → β) :
    Consults (do return f (← action)) (fun index => do return f (← answer index)) :=
  h.bind fun a => answersLoaded_pure (f a)

theorem Ignores.map (h : Ignores action answer) (f : α → β) :
    Ignores (do return f (← action)) (fun index => do return f (← answer index)) := by
  intro registry index
  have hrun := h registry index
  show _ = (do return f (← answer index), registry)
  cases hanswer : answer index with
  | error e =>
    rw [hanswer] at hrun
    exact run_bind_error hrun
  | ok a =>
    rw [hanswer] at hrun
    exact run_bind_ok hrun

theorem consults_ensureLoaded : Consults ensureLoaded .ok := by
  intro registry
  cases h : ensureLoaded.run registry with
  | mk result loaded => cases result with
    | error e => rfl
    | ok index => rfl

theorem consults_lookup (name : String) : Consults (lookup name) (·.lookup name) := by
  have hfind (index : Index) : AnswersLoaded (match index.get? (Text.foldCase name) with
      | some definition => pure definition
      | none => throw (.unknownTag name)) fun _ => index.lookup name := by
    intro registry _ _
    rw [Index.lookup]
    cases index.get? (Text.foldCase name) with
    | some definition => rfl
    | none => rfl
  exact consults_ensureLoaded.bind hfind

theorem consults_definitions : Consults definitions (fun index => .ok index.values) :=
  consults_ensureLoaded.map (·.values)

end Registry
end Tag

/-! ## Building -/

namespace Document

open Registry

mutual

theorem answersLoaded_buildNode (node : Node) :
    AnswersLoaded (buildNode node) (·.buildNode node) := by
  match node with
  | .literal text =>
    simp only [buildNode, Index.buildNode]
    exact answersLoaded_pure _
  | .tagged opening children =>
    simp only [buildNode, Index.buildNode]
    exact (consults_lookup opening.name).answersLoaded.bind fun definition =>
      (answersLoaded_buildNodes children).bind fun contents => answersLoaded_pure _

theorem answersLoaded_buildNodes (nodes : List Node) :
    AnswersLoaded (buildNodes nodes) (·.buildNodes nodes) := by
  match nodes with
  | [] =>
    simp only [buildNodes, Index.buildNodes]
    exact answersLoaded_pure _
  | node :: nodes =>
    simp only [buildNodes, Index.buildNodes]
    exact (answersLoaded_buildNode node).bind fun tree =>
      (answersLoaded_buildNodes nodes).bind fun trees => answersLoaded_pure _

end

/-- A tag is looked up before anything inside it. -/
theorem consults_buildNode (opening : Opening) (children : List Node) :
    Consults (buildNode (.tagged opening children)) (·.buildNode (.tagged opening children)) := by
  simp only [buildNode, Index.buildNode]
  exact (consults_lookup opening.name).bind fun definition =>
    (answersLoaded_buildNodes children).bind fun contents => answersLoaded_pure _

/-- **Building nodes with a tag consults the registry**, and so has it loaded. -/
theorem consults_buildNodes {nodes : List Node} (h : hasTag nodes = true) :
    Consults (buildNodes nodes) (·.buildNodes nodes) := by
  induction nodes with
  | nil => cases h
  | cons node nodes ih =>
    simp only [buildNodes, Index.buildNodes]
    cases node with
    | tagged opening children =>
      exact (consults_buildNode opening children).bind fun tree =>
        (answersLoaded_buildNodes nodes).bind fun trees => answersLoaded_pure _
    | literal text =>
      -- a literal asks for nothing
      simp only [buildNode, Index.buildNode]
      exact (ih h).map (Tree.literal text :: ·)

/-- **Building nodes without a tag asks for nothing.** -/
theorem ignores_buildNodes {nodes : List Node} (h : hasTag nodes = false) :
    Ignores (buildNodes nodes) (·.buildNodes nodes) := by
  induction nodes with
  | nil =>
    simp only [buildNodes, Index.buildNodes]
    exact fun registry index => rfl
  | cons node nodes ih =>
    simp only [buildNodes, Index.buildNodes]
    cases node with
    | tagged opening children => cases h
    | literal text =>
      simp only [buildNode, Index.buildNode]
      exact (ih h).map (Tree.literal text :: ·)

theorem consults_build {forest : Forest} (h : hasTag forest = true) :
    Consults (build forest) (·.build forest) :=
  (consults_buildNodes h).map Tree.ofSiblings

theorem ignores_build {forest : Forest} (h : hasTag forest = false) :
    Ignores (build forest) (·.build forest) :=
  (ignores_buildNodes h).map Tree.ofSiblings

theorem consults_compile {parser : Parser} {markup : String}
    (h : (parser markup).any hasTag = true) :
    Consults (compile parser markup) (·.compile parser markup) := by
  simp only [compile, Index.compile]
  cases hnodes : parser markup with
  | none =>
    rw [hnodes] at h
    cases h
  | some forest =>
    rw [hnodes] at h
    cases forest with
    | nil => cases h
    | cons node nodes => exact consults_build h

theorem ignores_compile {parser : Parser} {markup : String}
    (h : (parser markup).any hasTag = false) :
    Ignores (compile parser markup) (·.compile parser markup) := by
  simp only [compile, Index.compile]
  cases hnodes : parser markup with
  | none => exact fun _ _ => rfl
  | some forest =>
    rw [hnodes] at h
    cases forest with
    | nil => exact fun _ _ => rfl
    | cons node nodes => exact ignores_build h

end Document
end BracketMark
