import BracketMark.File.Path

/-!
# Components of paths

A path stands for a sequence of components: the root or the current directory if it starts there,
and then what its pieces stand for one by one.  An empty piece and a full stop alone stand for
nothing.  A plain path is one that has only names for components (`isPlain_iff`), so it leads
down and nowhere else: seen from a directory, it has the components of the directory and then
its own (`parts_join`).
-/

namespace BracketMark
namespace File

/-! ## Components -/

/-- A component of a path. -/
inductive Component where
  | root
  /-- The full stop that a path starts with. -/
  | current
  | parent
  | plain (piece : List Char)
  deriving DecidableEq

/-- The component that a piece stands for, wherever it stands. -/
def component? (piece : List Char) : Option Component :=
  if piece = [] ∨ piece = ['.'] then none
  else if piece = ['.', '.'] then some .parent
  else some (.plain piece)

/-- Where a path starts, if it says so. -/
def start (path : List Char) : List Component :=
  if isAbsolute path then [.root]
  else if (path.splitOn '/').head? = some ['.'] then [.current]
  else []

/-- The components of a path. -/
def parts (path : List Char) : List Component :=
  start path ++ (path.splitOn '/').filterMap component?

/-- A piece that names something in a directory. -/
structure IsName (piece : List Char) : Prop where
  not_empty : piece ≠ []
  not_current : piece ≠ ['.']
  not_parent : piece ≠ ['.', '.']
  no_slash : '/' ∉ piece

inductive Component.IsPlain : Component → Prop
  | plain {piece : List Char} (hname : IsName piece) : IsPlain (.plain piece)

/-- All the components are names. -/
def OnlyNames (path : List Char) : Prop :=
  ∀ part ∈ parts path, part.IsPlain

/-- `Below dir path`: the path is written after the directory, and it has the components of the
    directory and then names, one or more. -/
structure Below (dir path : List Char) : Prop where
  written : dir <+: path
  names : ∃ names, parts path = parts dir ++ names ∧ names ≠ [] ∧ ∀ part ∈ names, part.IsPlain

/-! ## Pieces -/

variable {path dir piece : List Char} {part : Component}

theorem splitPath_eq_splitOn (path : List Char) : splitPath path = path.splitOn '/' := by
  induction path with
  | nil => rfl
  | cons c path ih =>
    rw [splitPath, ih, List.splitOn_cons_eq_if_modifyHead]
    by_cases hc : c = '/'
    · simp [hc]
    · cases hpieces : path.splitOn '/' with
      | nil => exact absurd hpieces (List.splitOn_ne_nil '/' path)
      | cons piece pieces => simp [hc]

theorem slash_notMem_of_mem_splitOn (h : piece ∈ path.splitOn '/') : '/' ∉ piece := by
  induction path generalizing piece with
  | nil =>
    rw [List.splitOn_nil, List.mem_singleton] at h
    simp [h]
  | cons c path ih =>
    rw [List.splitOn_cons_eq_if_modifyHead] at h
    split at h
    case isTrue =>
      rcases List.mem_cons.1 h with rfl | h
      · simp
      · exact ih h
    case isFalse hc =>
      cases hpieces : path.splitOn '/' with
      | nil => exact absurd hpieces (List.splitOn_ne_nil '/' path)
      | cons first pieces =>
        rw [hpieces] at h ih
        rcases List.mem_cons.1 h with rfl | h
        · have hfirst := ih List.mem_cons_self
          simp only [beq_iff_eq] at hc
          simp [hfirst, Ne.symm hc]
        · exact ih (List.mem_cons_of_mem first h)

/-- What a piece stands for is nothing, a step up or a name. -/
theorem isPlain_of_component? (hpiece : piece ∈ path.splitOn '/')
    (h : component? piece = some part) : piece = ['.', '.'] ∨ part.IsPlain := by
  unfold component? at h
  split at h
  case isTrue => cases h
  case isFalse hidle =>
    split at h
    case isTrue hup => exact Or.inl hup
    case isFalse hup =>
      cases h
      rw [not_or] at hidle
      exact Or.inr (.plain ⟨hidle.1, hidle.2, hup, slash_notMem_of_mem_splitOn hpiece⟩)

/-! ## Plain paths -/

theorem start_eq_nil_iff :
    start path = [] ↔ isAbsolute path = false ∧ (path.splitOn '/').head? ≠ some ['.'] := by
  unfold start
  split
  case isTrue h => simp [h]
  case isFalse h => simp [h]

theorem start_of_onlyNames (h : OnlyNames path) : start path = [] := by
  have hstart : ∀ part ∈ start path, part.IsPlain := by
    intro part hpart
    exact h part (List.mem_append_left _ hpart)
  unfold start at hstart ⊢
  split
  case isTrue habsolute =>
    rw [if_pos habsolute] at hstart
    cases hstart .root List.mem_cons_self
  case isFalse habsolute =>
    split
    case isTrue hcurrent =>
      rw [if_neg habsolute, if_pos hcurrent] at hstart
      cases hstart .current List.mem_cons_self
    case isFalse => rfl

/-- **Plain paths** are those that have only names for components. -/
theorem isPlain_iff : isPlain path = true ↔ OnlyNames path := by
  have hplain : isPlain path = true ↔ start path = [] ∧ ['.', '.'] ∉ path.splitOn '/' := by
    simp [isPlain, splitPath_eq_splitOn, start_eq_nil_iff]
  rw [hplain]
  constructor
  · intro h part hpart
    rw [parts, h.1, List.nil_append, List.mem_filterMap] at hpart
    obtain ⟨piece, hpiece, hcomponent⟩ := hpart
    rcases isPlain_of_component? hpiece hcomponent with rfl | hname
    · exact absurd hpiece h.2
    · exact hname
  · intro h
    refine ⟨start_of_onlyNames h, fun hup => ?_⟩
    have hparent : .parent ∈ parts path :=
      List.mem_append_right _ (List.mem_filterMap.2 ⟨['.', '.'], hup, rfl⟩)
    cases h .parent hparent

/-! ## Paths in directories -/

theorem isAbsolute_of_onlyNames (h : OnlyNames path) : isAbsolute path = false :=
  (start_eq_nil_iff.1 (start_of_onlyNames h)).1

theorem parts_of_onlyNames (h : OnlyNames path) :
    parts path = (path.splitOn '/').filterMap component? := by
  rw [parts, start_of_onlyNames h, List.nil_append]

/-- Whatever is written after a slash starts where the path before it starts. -/
theorem start_append_slash (front rest : List Char) :
    start (front ++ '/' :: rest) = start (front ++ ['/']) := by
  have habsolute : isAbsolute (front ++ '/' :: rest) = isAbsolute (front ++ ['/']) := by
    cases front with
    | nil => rfl
    | cons c front => rfl
  have hpieces : ((front ++ '/' :: rest).splitOn '/').head? =
      ((front ++ ['/']).splitOn '/').head? := by
    rw [List.splitOn_append_cons_self, List.splitOn_append_cons_self]
    cases hfront : front.splitOn '/' with
    | nil => exact absurd hfront (List.splitOn_ne_nil '/' front)
    | cons piece pieces => rfl
  rw [start, start, habsolute, hpieces]

theorem parts_append_slash (front rest : List Char) :
    parts (front ++ '/' :: rest) =
      parts (front ++ ['/']) ++ (rest.splitOn '/').filterMap component? := by
  rw [parts, parts, start_append_slash, List.splitOn_append_cons_self,
    List.splitOn_append_cons_self]
  simp [List.splitOn_nil, component?]

/-- A slash at the end adds nothing, unless it is the root. -/
theorem parts_slash (hdir : dir ≠ []) : parts (dir ++ ['/']) = parts dir := by
  have habsolute : isAbsolute (dir ++ ['/']) = isAbsolute dir := by
    cases dir with
    | nil => exact absurd rfl hdir
    | cons c cs => rfl
  have hpieces : (dir.splitOn '/' ++ [[]]).head? = (dir.splitOn '/').head? := by
    cases hdir : dir.splitOn '/' with
    | nil => exact absurd hdir (List.splitOn_ne_nil '/' dir)
    | cons piece pieces => rfl
  rw [parts, parts, start, start, habsolute, List.splitOn_append_cons_self, List.splitOn_nil,
    hpieces, List.filterMap_append]
  exact congrArg _ (List.append_nil _)

/-- A plain path seen from a directory: with a slash between, unless there is one or no directory
    at all. -/
theorem join_of_onlyNames (dir : List Char) (h : OnlyNames path) :
    (dir = [] ∧ join dir path = path) ∨
      (∃ front, dir = front ++ ['/'] ∧ join dir path = front ++ '/' :: path) ∨
      (dir ≠ [] ∧ join dir path = dir ++ '/' :: path) := by
  unfold join
  rw [isAbsolute_of_onlyNames h, if_neg Bool.false_ne_true]
  split
  case h_1 hlast => exact Or.inl ⟨List.getLast?_eq_none_iff.1 hlast, rfl⟩
  case h_2 hlast =>
    obtain ⟨front, rfl⟩ := List.getLast?_eq_some_iff.1 hlast
    exact Or.inr (Or.inl ⟨front, rfl, by simp⟩)
  case h_3 last _ hlast =>
    refine Or.inr (Or.inr ⟨?_, rfl⟩)
    rintro rfl
    cases hlast

/-- **A plain path leads down**: seen from a directory, it has the components of the directory and
    then its own. -/
theorem parts_join (h : OnlyNames path) : parts (join dir path) = parts dir ++ parts path := by
  rcases join_of_onlyNames dir h with ⟨rfl, hjoin⟩ | ⟨front, rfl, hjoin⟩ | ⟨hdir, hjoin⟩
  · rw [hjoin]
    rfl
  · rw [hjoin, parts_append_slash, parts_of_onlyNames h]
  · rw [hjoin, parts_append_slash, parts_slash hdir, parts_of_onlyNames h]

theorem prefix_join (h : OnlyNames path) : dir <+: join dir path := by
  rcases join_of_onlyNames dir h with ⟨rfl, hjoin⟩ | ⟨front, rfl, hjoin⟩ | ⟨hdir, hjoin⟩
  · exact List.nil_prefix
  · exact ⟨path, by simp [hjoin]⟩
  · exact ⟨'/' :: path, hjoin.symm⟩

/-- Only the empty path has no components. -/
theorem eq_nil_of_parts (h : parts path = []) : path = [] := by
  obtain ⟨hstart, hpieces⟩ := List.append_eq_nil_iff.1 h
  obtain ⟨habsolute, hcurrent⟩ := start_eq_nil_iff.1 hstart
  cases path with
  | nil => rfl
  | cons c path =>
    have hc : c ≠ '/' := by simpa [isAbsolute] using habsolute
    cases hsplit : path.splitOn '/' with
    | nil => exact absurd hsplit (List.splitOn_ne_nil '/' path)
    | cons piece pieces =>
      have hfirst : (c :: path).splitOn '/' = (c :: piece) :: pieces := by
        simp [List.splitOn_cons_eq_if_modifyHead, hc, hsplit]
      rw [hfirst] at hcurrent hpieces
      have hnone : component? (c :: piece) = none :=
        List.filterMap_eq_nil_iff.1 hpieces _ List.mem_cons_self
      have hnot : ¬(c :: piece = [] ∨ c :: piece = ['.']) := by simpa using hcurrent
      rw [component?, if_neg hnot] at hnone
      split at hnone
      · cases hnone
      · cases hnone

/-- A plain path, if it is not empty, leads to something below the directory it is seen from. -/
theorem below_join (h : OnlyNames path) (hpath : path ≠ []) : Below dir (join dir path) where
  written := prefix_join h
  names := ⟨parts path, parts_join h, fun hparts => hpath (eq_nil_of_parts hparts), h⟩

/-- Seen from a directory, the empty path is empty or ends in a slash. -/
theorem join_nil : join dir [] = [] ∨ (join dir []).getLast? = some '/' := by
  have hnames : OnlyNames [] := by
    intro part hpart
    cases hpart
  rcases join_of_onlyNames dir hnames with ⟨rfl, hjoin⟩ | ⟨front, rfl, hjoin⟩ | ⟨hdir, hjoin⟩
  · exact Or.inl hjoin
  · exact Or.inr (by rw [hjoin, List.getLast?_concat])
  · exact Or.inr (by rw [hjoin, List.getLast?_concat])

end File
end BracketMark
