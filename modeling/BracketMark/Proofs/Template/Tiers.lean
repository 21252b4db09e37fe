import Mathlib.Data.List.Basic
import BracketMark.Engine
import BracketMark.File.Survey
import BracketMark.Proofs.File.Reading

/-!
# The tiers of a shelf

A shelf is set up by what it is given, one supply after the other.  What it has in the end is
told by the supplies alone (`inline_ofSupplies`, `dirs_ofSupplies`, `builtin_ofSupplies`), and what
it answers by them and the files as they are then: `Answers` has one case for each way that a
look for a name can end.  Only a plain name gets as far as the files, and a plain name leads
to files below the directories, so no others matter.
-/

namespace BracketMark
namespace Template

open File

/-! ## Setting up a shelf -/

/-- Something a shelf is given. -/
inductive Supply where
  | inline (name source : String)
  /-- A template directory, and the files at the time it is added. -/
  | directory (files : Files) (dir : String)
  | builtin (entries : List (String × String))

/-- The shelf with one more supply; a directory that is none is turned down. -/
def Shelf.take (shelf : Shelf) : Supply → Shelf
  | .inline name source => shelf.addInline name source
  | .directory files dir =>
    match shelf.addDirectory files dir with
    | .ok next => next
    | .error _ => shelf
  | .builtin entries => entries.foldl (fun shelf entry => shelf.addBuiltin entry.1 entry.2) shelf

/-- The shelf of some supplies, given in this order. -/
def Shelf.ofSupplies (supplies : List Supply) : Shelf :=
  supplies.foldl Shelf.take .empty

/-- The templates that a supply gives as text. -/
def Supply.inlineEntries : Supply → List (String × String)
  | .inline name source => [(name, source)]
  | .directory _ _ => []
  | .builtin _ => []

/-- The directories of a supply that were there when they were added. -/
def Supply.directories : Supply → List String
  | .inline _ _ => []
  | .directory files dir => if files.isDirectory dir then [dir] else []
  | .builtin _ => []

/-- The templates that a supply has for the last tier. -/
def Supply.builtinEntries : Supply → List (String × String)
  | .inline _ _ => []
  | .directory _ _ => []
  | .builtin entries => entries

section

variable (shelf : Shelf) (supply : Supply) (supplies : List Supply)

/-- The dictionary with these pairs in it, the last of each key. -/
def withEntries (d : Dict String) (entries : List (String × String)) : Dict String :=
  entries.foldl (fun d entry => d.insert entry.1 entry.2) d

theorem foldl_addBuiltin (entries : List (String × String)) :
    entries.foldl (fun shelf entry => shelf.addBuiltin entry.1 entry.2) shelf =
      { shelf with builtin := withEntries shelf.builtin entries } := by
  induction entries generalizing shelf with
  | nil => rfl
  | cons entry entries ih =>
    rw [List.foldl_cons, ih]
    rfl

/-- What one supply does to a shelf. -/
theorem Shelf.take_eq : shelf.take supply =
    ⟨withEntries shelf.inline supply.inlineEntries, shelf.dirs ++ supply.directories,
      withEntries shelf.builtin supply.builtinEntries⟩ := by
  cases supply with
  | inline name source =>
    simp [Shelf.take, Shelf.addInline, Supply.inlineEntries, Supply.directories,
      Supply.builtinEntries, withEntries]
  | directory files dir =>
    rw [Shelf.take, Shelf.addDirectory, Supply.directories]
    cases files.isDirectory dir with
    | true => simp [Supply.inlineEntries, Supply.builtinEntries, withEntries]
    | false => simp [Supply.inlineEntries, Supply.builtinEntries, withEntries]
  | builtin entries =>
    rw [Shelf.take, foldl_addBuiltin]
    simp [Supply.inlineEntries, Supply.directories, Supply.builtinEntries, withEntries]

theorem Shelf.foldl_take : supplies.foldl Shelf.take shelf =
    ⟨withEntries shelf.inline (supplies.flatMap Supply.inlineEntries),
      shelf.dirs ++ supplies.flatMap Supply.directories,
      withEntries shelf.builtin (supplies.flatMap Supply.builtinEntries)⟩ := by
  induction supplies generalizing shelf with
  | nil => simp [withEntries]
  | cons supply supplies ih =>
    rw [List.foldl_cons, ih, Shelf.take_eq]
    simp [withEntries, List.foldl_append]

/-- **What is on a shelf**: the last text of each name, the directories in order, and the last
    built-in text of each name. -/
theorem Shelf.ofSupplies_eq : Shelf.ofSupplies supplies =
    ⟨.ofList (supplies.flatMap Supply.inlineEntries), supplies.flatMap Supply.directories,
      .ofList (supplies.flatMap Supply.builtinEntries)⟩ := by
  rw [Shelf.ofSupplies, Shelf.foldl_take]
  rfl

end

/-- The shelf of an engine is set up in the same way. -/
theorem shelf_of_ofConfig {config : Config} {catalog : Tag.Catalog} {files : Files}
    {engine : Engine} (h : Engine.ofConfig config catalog files = .ok engine) :
    engine.shelf = Shelf.ofSupplies
      (.builtin builtinSources :: config.templateDirs.map (.directory files)) := by
  unfold Engine.ofConfig at h
  split at h
  case h_1 => cases h
  case h_2 hfind =>
    cases h
    have hinline (dirs : List String) :
        (dirs.map (Supply.directory files)).flatMap Supply.inlineEntries = [] := by
      simp [Supply.inlineEntries]
    have hbuiltin (dirs : List String) :
        (dirs.map (Supply.directory files)).flatMap Supply.builtinEntries = [] := by
      simp [Supply.builtinEntries]
    have hdirs : (config.templateDirs.map (Supply.directory files)).flatMap Supply.directories =
        config.templateDirs := by
      rw [List.flatMap_map, List.flatMap_congr (g := fun dir => [dir]), List.flatMap_singleton']
      intro dir hdir
      have hnone := List.find?_eq_none.1 hfind dir hdir
      exact if_pos (by simpa using hnone)
    rw [Shelf.ofSupplies_eq, List.flatMap_cons, List.flatMap_cons, List.flatMap_cons, hinline,
      hbuiltin, hdirs, List.append_nil]
    rfl

/-! ## What a shelf answers -/

/-- `LastOf entries name source`: the last entry of the name has this source. -/
def LastOf (entries : List (String × String)) (name source : String) : Prop :=
  ∃ before after, entries = before ++ (name, source) :: after ∧ ∀ later ∈ after, later.1 ≠ name

/-- No entry has the name. -/
def NoneOf (entries : List (String × String)) (name : String) : Prop :=
  ∀ entry ∈ entries, entry.1 ≠ name

instance (entries : List (String × String)) (name : String) : Decidable (NoneOf entries name) :=
  inferInstanceAs (Decidable (∀ entry ∈ entries, entry.1 ≠ name))

/-- `FirstWith files name dirs dir`: the first of the directories that has a regular file of the
    name. -/
def FirstWith (files : Files) (name : String) (dirs : List String) (dir : String) : Prop :=
  files.isFile (Shelf.filePath dir name) = true ∧ ∃ before after, dirs = before ++ dir :: after ∧
    ∀ earlier ∈ before, files.isFile (Shelf.filePath earlier name) = false

/-- None of the directories has a regular file of the name. -/
def NoneWith (files : Files) (name : String) (dirs : List String) : Prop :=
  ∀ dir ∈ dirs, files.isFile (Shelf.filePath dir name) = false

/-- How looking for a name ends: by the texts that were given, the directories, the built-in
    texts, and the files as they are then. -/
inductive Answers (inline : List (String × String)) (dirs : List String)
    (builtin : List (String × String)) (files : Files) (name : String) :
    Except LookupError (Option String) → Prop
  | inline {source : String} (hinline : LastOf inline name source) :
      Answers inline dirs builtin files name (.ok (some source))
  | refused (hinline : NoneOf inline name) (hname : ¬OnlyNames name.toList) :
      Answers inline dirs builtin files name (.error (.badName name))
  | file {dir source : String} (hinline : NoneOf inline name) (hname : OnlyNames name.toList)
      (hdir : FirstWith files name dirs dir)
      (hread : files.read (Shelf.filePath dir name) = .ok source.toUTF8) :
      Answers inline dirs builtin files name (.ok (some source))
  | unreadable {dir : String} {fault : Fault} (hinline : NoneOf inline name)
      (hname : OnlyNames name.toList) (hdir : FirstWith files name dirs dir)
      (hread : Unreadable files (Shelf.filePath dir name) fault) :
      Answers inline dirs builtin files name
        (.error (.unreadable (Shelf.filePath dir name) fault.message))
  | builtin {source : String} (hinline : NoneOf inline name) (hname : OnlyNames name.toList)
      (hdirs : NoneWith files name dirs) (hbuiltin : LastOf builtin name source) :
      Answers inline dirs builtin files name (.ok (some source))
  | unknown (hinline : NoneOf inline name) (hname : OnlyNames name.toList)
      (hdirs : NoneWith files name dirs) (hbuiltin : NoneOf builtin name) :
      Answers inline dirs builtin files name (.ok none)

section

variable {inline builtin : List (String × String)} {dirs : List String} {files : Files}
  {name : String}

/-- The file of a name in a directory, as a template. -/
def fileAnswer (files : Files) (name dir : String) : Except LookupError (Option String) :=
  match files.readText (Shelf.filePath dir name) with
  | .ok source => .ok (some source)
  | .error fault => .error (.unreadable (Shelf.filePath dir name) fault.message)

theorem readFrom_of_firstWith {dir : String} (h : FirstWith files name dirs dir) :
    Shelf.readFrom files name dirs = fileAnswer files name dir := by
  obtain ⟨hfile, before, after, rfl, hbefore⟩ := h
  induction before with
  | nil => exact if_pos hfile
  | cons earlier before ih =>
    have hearlier := hbefore earlier List.mem_cons_self
    rw [List.cons_append, Shelf.readFrom, if_neg (by simp [hearlier])]
    exact ih fun dir hdir => hbefore dir (List.mem_cons_of_mem earlier hdir)

theorem readFrom_of_noneWith (h : NoneWith files name dirs) :
    Shelf.readFrom files name dirs = .ok none := by
  induction dirs with
  | nil => rfl
  | cons dir dirs ih =>
    have hdir := h dir List.mem_cons_self
    rw [Shelf.readFrom, if_neg (by simp [hdir])]
    exact ih fun other hother => h other (List.mem_cons_of_mem dir hother)

/-- A directory has the file first, or none has it. -/
theorem firstWith_or_noneWith (files : Files) (name : String) (dirs : List String) :
    (∃ dir, FirstWith files name dirs dir) ∨ NoneWith files name dirs := by
  cases hfind : dirs.find? fun dir => files.isFile (Shelf.filePath dir name) with
  | some dir =>
    obtain ⟨hfile, before, after, hdirs, hbefore⟩ := List.find?_eq_some_iff_append.1 hfind
    exact Or.inl ⟨dir, hfile, before, after, hdirs, by simpa using hbefore⟩
  | none => exact Or.inr (by simpa [NoneWith] using List.find?_eq_none.1 hfind)

/-- A shelf of these entries and directories. -/
def shelfOf (inline : List (String × String)) (dirs : List String)
    (builtin : List (String × String)) : Shelf :=
  ⟨.ofList inline, dirs, .ofList builtin⟩

theorem load_of_lastOf {source : String} (h : LastOf inline name source) :
    (shelfOf inline dirs builtin).load files name = .ok (some source) := by
  rw [Shelf.load, shelfOf, Dict.get?_ofList_eq_some_iff.2 h]

/-- Past the first tier, a plain name is looked for in the directories. -/
theorem load_of_onlyNames (hinline : NoneOf inline name) (hname : OnlyNames name.toList) :
    (shelfOf inline dirs builtin).load files name =
      match Shelf.readFrom files name dirs with
      | .ok none => .ok ((Dict.ofList builtin).get? name)
      | found => found := by
  rw [Shelf.load, shelfOf, Dict.get?_ofList_eq_none_iff.2 hinline]
  exact if_pos (isPlain_iff.2 hname)

theorem load_of_not_onlyNames (hinline : NoneOf inline name) (hname : ¬OnlyNames name.toList) :
    (shelfOf inline dirs builtin).load files name = .error (.badName name) := by
  rw [Shelf.load, shelfOf, Dict.get?_ofList_eq_none_iff.2 hinline]
  exact if_neg (mt isPlain_iff.1 hname)

theorem load_of_firstWith {dir : String} (hinline : NoneOf inline name)
    (hname : OnlyNames name.toList) (hdir : FirstWith files name dirs dir) :
    (shelfOf inline dirs builtin).load files name = fileAnswer files name dir := by
  rw [load_of_onlyNames hinline hname, readFrom_of_firstWith hdir, fileAnswer]
  cases files.readText (Shelf.filePath dir name) with
  | ok source => rfl
  | error fault => rfl

theorem load_of_noneWith (hinline : NoneOf inline name) (hname : OnlyNames name.toList)
    (hdirs : NoneWith files name dirs) :
    (shelfOf inline dirs builtin).load files name = .ok ((Dict.ofList builtin).get? name) := by
  rw [load_of_onlyNames hinline hname, readFrom_of_noneWith hdirs]

theorem load_of_answers {answer : Except LookupError (Option String)}
    (h : Answers inline dirs builtin files name answer) :
    (shelfOf inline dirs builtin).load files name = answer := by
  cases h with
  | inline hinline => exact load_of_lastOf hinline
  | refused hinline hname => exact load_of_not_onlyNames hinline hname
  | file hinline hname hdir hread =>
    rw [load_of_firstWith hinline hname hdir, fileAnswer, readText_eq_ok_iff.2 hread]
  | unreadable hinline hname hdir hread =>
    rw [load_of_firstWith hinline hname hdir, fileAnswer, readText_eq_error_iff.2 hread]
  | builtin hinline hname hdirs hbuiltin =>
    rw [load_of_noneWith hinline hname hdirs, Dict.get?_ofList_eq_some_iff.2 hbuiltin]
  | unknown hinline hname hdirs hbuiltin =>
    rw [load_of_noneWith hinline hname hdirs, Dict.get?_ofList_eq_none_iff.2 hbuiltin]

/-- Looking for a name ends in one of these ways. -/
theorem exists_answers (inline : List (String × String)) (dirs : List String)
    (builtin : List (String × String)) (files : Files) (name : String) :
    ∃ answer, Answers inline dirs builtin files name answer := by
  cases hinline : (Dict.ofList inline).get? name with
  | some source => exact ⟨_, .inline (Dict.get?_ofList_eq_some_iff.1 hinline)⟩
  | none =>
    have hinline := Dict.get?_ofList_eq_none_iff.1 hinline
    by_cases hname : OnlyNames name.toList
    · rcases firstWith_or_noneWith files name dirs with ⟨dir, hdir⟩ | hdirs
      · cases hread : files.readText (Shelf.filePath dir name) with
        | ok source => exact ⟨_, .file hinline hname hdir (readText_eq_ok_iff.1 hread)⟩
        | error fault => exact ⟨_, .unreadable hinline hname hdir (readText_eq_error_iff.1 hread)⟩
      · cases hbuiltin : (Dict.ofList builtin).get? name with
        | some source =>
          exact ⟨_, .builtin hinline hname hdirs (Dict.get?_ofList_eq_some_iff.1 hbuiltin)⟩
        | none => exact ⟨_, .unknown hinline hname hdirs (Dict.get?_ofList_eq_none_iff.1 hbuiltin)⟩
    · exact ⟨_, .refused hinline hname⟩

theorem load_eq_iff {answer : Except LookupError (Option String)} :
    (shelfOf inline dirs builtin).load files name = answer ↔
      Answers inline dirs builtin files name answer := by
  constructor
  · rintro rfl
    obtain ⟨answer, hanswer⟩ := exists_answers inline dirs builtin files name
    rwa [load_of_answers hanswer]
  · exact load_of_answers

/-! ## Files below the directories -/

theorem below_filePath {dir : String} (hfiles : SlashIsNoFile files)
    (hname : OnlyNames name.toList) (hfile : files.isFile (Shelf.filePath dir name) = true) :
    Below dir.toList (Shelf.filePath dir name).toList := by
  obtain ⟨hpath, hlast⟩ := hfiles _ hfile
  rw [Shelf.filePath, String.toList_ofList] at hlast ⊢
  apply below_join hname
  intro hempty
  rw [hempty] at hlast
  rcases join_nil with hnil | hslash
  · apply hpath
    rw [Shelf.filePath, hempty, hnil]
  · exact hlast hslash

/-- Two file systems are the same below these directories. -/
def SameBelow (dirs : List String) (files other : Files) : Prop :=
  ∀ dir ∈ dirs, ∀ path : String, Below dir.toList path.toList →
    files.isFile path = other.isFile path ∧ files.read path = other.read path

/-- Whether there is a file of a plain name in a directory is the same then. -/
theorem SameBelow.isFile_eq {other : Files} (h : SameBelow dirs files other)
    (hfiles : SlashIsNoFile files) (hother : SlashIsNoFile other)
    (hname : OnlyNames name.toList) {dir : String} (hdir : dir ∈ dirs) :
    files.isFile (Shelf.filePath dir name) = other.isFile (Shelf.filePath dir name) := by
  rw [Bool.eq_iff_iff]
  constructor
  · intro hfile
    rw [← (h dir hdir _ (below_filePath hfiles hname hfile)).1, hfile]
  · intro hfile
    rw [(h dir hdir _ (below_filePath hother hname hfile)).1, hfile]

/-- The file that is found for a name is the same then. -/
theorem SameBelow.firstWith {other : Files} (h : SameBelow dirs files other)
    (hfiles : SlashIsNoFile files) (hother : SlashIsNoFile other)
    (hname : OnlyNames name.toList) {dir : String} (hdir : FirstWith files name dirs dir) :
    FirstWith other name dirs dir ∧
      files.read (Shelf.filePath dir name) = other.read (Shelf.filePath dir name) := by
  obtain ⟨hfile, before, after, rfl, hbefore⟩ := hdir
  have hmem : dir ∈ before ++ dir :: after := List.mem_append_right before List.mem_cons_self
  refine ⟨⟨?_, before, after, rfl, fun earlier hearlier => ?_⟩, ?_⟩
  · rw [← h.isFile_eq hfiles hother hname hmem, hfile]
  · rw [← h.isFile_eq hfiles hother hname (List.mem_append_left _ hearlier),
      hbefore earlier hearlier]
  · exact (h dir hmem _ (below_filePath hfiles hname hfile)).2

theorem SameBelow.noneWith {other : Files} (h : SameBelow dirs files other)
    (hfiles : SlashIsNoFile files) (hother : SlashIsNoFile other)
    (hname : OnlyNames name.toList) (hdirs : NoneWith files name dirs) :
    NoneWith other name dirs := by
  intro dir hdir
  rw [← h.isFile_eq hfiles hother hname hdir, hdirs dir hdir]

/-- **Only the files below the directories matter.** -/
theorem Answers.sameBelow {other : Files} {answer : Except LookupError (Option String)}
    (h : SameBelow dirs files other) (hfiles : SlashIsNoFile files)
    (hother : SlashIsNoFile other) (hanswer : Answers inline dirs builtin files name answer) :
    Answers inline dirs builtin other name answer := by
  cases hanswer with
  | inline hinline => exact .inline hinline
  | refused hinline hname => exact .refused hinline hname
  | file hinline hname hdir hread =>
    obtain ⟨hdir, hsame⟩ := h.firstWith hfiles hother hname hdir
    exact .file hinline hname hdir (hsame ▸ hread)
  | unreadable hinline hname hdir hread =>
    obtain ⟨hdir, hsame⟩ := h.firstWith hfiles hother hname hdir
    exact .unreadable hinline hname hdir (hread.congr hsame)
  | builtin hinline hname hdirs hbuiltin =>
    exact .builtin hinline hname (h.noneWith hfiles hother hname hdirs) hbuiltin
  | unknown hinline hname hdirs hbuiltin =>
    exact .unknown hinline hname (h.noneWith hfiles hother hname hdirs) hbuiltin

/-- `Reads inline dirs files name path`: this is the file that is read for a name. -/
def Reads (inline : List (String × String)) (dirs : List String) (files : Files)
    (name path : String) : Prop :=
  NoneOf inline name ∧ OnlyNames name.toList ∧
    ∃ dir, FirstWith files name dirs dir ∧ path = Shelf.filePath dir name

end

/-- **Looking for a template.**  However a shelf was set up, looking for a name gives the last text
    of the name; without one, a name that is not plain is refused; for any other the first
    directory with a file settles it, and if there is none the last built-in text.  What is read
    is a file below one of the directories, and no other file makes a difference. -/
theorem load_tiered (supplies : List Supply) (files : Files) (name : String) :
    let inline := supplies.flatMap Supply.inlineEntries
    let dirs := supplies.flatMap Supply.directories
    let builtin := supplies.flatMap Supply.builtinEntries
    (∀ answer, (Shelf.ofSupplies supplies).load files name = answer ↔
      Answers inline dirs builtin files name answer) ∧
    (SlashIsNoFile files →
      (∀ path, Reads inline dirs files name path →
        ∃ dir ∈ dirs, Below dir.toList path.toList) ∧
      ∀ other, SlashIsNoFile other → SameBelow dirs files other →
        (Shelf.ofSupplies supplies).load other name =
          (Shelf.ofSupplies supplies).load files name) := by
  intro inline dirs builtin
  have hload (files : Files) (answer : Except LookupError (Option String)) :
      (Shelf.ofSupplies supplies).load files name = answer ↔
        Answers inline dirs builtin files name answer := by
    rw [Shelf.ofSupplies_eq]
    exact load_eq_iff
  refine ⟨hload files, fun hfiles => ⟨?_, ?_⟩⟩
  · rintro path ⟨-, hname, dir, hdir, rfl⟩
    refine ⟨dir, ?_, below_filePath hfiles hname hdir.1⟩
    obtain ⟨-, before, after, hdirs, -⟩ := hdir
    rw [hdirs]
    exact List.mem_append_right before List.mem_cons_self
  · intro other hother hsame
    have hanswers := (hload files _).1 rfl
    exact (hload other _).2 (hanswers.sameBelow hsame hfiles hother)

/-- Two directories, one of them with a template. -/
def siteFindings : List (String × Finding) :=
  [("/site", .directory), ("/shared", .directory), ("/shared/t.html", ⟨false, true, .ok "T".toUTF8⟩)]

/-- A file outside the directories. -/
def outsideFinding : String × Finding := ("/t.html", ⟨false, true, .ok "S".toUTF8⟩)

/-- The template is found behind a directory that does not have it, and before the built-in one; a
    file outside the directories changes nothing. -/
theorem load_tiered_sharedTemplate :
    let files := Survey.files (.ofList siteFindings)
    let other := Survey.files (.ofList (siteFindings ++ [outsideFinding]))
    let supplies := [.builtin [("t.html", "B")], .directory files "/site",
      .directory files "/missing", .directory files "/shared"]
    SlashIsNoFile files ∧ SlashIsNoFile other ∧
      (Shelf.ofSupplies supplies).load files "t.html" = .ok (some "T") ∧
      (∃ dir ∈ supplies.flatMap Supply.directories,
        Below dir.toList "/shared/t.html".toList) ∧
      (Shelf.ofSupplies supplies).load other "t.html" = .ok (some "T") := by
  intro files other supplies
  have hfiles : SlashIsNoFile files := slashIsNoFile_survey (by decide)
  have hother : SlashIsNoFile other := slashIsNoFile_survey (by decide)
  have hdirs : supplies.flatMap Supply.directories = ["/site", "/shared"] := by decide +kernel
  have hname : OnlyNames "t.html".toList := isPlain_iff.1 (by decide +kernel)
  have hfirst : FirstWith files "t.html" (supplies.flatMap Supply.directories) "/shared" := by
    rw [hdirs]
    exact ⟨by decide +kernel, ["/site"], [], rfl, by decide +kernel⟩
  have hsame : SameBelow (supplies.flatMap Supply.directories) files other := by
    rw [hdirs]
    intro dir hdir path hbelow
    have hpath : path ≠ "/t.html" := by
      rintro rfl
      have hnone : ∀ dir ∈ ["/site", "/shared"], ¬dir.toList <+: "/t.html".toList := by decide
      exact hnone dir hdir hbelow.written
    have hget : (Dict.ofList (siteFindings ++ [outsideFinding])).get? path =
        (Dict.ofList siteFindings).get? path := by
      rw [Dict.ofList, List.foldl_append]
      exact (Dict.get?_insert _ _ _ _).trans (if_neg hpath)
    simp only [files, other, Survey.files, hget, and_self]
  obtain ⟨hload, hbelow⟩ := load_tiered supplies files "t.html"
  obtain ⟨hreads, hother'⟩ := hbelow hfiles
  have hloads : (Shelf.ofSupplies supplies).load files "t.html" = .ok (some "T") :=
    (hload _).2 (.file (by decide) hname hfirst rfl)
  exact ⟨hfiles, hother, hloads, hreads _ ⟨by decide, hname, "/shared", hfirst, rfl⟩,
    (hother' other hother hsame).trans hloads⟩

end Template
end BracketMark
