import BracketMark.File.Disk
import BracketMark.File.Survey
import BracketMark.Proofs.File.Components

/-!
# Reading files

A file is read as text if its bytes are the UTF-8 of one (`readText_eq_ok_iff`), and fails
otherwise for a known reason (`readText_eq_error_iff`).  Of a file system in general only one
thing is asked, that no regular file has a path that ends in a slash; disks keep to it
(`slashIsNoFile_files`).
-/

namespace BracketMark
namespace File

/-! ## Files as text -/

section

variable {files : Files} {path : String}

/-- `Unreadable files path fault`: why a file cannot be read as text.  The system says so, or it
    gives bytes that are the UTF-8 of no text. -/
inductive Unreadable (files : Files) (path : String) : Fault → Prop
  | refused {fault : Fault} (hread : files.read path = .error fault) : Unreadable files path fault
  | noText {bytes : ByteArray} (hread : files.read path = .ok bytes)
      (hbytes : ∀ text : String, text.toUTF8 ≠ bytes) : Unreadable files path .notText

/-- Only what the system gives for the path matters. -/
theorem Unreadable.congr {other : Files} {fault : Fault} (h : Unreadable files path fault)
    (hread : files.read path = other.read path) : Unreadable other path fault := by
  cases h with
  | refused hrefused => exact .refused (hread ▸ hrefused)
  | noText hbytes hnone => exact .noText (hread ▸ hbytes) hnone

theorem fromUTF8?_eq_some_iff {bytes : ByteArray} {text : String} :
    String.fromUTF8? bytes = some text ↔ text.toUTF8 = bytes := by
  unfold String.fromUTF8?
  split
  case isTrue hvalid =>
    rw [Option.some_inj, ← String.toByteArray_inj]
    exact eq_comm
  case isFalse hvalid =>
    refine ⟨fun h => (nomatch h), ?_⟩
    rintro rfl
    exact absurd text.isValidUTF8 hvalid

theorem decodeText_eq_ok_iff {bytes : ByteArray} {text : String} :
    decodeText bytes = .ok text ↔ text.toUTF8 = bytes := by
  rw [← fromUTF8?_eq_some_iff, decodeText]
  cases String.fromUTF8? bytes with
  | none => simp
  | some other => simp

theorem decodeText_eq_error_iff {bytes : ByteArray} {fault : Fault} :
    decodeText bytes = .error fault ↔ fault = .notText ∧ ∀ text : String, text.toUTF8 ≠ bytes := by
  simp only [ne_eq, ← fromUTF8?_eq_some_iff]
  rw [decodeText]
  cases String.fromUTF8? bytes with
  | none => simp [eq_comm]
  | some other => simp

theorem readText_eq_ok_iff {text : String} :
    files.readText path = .ok text ↔ files.read path = .ok text.toUTF8 := by
  unfold Files.readText
  cases hread : files.read path with
  | error fault => exact ⟨fun h => (nomatch h), fun h => (nomatch h)⟩
  | ok bytes =>
    rw [Except.ok.injEq, @eq_comm _ bytes]
    exact decodeText_eq_ok_iff

theorem readText_eq_error_iff {fault : Fault} :
    files.readText path = .error fault ↔ Unreadable files path fault := by
  constructor
  · intro h
    unfold Files.readText at h
    cases hread : files.read path with
    | error other =>
      rw [hread] at h
      cases h
      exact .refused hread
    | ok bytes =>
      rw [hread] at h
      obtain ⟨rfl, hbytes⟩ := decodeText_eq_error_iff.1 h
      exact .noText hread hbytes
  · intro h
    unfold Files.readText
    cases h with
    | refused hread =>
      rw [hread]
      rfl
    | noText hread hbytes =>
      rw [hread]
      exact decodeText_eq_error_iff.2 ⟨rfl, hbytes⟩

end

/-! ## Paths of files -/

/-- No regular file has the empty path or one that ends in a slash: a slash at the end asks for a
    directory. -/
def SlashIsNoFile (files : Files) : Prop :=
  ∀ path, files.isFile path = true → path ≠ "" ∧ path.toList.getLast? ≠ some '/'

/-- A survey keeps to it if its findings do. -/
theorem slashIsNoFile_survey {findings : List (String × Finding)}
    (h : ∀ p ∈ findings, p.2.isFile = true → p.1 ≠ "" ∧ p.1.toList.getLast? ≠ some '/') :
    SlashIsNoFile (Survey.files (.ofList findings)) := by
  intro path hfile
  change ((Dict.ofList findings).get? path).any (·.isFile) = true at hfile
  rw [Option.any_eq_true] at hfile
  obtain ⟨finding, hget, hisFile⟩ := hfile
  obtain ⟨before, after, rfl, -⟩ := Dict.get?_ofList_eq_some_iff.1 hget
  exact h (path, finding) (List.mem_append_right before List.mem_cons_self) hisFile

/-- Following an empty piece last leads to a directory. -/
theorem entry?_of_follow_concat {disk : Disk} {pieces here there : List (List Char)}
    (h : disk.follow here (pieces ++ [[]]) = .ok there) :
    disk.entry? there.reverse = some .directory := by
  induction pieces generalizing here with
  | nil =>
    rw [List.nil_append, Disk.follow] at h
    split at h
    · cases h
    · cases h
    · next hentry =>
      simp [Disk.byteLength, Disk.follow] at h
      rw [← h, hentry]
  | cons piece pieces ih =>
    rw [List.cons_append, Disk.follow] at h
    split at h
    · cases h
    · cases h
    · split at h
      · cases h
      · split at h
        · exact ih h
        · split at h
          · exact ih h
          · exact ih h

theorem slashIsNoFile_files (disk : Disk) : SlashIsNoFile disk.files := by
  intro path hfile
  have hresolve : ∃ bytes, disk.resolve path = .ok (.file bytes) := by
    simp only [Disk.files] at hfile
    split at hfile
    · next bytes hresolve => exact ⟨bytes, hresolve⟩
    · cases hfile
  obtain ⟨bytes, hresolve⟩ := hresolve
  constructor
  · rintro rfl
    simp [Disk.resolve] at hresolve
  · intro hlast
    obtain ⟨front, hpath⟩ := List.getLast?_eq_some_iff.1 hlast
    have hpieces : splitPath path.toList = front.splitOn '/' ++ [[]] := by
      rw [splitPath_eq_splitOn, hpath, List.splitOn_append_cons_self, List.splitOn_nil]
    unfold Disk.resolve at hresolve
    simp only [hpieces] at hresolve
    split at hresolve
    · cases hresolve
    · split at hresolve
      · cases hresolve
      · split at hresolve
        · cases hresolve
        · split at hresolve
          · cases hresolve
          · next here hfollow =>
            rw [entry?_of_follow_concat hfollow] at hresolve
            cases hresolve

end File
end BracketMark
