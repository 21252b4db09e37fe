import BracketMark.Template.Shelf
import BracketMark.Template.Store
import BracketMark.Proofs.Template.Source

/-!
# What the built-in templates read as

Each of the nine templates is well formed, and this is what it consists of.  The shelf with
the built-in templates finds them whatever files there are, since it asks for none.
-/

namespace BracketMark
namespace Template

/-! ## The parts of each template -/

/-- The contents inside an element. -/
def wrapperParts (element : String) : List Part :=
  [.text ("<" ++ element ++ ">"), .print (.name "contents"), .text ("</" ++ element ++ ">")]

/-- The contents between two texts, with what a name stands for at the end of the first; the
    contents alone if the name is not bound. -/
def markedParts (name start stop : String) : List Part :=
  [.choose (.name name)
    [.text start, .print (.name name), .text "\">", .print (.name "contents"), .text stop]
    [.print (.name "contents")]]

/-- The contents in a colour, if there is one. -/
def colorParts : List Part := markedParts "color" "<span style=\"color: " "</span>"

/-- The contents as a link, if there is a target. -/
def linkParts : List Part := markedParts "href" "<a href=\"" "</a>"

/-- An attribute of an image, if its name is bound. -/
def attributePart (name : String) : Part :=
  .choose (.name name) [.text (" " ++ name ++ "=\""), .print (.name name), .text "\""] []

/-- An image, if there is a source. -/
def imageParts : List Part :=
  [.choose (.name "src")
    [.text "<img src=\"", .print (.name "src"), .text "\"", attributePart "alt",
      attributePart "width", attributePart "height", .text ">"]
    []]

/-- A quotation, with its author if there is one. -/
def quotationParts : List Part :=
  [.text "<blockquote>",
    .choose (.name "arg") [.text "<cite>", .print (.name "arg"), .text "</cite>"] [],
    .print (.name "contents"), .text "</blockquote>"]

/-! ## Reading them -/

theorem toList_hole (name : String) : (hole name).toList = Chunk.spell (.print [.name name]) := by
  simp [hole, Chunk.spell, spellWords, Word.spell]

theorem toList_whenBound (name source : String) :
    (whenBound name source).toList = Chunk.spell (.tag [.name "if", .name name]) ++
      source.toList ++ Chunk.spell (.tag [.name "endif"]) := by
  simp [whenBound, Chunk.spell, spellWords, Word.spell]

theorem toList_whenBoundElse (name source other : String) :
    (whenBoundElse name source other).toList = Chunk.spell (.tag [.name "if", .name name]) ++
      source.toList ++ Chunk.spell (.tag [.name "else"]) ++ other.toList ++
        Chunk.spell (.tag [.name "endif"]) := by
  simp [whenBoundElse, Chunk.spell, spellWords, Word.spell]

def wrapperChunks (element : String) : List Chunk :=
  [.text ("<" ++ element ++ ">"), .print [.name "contents"], .text ("</" ++ element ++ ">")]

theorem read_wrapper {name element : String} (h : areSpelled (wrapperChunks element) = true) :
    read name (wrapper element) = some ⟨escapes name, wrapperParts element⟩ := by
  refine read_of_spelled (c := '>') ?_ h rfl ?_ (by decide) rfl
  · simp [wrapper, wrapperChunks, toList_hole, spell, Chunk.spell]
  · show ("</" ++ element ++ ">").toList.getLast? = some '>'
    rw [String.toList_append]
    exact List.getLast?_concat

/-- A text with what a name stands for at its end, and the contents, as chunks. -/
def markedChunks (name start stop : String) : List Chunk :=
  [.tag [.name "if", .name name], .text start, .print [.name name], .text "\">",
    .print [.name "contents"], .text stop, .tag [.name "else"], .print [.name "contents"],
    .tag [.name "endif"]]

theorem read_marked {name key start stop : String}
    (h : areSpelled (markedChunks key start stop) = true)
    (hparts : readParts (markedChunks key start stop) = some (markedParts key start stop)) :
    read name (whenBoundElse key
      (start ++ hole key ++ "\">" ++ hole "contents" ++ stop) (hole "contents") ++ "\n") =
        some ⟨escapes name, markedParts key start stop⟩ := by
  refine read_of_spelled (c := '\x7d') ?_ h rfl rfl (by decide) hparts
  simp only [String.toList_append, toList_whenBoundElse, toList_hole, spell, markedChunks,
    List.flatMap_cons, List.flatMap_nil, List.append_assoc, List.append_nil, Chunk.spell]
  rfl

def attributeChunks (name : String) : List Chunk :=
  [.tag [.name "if", .name name], .text (" " ++ name ++ "=\""), .print [.name name], .text "\"",
    .tag [.name "endif"]]

def imageChunks : List Chunk :=
  [.tag [.name "if", .name "src"], .text "<img src=\"", .print [.name "src"], .text "\""] ++
    attributeChunks "alt" ++ attributeChunks "width" ++ attributeChunks "height" ++
    [.text ">", .tag [.name "endif"]]

theorem read_image (name : String) :
    read name (whenBound "src"
      ("<img src=\"" ++ hole "src" ++ "\"" ++
        whenBound "alt" (" alt=\"" ++ hole "alt" ++ "\"") ++
        whenBound "width" (" width=\"" ++ hole "width" ++ "\"") ++
        whenBound "height" (" height=\"" ++ hole "height" ++ "\"") ++ ">") ++ "\n") =
      some ⟨escapes name, imageParts⟩ := by
  have hcs : areSpelled imageChunks = true := by decide
  refine read_of_spelled (c := '\x7d') ?_ hcs rfl (by decide) (by decide) rfl
  simp only [String.toList_append, toList_whenBound, toList_hole, spell, imageChunks,
    attributeChunks, List.flatMap_append, List.flatMap_cons, List.flatMap_nil, List.append_assoc,
    List.append_nil, Chunk.spell]
  rfl

def quotationChunks : List Chunk :=
  [.text "<blockquote>", .tag [.name "if", .name "arg"], .text "<cite>", .print [.name "arg"],
    .text "</cite>", .tag [.name "endif"], .print [.name "contents"], .text "</blockquote>"]

theorem read_quotation (name : String) :
    read name ("<blockquote>" ++ whenBound "arg" ("<cite>" ++ hole "arg" ++ "</cite>") ++
      hole "contents" ++ "</blockquote>\n") = some ⟨escapes name, quotationParts⟩ := by
  have hcs : areSpelled quotationChunks = true := by decide
  refine read_of_spelled (c := '>') ?_ hcs rfl (by decide) (by decide) rfl
  simp only [String.toList_append, toList_whenBound, toList_hole, spell, quotationChunks,
    List.flatMap_cons, List.flatMap_nil, List.append_assoc, List.append_nil, Chunk.spell]
  rfl

/-! ## Finding them -/

/-- The built-in templates by name, as what they consist of. -/
def builtinParts : List (String × List Part) := [
  ("tags/b.html", wrapperParts "strong"),
  ("tags/i.html", wrapperParts "em"),
  ("tags/u.html", wrapperParts "u"),
  ("tags/s.html", wrapperParts "del"),
  ("tags/code.html", wrapperParts "code"),
  ("tags/color.html", colorParts),
  ("tags/url.html", linkParts),
  ("tags/img.html", imageParts),
  ("tags/quote.html", quotationParts)]

/-- The built-in shelf has no directories, so files do not matter to it. -/
theorem load_standard (files : File.Files) {name : String}
    (h : File.isPlain name.toList = true) :
    Shelf.standard.load files name = .ok ((Dict.ofList builtinSources).get? name) :=
  if_pos h

theorem load_standard_congr (files files' : File.Files) (name : String) :
    Shelf.standard.load files name = Shelf.standard.load files' name := rfl

theorem ofAnswer_standard {files : File.Files} {name source : String} {parts : List Part}
    (hplain : File.isPlain name.toList = true)
    (hsource : builtinSources.reverse.lookup name = some source)
    (hread : read name source = some ⟨escapes name, parts⟩) (hescapes : escapes name = true) :
    Language.standard.ofAnswer name (Shelf.standard.load files name) = .ok ⟨true, parts⟩ := by
  rw [load_standard files hplain, Dict.get?_ofList, hsource, Language.ofAnswer_of_read hread,
    hescapes]

/-- **The built-in templates are found and well formed**, and they escape what they print. -/
theorem ofAnswer_builtin (files : File.Files) {name : String} {parts : List Part}
    (h : (name, parts) ∈ builtinParts) :
    Language.standard.ofAnswer name (Shelf.standard.load files name) = .ok ⟨true, parts⟩ := by
  simp only [builtinParts, List.mem_cons, List.not_mem_nil, or_false, Prod.mk.injEq] at h
  rcases h with ⟨rfl, rfl⟩ | ⟨rfl, rfl⟩ | ⟨rfl, rfl⟩ | ⟨rfl, rfl⟩ | ⟨rfl, rfl⟩ | ⟨rfl, rfl⟩ |
    ⟨rfl, rfl⟩ | ⟨rfl, rfl⟩ | ⟨rfl, rfl⟩
  · exact ofAnswer_standard (by decide) rfl (read_wrapper (by decide)) (by decide)
  · exact ofAnswer_standard (by decide) rfl (read_wrapper (by decide)) (by decide)
  · exact ofAnswer_standard (by decide) rfl (read_wrapper (by decide)) (by decide)
  · exact ofAnswer_standard (by decide) rfl (read_wrapper (by decide)) (by decide)
  · exact ofAnswer_standard (by decide) rfl (read_wrapper (by decide)) (by decide)
  · exact ofAnswer_standard (by decide) rfl (read_marked (by decide) rfl) (by decide)
  · exact ofAnswer_standard (by decide) rfl (read_marked (by decide) rfl) (by decide)
  · exact ofAnswer_standard (by decide) rfl (read_image _) (by decide)
  · exact ofAnswer_standard (by decide) rfl (read_quotation _) (by decide)

end Template
end BracketMark
