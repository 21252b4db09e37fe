import BracketMark.Template.Reader

/-!
# Built-in templates

The templates of the built-in tags, by name.
-/

namespace BracketMark
namespace Template

/-- A place where a value is printed. -/
def hole (name : String) : String := "\x7b\x7b " ++ name ++ " \x7d\x7d"

/-- A piece of source that counts only if a name holds. -/
def whenBound (name source : String) : String :=
  "\x7b% if " ++ name ++ " %\x7d" ++ source ++ "\x7b% endif %\x7d"

/-- A choice between two pieces of source. -/
def whenBoundElse (name source other : String) : String :=
  "\x7b% if " ++ name ++ " %\x7d" ++ source ++ "\x7b% else %\x7d" ++ other ++ "\x7b% endif %\x7d"

/-- The contents of a tag inside an element. -/
def wrapper (element : String) : String :=
  "<" ++ element ++ ">" ++ hole "contents" ++ "</" ++ element ++ ">\n"

/-- The names and sources of the built-in templates. -/
def builtinSources : List (String × String) := [
  ("tags/b.html", wrapper "strong"),
  ("tags/i.html", wrapper "em"),
  ("tags/u.html", wrapper "u"),
  ("tags/s.html", wrapper "del"),
  ("tags/code.html", wrapper "code"),
  ("tags/color.html",
    whenBoundElse "color"
      ("<span style=\"color: " ++ hole "color" ++ "\">" ++ hole "contents" ++ "</span>")
      (hole "contents") ++ "\n"),
  ("tags/url.html",
    whenBoundElse "href"
      ("<a href=\"" ++ hole "href" ++ "\">" ++ hole "contents" ++ "</a>")
      (hole "contents") ++ "\n"),
  ("tags/img.html",
    whenBound "src"
      ("<img src=\"" ++ hole "src" ++ "\"" ++
        whenBound "alt" (" alt=\"" ++ hole "alt" ++ "\"") ++
        whenBound "width" (" width=\"" ++ hole "width" ++ "\"") ++
        whenBound "height" (" height=\"" ++ hole "height" ++ "\"") ++ ">") ++ "\n"),
  ("tags/quote.html",
    "<blockquote>" ++ whenBound "arg" ("<cite>" ++ hole "arg" ++ "</cite>") ++ hole "contents" ++
      "</blockquote>\n")]

end Template
end BracketMark
