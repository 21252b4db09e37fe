import BracketMark.Dict
import BracketMark.Markup.Name
import BracketMark.Markup.Keywords
import BracketMark.Markup.Span

/-!
# Tokens

Markup is a run of tokens: plain text, opening tags, closing tags and bracketed spans that
are neither.  Each token keeps its own spelling (`Token.raw`), so that a tag which turns
out to have no partner can be given back as it was written.
-/

namespace BracketMark
namespace Markup

open Text

/-- What an opening tag says: `[name]`, `[name=value]` or `[name key=value …]`. -/
structure Opening where
  /-- The tag name in lower case. -/
  name : String
  arg : Option String
  kwargs : Dict String
  deriving DecidableEq

/-- A stretch of markup. -/
inductive Token where
  /-- Text between brackets, or from a bracket that begins no span. -/
  | text (raw : String)
  | opening (raw : String) (tag : Opening)
  | closing (raw : String) (name : String)
  /-- A bracketed span that is no tag. -/
  | malformed (raw : String)
  deriving DecidableEq

def Token.raw : Token → String
  | .text raw => raw
  | .opening raw _ => raw
  | .closing raw _ => raw
  | .malformed raw => raw

/-- A value without the pair of equal quotes around it, if there is one. -/
def unquote (cs : List Char) : List Char :=
  match cs with
  | q :: rest@(_ :: _) => if isQuote q && rest.getLast? == some q then rest.dropLast else cs
  | _ => cs

/-- What the content of an opening tag says, if it is one. -/
def readOpening (content : List Char) : Option Opening :=
  let name := content.takeWhile isNameChar
  if isName name then
    let heading (arg : Option String) (kwargs : Dict String) : Opening :=
      ⟨String.ofList (fold name), arg, kwargs⟩
    match content.dropWhile isNameChar with
    | [] => some (heading none .empty)
    | c :: rest =>
      if c = '=' then some (heading (some (String.ofList (unquote (trim rest)))) .empty)
      else if isBlank c then (readKeywords (c :: rest)).map (heading none)
      else none
  else none

/-- The tag name that the content of a closing tag gives after its slash. -/
def readClosing (content : List Char) : Option String :=
  let name := trim content
  if isName name then some (String.ofList (fold name)) else none

/-- The token of a bracketed span with the given content. -/
def readSpan (content : List Char) : Token :=
  let raw := String.ofList ('[' :: content ++ [']'])
  match content with
  | '/' :: rest =>
    match readClosing rest with
    | some name => .closing raw name
    | none => .malformed raw
  | _ =>
    match readOpening content with
    | some tag => .opening raw tag
    | none => .malformed raw

/-- The tokens of a text, in order. -/
def scan : List Char → List Token
  | [] => []
  | c :: rest =>
    if c = '[' then
      match spanEnd rest with
      | .closed size => readSpan (rest.take size) :: scan (rest.drop (size + 1))
      | .interrupted size => .text (String.ofList ('[' :: rest.take size)) :: scan (rest.drop size)
      | .unterminated => [.text (String.ofList ('[' :: rest))]
    else
      .text (String.ofList (c :: rest.takeWhile (· != '['))) :: scan (rest.dropWhile (· != '['))
termination_by cs => cs.length
decreasing_by
  · simp only [List.length_drop, List.length_cons]; omega
  · simp only [List.length_drop, List.length_cons]; omega
  · have := (List.dropWhile_suffix (l := rest) (· != '[')).length_le
    simp only [List.length_cons]; omega

def tokens (markup : String) : List Token :=
  scan markup.toList

end Markup
end BracketMark
