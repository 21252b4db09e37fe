import BracketMark.Tag.Definition

/-!
# Links and images

The library `hrefs`.  Both tags take their target from markup, so both refuse a target
whose scheme is not a known harmless one; targets without a scheme are relative and are
accepted.  A refused link shows its contents without a link, a refused image shows nothing.
-/

namespace BracketMark
namespace Tag
namespace Links

open Text

/-- The schemes a target may have. -/
def safeSchemes : List String := ["http", "https", "mailto", "ftp"]

/-- A character that ends the scheme of a target or shows that it has none. -/
def endsScheme (c : Char) : Bool :=
  c == ':' || c == '/' || c == '?' || c == '#'

/-- The scheme of a target: what stands before the first of `:`, `/`, `?` and `#`, if that
    is a colon. -/
def scheme? (target : List Char) : Option (List Char) :=
  match target.dropWhile (fun c => !endsScheme c) with
  | ':' :: _ => some (target.takeWhile (fun c => !endsScheme c))
  | _ => none

/-- Whether a scheme is a known harmless one, in either case. -/
def isSafeScheme (scheme : List Char) : Bool :=
  safeSchemes.any (fun safe => safe.toList == fold scheme)

/-- A target without the blanks around it, if it is relative or has a safe scheme. -/
def safeTarget (target : List Char) : Option (List Char) :=
  match trim target with
  | [] => none
  | c :: cs =>
    match scheme? (c :: cs) with
    | some scheme => if isSafeScheme scheme then some (c :: cs) else none
    | none => some (c :: cs)

/-- Whether a text is a whole number below 2 ^ 32, perhaps with a plus sign. -/
def isPixels (cs : List Char) : Bool :=
  let digits := match cs with
    | '+' :: rest => rest
    | _ => cs
  !digits.isEmpty && digits.all Char.isDigit &&
    digits.foldl (fun n c => 10 * n + (c.toNat - 48)) 0 < 0x100000000

/-- Bind the tag's target as `href`: its argument, or else the text inside it. -/
def bindHref : Hook := fun tag =>
  match safeTarget (tag.args.arg?.getD tag.text).toList with
  | some href => .bind "href" (.text (String.ofList href)) .done
  | none => .done

/-- Remove a dimension that is no number of pixels. -/
def checkDimension (args : Arguments) (key : String) (next : Script) : Script :=
  match args.kwargs?.bind (·.get? key) with
  | some value => if isPixels value.toList then next else .unbind key fun _ => next
  | none => .unbind key fun _ => next

/-- Bind the text inside the tag as `src`, and check the dimensions. -/
def bindSrc : Hook := fun tag =>
  -- the dimensions are checked whether or not the target was accepted
  let dimensions := checkDimension tag.args "width" (checkDimension tag.args "height" .done)
  match safeTarget tag.text.toList with
  | some src => .bind "src" (.text (String.ofList src)) dimensions
  | none => dimensions

def url : Definition :=
  { name := "url"
    contract := .positional
    template? := none
    usage? := some ["[url]http://example.com[/url]", "[url=http://example.com]Example Text[/url]"]
    hook? := some bindHref
    named := by decide
    folded := by decide }

def img : Definition :=
  { name := "img"
    contract := .keywords
    template? := none
    usage? := some ["[img]http://example.com/image.png[/img]",
      "[img width=100 height=50 alt=\"Example\"]http://example.com/image.png[/img]"]
    hook? := some bindSrc
    named := by decide
    folded := by decide }

def library : Library := ⟨"hrefs", [url, img]⟩

end Links
end Tag
end BracketMark
