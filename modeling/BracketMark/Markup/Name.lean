/-!
# Tag names

A tag name is an ASCII letter or an underscore followed by ASCII letters, digits,
underscores and hyphens.  Markup may write it in either case; names are kept in lower case.
-/

namespace BracketMark
namespace Markup

/-- A character that may begin a tag name. -/
def isNameStart (c : Char) : Bool :=
  c.isAlpha || c == '_'

/-- A character that may stand in a tag name or in the key of a keyword argument. -/
def isNameChar (c : Char) : Bool :=
  c.isAlphanum || c == '_' || c == '-'

def isName : List Char → Bool
  | [] => false
  | c :: cs => isNameStart c && cs.all isNameChar

theorem isNameChar_of_isNameStart {c : Char} (h : isNameStart c = true) :
    isNameChar c = true := by
  simp only [isNameStart, isNameChar, Char.isAlphanum, Bool.or_eq_true] at *
  grind

end Markup
end BracketMark
