import BracketMark.Tag.Definition

/-!
# Quotations

The library `quote`: a quotation, which may name its author.
-/

namespace BracketMark
namespace Tag
namespace Quotation

def quote : Definition :=
  { name := "quote"
    contract := .positional
    template? := none
    usage? := some ["[quote]Example Text[/quote]", "[quote=Author]Example Text[/quote]"]
    hook? := none
    named := by decide
    folded := by decide }

def library : Library := ⟨"quote", [quote]⟩

end Quotation
end Tag
end BracketMark
