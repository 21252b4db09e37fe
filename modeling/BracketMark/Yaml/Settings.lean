import BracketMark.Yaml.Scalar

/-!
# Settings in YAML

The YAML texts that settings may be: one document that is empty or maps names to lists of
scalars.  Both the mapping and the lists may be written in block or in flow style; a name
with nothing after it has an empty list.  Any other text is refused, whether it is no YAML
or YAML of another shape, since the one and the other are no settings.  A scalar counts by
its text, so `1`, `true` and `null` are texts too.
-/

namespace BracketMark
namespace Yaml

/-- Names and lists, in the order written. -/
abbrev Settings := List (String × List String)

/-- A place between two tokens, and whether a line break was passed on the way. -/
structure Place where
  cursor : Cursor
  crossed : Bool

/-- Skip blanks, line breaks and comments.  Outside brackets a tab is skipped only within a
    line.  A line may begin with a byte order mark; it takes up a column, so what follows it
    is indented by one. -/
def skipFrom (flow : Bool) : (tabs crossed comment : Bool) → Nat → List Char → Place
  | _, crossed, _, column, [] => ⟨⟨[], column⟩, crossed⟩
  | tabs, crossed, comment, column, c :: cs =>
    if isBreak c then skipFrom flow flow true false 0 cs
    else if comment then skipFrom flow tabs crossed true (column + 1) cs
    else if c = ' ' || (c = '\t' && tabs) || (c = '\ufeff' && column = 0) then
      skipFrom flow tabs crossed false (column + 1) cs
    else if c = '#' then skipFrom flow tabs crossed true (column + 1) cs
    else ⟨⟨c :: cs, column⟩, crossed⟩

/-- The next token inside brackets. -/
def skipFlow (cursor : Cursor) : Place :=
  skipFrom true true false false cursor.column cursor.rest

/-- The next token outside brackets; tabs may come first if `tabs` says so. -/
def skipBlock (tabs : Bool) (cursor : Cursor) : Place :=
  skipFrom false tabs false false cursor.column cursor.rest

/-- A token of one character, and the place after it. -/
def Cursor.next? (cursor : Cursor) : Option (Char × Cursor) :=
  match cursor.rest with
  | [] => none
  | c :: cs => some (c, ⟨cs, cursor.column + 1⟩)

/-- How many characters after the beginning of a name its colon may stand at most. -/
def colonReach : Nat := 1024

/-- Whether a colon at the place `colon` belongs to the name that begins at `start`: it has
    to stand on the same line, and not too far away. -/
def reaches (start : Cursor) (name : Scalar) (colon : Place) : Bool :=
  !name.crossed && !colon.crossed && colon.cursor.column ≤ start.column + colonReach

/-! ## Flow style -/

/-- The items of a list in brackets, from a place where an item or the end may stand. -/
def readFlowItems (indent : Nat) : Nat → Cursor → Option (List String × Cursor)
  | 0, _ => none
  | fuel + 1, cursor =>
    let here := (skipFlow cursor).cursor
    if atMarker here then none
    else match here.next? with
      | none => none
      | some (c, after) =>
        if c = ']' then some ([], after)
        else match readScalar true indent fuel here with
          | none => none
          | some item =>
            let there := (skipFlow item.next).cursor
            if atMarker there then none
            else match there.next? with
              | some (',', after) =>
                (readFlowItems indent fuel after).map fun p =>
                  (String.ofList item.text :: p.1, p.2)
              | some (']', after) => some ([String.ofList item.text], after)
              | _ => none

/-- The entries of a mapping in braces, from a place where an entry or the end may stand. -/
def readFlowEntries : Nat → Cursor → Option (Settings × Cursor)
  | 0, _ => none
  | fuel + 1, cursor =>
    let finish (name : String) (items : List String) (cursor : Cursor) :
        Option (Settings × Cursor) :=
      let here := (skipFlow cursor).cursor
      if atMarker here then none
      else match here.next? with
        | some (',', after) =>
          (readFlowEntries fuel after).map fun p => ((name, items) :: p.1, p.2)
        | some ('\x7d', after) => some ([(name, items)], after)
        | _ => none
    let here := (skipFlow cursor).cursor
    if atMarker here then none
    else match here.next? with
      | none => none
      | some (c, after) =>
        if c = '\x7d' then some ([], after)
        else match readScalar true 0 fuel here with
          | none => none
          | some key =>
            let name := String.ofList key.text
            let there := skipFlow key.next
            match there.cursor.next? with
            | some (':', after) =>
              if !reaches here key there then none
              else
                let value := (skipFlow after).cursor
                if atMarker value then none
                else match value.next? with
                  | some ('[', after) =>
                    (readFlowItems 0 fuel after).bind fun p => finish name p.1 p.2
                  | some (',', _) | some ('\x7d', _) => finish name [] value
                  | _ => none
            | _ => finish name [] key.next

/-! ## Block style -/

/-- Whether a list item begins here. -/
def atDash (cursor : Cursor) : Bool :=
  match cursor.rest with
  | '-' :: cs => atGap cs
  | _ => false

/-- Whether a block ends here. -/
def atEnd (cursor : Cursor) : Bool :=
  cursor.rest.isEmpty || atMarker cursor

/-- The items of a list written with dashes in the column `column`, from its first dash. -/
def readBlockItems (column : Nat) : Nat → Cursor → Option (List String × Cursor)
  | 0, _ => none
  | fuel + 1, cursor =>
    let finish (text : List Char) (next : Cursor) (crossed : Bool) :
        Option (List String × Cursor) :=
      let item := String.ofList text
      if atEnd next then some ([item], next)
      else if !crossed then none
      else if next.column = column && atDash next then
        (readBlockItems column fuel next).map fun p => (item :: p.1, p.2)
      else some ([item], next)
    let place := skipBlock false ⟨cursor.rest.tail, cursor.column + 1⟩
    let here := place.cursor
    if atEnd here || (place.crossed && here.column ≤ column) then finish [] here place.crossed
    else if atDash here then none
    else match readScalar false (column + 1) fuel here with
      | none => none
      | some item =>
        let there := skipBlock (!item.fresh) item.next
        finish item.text there.cursor (item.fresh || there.crossed)

/-- What stands after a name and its colon, in a mapping whose names stand in the column
    `column`. -/
def readBlockValue (column : Nat) (fuel : Nat) (cursor : Cursor) :
    Option (List String × Cursor × Bool) :=
  let place := skipBlock true cursor
  let here := place.cursor
  let flow : Option (List String × Cursor × Bool) :=
    match here.rest with
    | '[' :: cs =>
      (readFlowItems (column + 1) fuel ⟨cs, here.column + 1⟩).map fun p =>
        let after := skipBlock true p.2
        (p.1, after.cursor, after.crossed)
    | _ => none
  if atEnd here then some ([], here, true)
  else if !place.crossed then flow
  else if here.column > column then
    if atDash here then (readBlockItems here.column fuel here).map fun p => (p.1, p.2, true)
    else flow
  -- the dashes of a list may stand right under the name
  else if here.column = column && atDash here then
    (readBlockItems column fuel here).map fun p => (p.1, p.2, true)
  else some ([], here, true)

/-- The entries of a mapping whose names stand in the column `column`, from its first
    name. -/
def readBlockEntries (column : Nat) : Nat → Cursor → Option (Settings × Cursor)
  | 0, _ => none
  | fuel + 1, cursor =>
    if cursor.column ≠ column then none
    else match readScalar false (column + 1) fuel cursor with
      | none => none
      | some key =>
        let there := skipBlock true key.next
        match there.cursor.rest with
        | ':' :: cs =>
          if !reaches cursor key there || !atGap cs then none
          else match readBlockValue column fuel ⟨cs, there.cursor.column + 1⟩ with
            | none => none
            | some (items, next, crossed) =>
              let entry := (String.ofList key.text, items)
              if atEnd next then some ([entry], next)
              else if !crossed then none
              else (readBlockEntries column fuel next).map fun p => (entry :: p.1, p.2)
        | _ => none

/-! ## Documents -/

/-- Nothing but marks that end the one document may follow. -/
def atFinish : Nat → Cursor → Bool
  | 0, _ => false
  | fuel + 1, cursor =>
    let here := (skipBlock true cursor).cursor
    if atMark '.' here then atFinish fuel ⟨here.rest.drop 3, 3⟩ else here.rest.isEmpty

/-- A document, from its first token. -/
def readRoot (fuel : Nat) (here : Cursor) (block : Bool) : Option Settings :=
  let root := match here.rest with
    | '\x7b' :: cs => readFlowEntries fuel ⟨cs, here.column + 1⟩
    | _ => if block then readBlockEntries here.column fuel here else none
  match root with
  | some (settings, next) => if atFinish fuel next then some settings else none
  | none => none

/-- The settings that a text spells. -/
def readSettings (source : List Char) : Option Settings :=
  if !source.all isAllowed then none
  else
    let text := normalize source
    let fuel := text.length + 1
    let here := (skipBlock false ⟨text, 0⟩).cursor
    if here.rest.isEmpty then some []
    else if atMark '-' here then
      let place := skipBlock true ⟨here.rest.drop 3, 3⟩
      if atEnd place.cursor then if atFinish fuel place.cursor then some [] else none
      else readRoot fuel place.cursor place.crossed
    else if atMark '.' here then none
    else readRoot fuel here true

end Yaml
end BracketMark
