/-!
# The outline of a declaration

Before its fields are read, a declaration is cut into pieces by one scan from left to right:

* a comma outside all braces ends a plain piece, `Piece.field`;
* the brace that closes an outermost block ends a `Piece.block`, with the text before the block as
  its head and the text between the braces as its body. The body is left alone: it is a declaration
  of its own.

The scan keeps three numbers, a `Cursor`, and stops early at a closing brace that nothing opened.
-/

namespace RecordSchema.Declaration

/-- A part of a declaration. -/
inductive Piece where
  | field (text : List Char)
  | block (head body : List Char)
deriving DecidableEq, Repr

/-- How a scan came to its end. -/
inductive Ending where
  | complete
  | unbalanced   -- a brace was closed that nothing opened, or one stayed open
  | crossed (opened closed : Nat)   -- a block was closed no later than it was opened
deriving DecidableEq, Repr

/-- The pieces of a declaration up to the point where its scan ended. -/
structure Outline where
  pieces : List Piece
  ending : Ending
deriving DecidableEq, Repr

/-- Put a piece, if there is one, in front of an outline. -/
def Outline.cons? (piece : Option Piece) (outline : Outline) : Outline :=
  { outline with pieces := piece.toList ++ outline.pieces }

/-- What the scan remembers between two characters. -/
structure Cursor where
  start : Nat := 0    -- where the current piece starts
  opened : Nat := 0   -- where the current block was opened
  depth : Nat := 0    -- how many braces are open
deriving DecidableEq, Repr

/-- What one character does to the scan: it goes on, perhaps with a piece that is complete now, or it
stops. -/
inductive Move where
  | go (piece : Option Piece) (cursor : Cursor)
  | stop (ending : Ending)
deriving DecidableEq, Repr

/-- The move at character `c`, which stands at position `pos` of `text`. -/
def Cursor.move (text : List Char) (pos : Nat) (c : Char) (cur : Cursor) : Move :=
  if c = '{' then
    .go none { cur with opened := if cur.depth = 0 then pos else cur.opened, depth := cur.depth + 1 }
  else if c = '}' then
    match cur.depth with
    | 0 => .stop .unbalanced
    | depth + 1 =>
      if 0 < depth then .go none { cur with depth }
      else if pos ≤ cur.opened then .stop (.crossed cur.opened pos)
      else
        .go (some (.block (text.extract cur.start cur.opened) (text.extract (cur.opened + 1) pos)))
          { cur with start := pos + 1, depth }
  else if c = ',' ∧ cur.depth = 0 then
    .go (some (.field (text.extract cur.start pos))) { cur with start := pos + 1 }
  else .go none cur

/-- Scan the characters of `text` from position `pos` on. -/
def scanFrom (text : List Char) : (pos : Nat) → Cursor → List Char → Outline
  | _, cur, [] => ⟨[], if cur.depth = 0 then .complete else .unbalanced⟩
  | pos, cur, c :: rest =>
    match cur.move text pos c with
    | .stop ending => ⟨[], ending⟩
    | .go piece next => (scanFrom text (pos + 1) next rest).cons? piece

/-- The outline of a text. A comma is added at its end, which closes the last piece like any other. -/
def outline (text : List Char) : Outline :=
  let terminated := text ++ [',']
  scanFrom terminated 0 {} terminated

end RecordSchema.Declaration
