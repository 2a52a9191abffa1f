import RecordSchema.Declaration.Field
import RecordSchema.Declaration.Outline
import RecordSchema.Entry

/-!
# Reading a declaration

`parse limit text` turns a declaration into a schema, or gives its first fault:

    parse 5 "name s,meta{x l}"  =  ok [name : string, meta : map [x : long]]

The text is trimmed and cut into its `outline`, and the pieces are read in order. A plain piece is a
field, a string unless it says otherwise. A block is a map whose body is read in the same way, one
level deeper and before its head is looked at. A block with a blank but non-empty head is dropped.
Blocks may nest `limit` deep, so reading recurses over the number of levels that are left.
-/

namespace RecordSchema.Declaration

open RecordSchema.Text

/-- How deep blocks may nest if nothing else is said. -/
def defaultLimit : Nat := 5

/-- The text of a block with its head. -/
def blockText (head body : List Char) : List Char := head ++ '{' :: body ++ ['}']

/-- The entry for a field without a block: a string, if its type is left open. -/
def Field.toLeaf (field : Field) : Entry where
  key := field.key
  type := field.type.getD .string
  required := field.required
  element := field.element

/-- The entry for a field in front of a block: a map, and nothing else. -/
def Field.toMap (field : Field) (block : List Char) (children : Schema) : Except Fault Entry :=
  match field.type.getD .map with
  | .map => .ok { key := field.key, type := .map, required := field.required, children }
  | _ =>
    .error (.inField (String.ofList (trim block)) field.key field.tag (.unknownTag field.tag))

/-- Read a block whose body is read already. A blank head names nothing, so the block is dropped. -/
def readBlock (head body : List Char) (children : Schema) : Except Fault (Option Entry) :=
  if head.isEmpty then
    .error (.unnamedBlock (String.ofList (trim (blockText head body))))
  else do
    match ← Field.read head with
    | none => .ok none
    | some field => do
      let entry ← field.toMap (blockText head body) children
      .ok (some entry)

/-- Read one piece of an outline, the bodies of blocks by `nested`. -/
def readPiece (nested : List Char → Except Fault Schema) : Piece → Except Fault (Option Entry)
  | .field text => do
    let field ← Field.read text
    .ok (field.map Field.toLeaf)
  | .block head body => do
    let children ← nested body
    readBlock head body children

/-- Read the pieces of an outline in order, up to the first fault. -/
def readPieces (nested : List Char → Except Fault Schema) : List Piece → Except Fault Schema
  | [] => .ok []
  | piece :: pieces => do
    let entry ← readPiece nested piece
    let entries ← readPieces nested pieces
    .ok (entry.toList ++ entries)

/-- The fault that the end of a scan amounts to, for the text that was scanned. -/
def Ending.check (text : List Char) : Ending → Except Fault Unit
  | .complete => .ok ()
  | .unbalanced => .error (.unbalanced (String.ofList text))
  | .crossed opened closed =>
    .error (.inconsistent
      ("nest end " ++ toString closed ++ " is not after nest start " ++ toString opened))

/-- Read a text with so many levels left, out of `limit` and the outermost one. -/
def parseWithin (limit : Nat) : (levels : Nat) → List Char → Except Fault Schema
  | 0, text => .error (.tooDeep limit (String.ofList (trim text)))
  | levels + 1, text => do
    let found := outline (trim text)
    let entries ← readPieces (parseWithin limit levels) found.pieces
    found.ending.check (trim text)
    .ok entries

/-- Read a declaration whose blocks may nest `limit` deep. -/
def parse (limit : Nat) (text : String) : Except Fault Schema :=
  parseWithin limit (limit + 1) text.toList

end RecordSchema.Declaration
