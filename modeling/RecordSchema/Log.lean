import RecordSchema.Load
import RecordSchema.Text.Quoted

/-!
# A log of loading

What happens while a declaration is read and accepted, as a list of events in the order in which
they happen. The log follows the reading piece by piece and ends with the piece that is at fault.
-/

namespace RecordSchema

open RecordSchema.Declaration RecordSchema.Text

/-- How much detail an event belongs to. -/
inductive Detail where
  | trace
  | debug
deriving DecidableEq, Repr

/-- The name of a level of detail. -/
def Detail.name : Detail → String
  | trace => "trace"
  | debug => "debug"

/-- A step in loading a declaration. Depths count the blocks that a piece lies in. -/
inductive Event where
  | reached (depth : Nat) (text : String)   -- a plain piece
  | splitField (segment key typeWord : String)
  | droppedBlock (depth : Nat) (block : String)
  | parsed (count : Nat)
  | accepted (count : Nat)
deriving DecidableEq, Repr

namespace Event

/-- The level of detail of an event. -/
def detail : Event → Detail
  | reached .. | splitField .. | droppedBlock .. => .trace
  | parsed _ | accepted _ => .debug

/-- The wording of an event. -/
def message : Event → String
  | reached depth text => "Field segment at depth " ++ toString depth ++ ": '" ++ text ++ "'"
  | splitField segment key typeWord =>
    "Tokenized field '" ++ segment ++ "' as key " ++ key ++ " type " ++
      String.ofList (quoted typeWord.toList)
  | droppedBlock depth block =>
    "Skipping unkeyed block at depth " ++ toString depth ++ ": '" ++ block ++ "'"
  | parsed count => "Parsed schema DSL into " ++ toString count ++ " top-level fields"
  | accepted count => "Validated schema with " ++ toString count ++ " top-level fields"

/-- The event of reading a field: there is one as soon as its words are found. -/
def ofField (text : List Char) : List Event :=
  match trim text with
  | [] => []
  | segment =>
    match Field.split segment with
    | .ok (key, typeWord) =>
      [.splitField (String.ofList segment) (String.ofList key) (String.ofList typeWord)]
    | .error _ => []

/-- The events of looking at the head of a block whose body was read. -/
def ofHead (depth : Nat) (head body : List Char) : List Event :=
  match head with
  | [] => []
  | _ =>
    match trim head with
    | [] => [.droppedBlock depth (String.ofList (trim (blockText head body)))]
    | _ => ofField head

end Event

/-- What happened in a reading, and whether it went through. -/
structure Account where
  events : List Event
  passed : Bool
deriving DecidableEq, Repr

namespace Account

/-- Go on after one account with another, unless something was at fault. -/
def andThen (first second : Account) : Account :=
  if first.passed then ⟨first.events ++ second.events, second.passed⟩ else first

/-- The account of reading a piece that lies `depth` blocks deep, the bodies of blocks being read as
`inside` tells. Whether a head can be read does not depend on the children. -/
def ofPiece (inside : List Char → Account) (depth : Nat) : Piece → Account
  | .field [] => ⟨[], true⟩
  | .field text =>
    ⟨.reached depth (String.ofList (trim text)) :: Event.ofField text, (Field.read text).isOk⟩
  | .block head body =>
    (inside body).andThen ⟨Event.ofHead depth head body, (readBlock head body []).isOk⟩

/-- The account of reading pieces in order, up to the first one that is at fault. -/
def ofPieces (inside : List Char → Account) (depth : Nat) : List Piece → Account
  | [] => ⟨[], true⟩
  | piece :: pieces => (ofPiece inside depth piece).andThen (ofPieces inside depth pieces)

/-- The account of reading a text `depth` blocks deep, with so many levels left. -/
def ofText : (levels depth : Nat) → List Char → Account
  | 0, _, _ => ⟨[], false⟩
  | levels + 1, depth, text =>
    let found := outline (trim text)
    (ofPieces (ofText levels (depth + 1)) depth found.pieces).andThen ⟨[], found.ending = .complete⟩

end Account

namespace Event

/-- The events of accepting a schema. -/
def ofAccept (schema : Schema) : List Event :=
  match schema.accept with
  | .ok _ => [.accepted schema.length]
  | .error _ => []

/-- The events of loading a declaration. -/
def ofLoad (limit : Nat) (text : String) : List Event :=
  (Account.ofText (limit + 1) 0 text.toList).events ++
    match parse limit text with
    | .ok schema => .parsed schema.length :: ofAccept schema
    | .error _ => []

end Event

end RecordSchema
