import RecordSchema.Entry
import RecordSchema.Json.Fault

/-!
# Schemas as JSON

An entry is written as an object with its members in the order `key, valtype, required, elemtype,
schema`, without an element type that is not there and without an empty list of children. A `Layout`
says which blanks stand between the parts: none, or a line for each part with two spaces of indent for
each level.
-/

namespace RecordSchema.Json

/-- Where blanks are written. -/
structure Layout where
  /-- The blanks before a part, or before the bracket that closes it, on a level. -/
  lineStart : Nat → List Char
  /-- The blanks after the colon of a member. -/
  afterColon : List Char

/-- No blanks at all. -/
def Layout.compact : Layout := ⟨fun _ => [], []⟩

/-- A line for each part, indented by two spaces a level. -/
def Layout.indented : Layout := ⟨fun level => '\n' :: List.replicate (2 * level) ' ', [' ']⟩

/-! ### Quoted text -/

/-- How one character is written between the quotes. -/
def escapeChar (c : Char) : List Char :=
  if c = '"' then ['\\', '"']
  else if c = '\\' then ['\\', '\\']
  else if c = '\x08' then ['\\', 'b']
  else if c = '\x0c' then ['\\', 'f']
  else if c = '\n' then ['\\', 'n']
  else if c = '\r' then ['\\', 'r']
  else if c = '\t' then ['\\', 't']
  else if c < ' ' then
    ['\\', 'u', '0', '0', Nat.digitChar (c.toNat / 16), Nat.digitChar (c.toNat % 16)]
  else [c]

/-- A text between quotes. -/
def encodeText (text : String) : List Char :=
  '"' :: text.toList.flatMap escapeChar ++ ['"']

/-! ### Lists and objects -/

/-- Parts with commas between them, each at the start of its line. -/
def separated (lineStart : List Char) : List (List Char) → List Char
  | [] => []
  | [part] => lineStart ++ part
  | part :: parts => lineStart ++ part ++ ',' :: separated lineStart parts

/-- Parts between brackets. Without parts, the brackets stand together. -/
def bracketed (layout : Layout) (level : Nat) (opening closing : Char) (parts : List (List Char)) :
    List Char :=
  match parts with
  | [] => [opening, closing]
  | parts =>
    opening :: separated (layout.lineStart (level + 1)) parts ++ layout.lineStart level ++ [closing]

/-- A member with its value. -/
def encodeMember (layout : Layout) (member : Member) (value : List Char) : List Char :=
  encodeText member.name ++ ':' :: layout.afterColon ++ value

/-! ### Entries and schemas -/

mutual

/-- An entry on a level. -/
def encodeEntry (layout : Layout) (level : Nat) : Entry → List Char
  | ⟨key, type, required, element, children⟩ =>
    bracketed layout level '{' '}' (
      [encodeMember layout .key (encodeText key),
        encodeMember layout .valtype (encodeText type.name),
        encodeMember layout .required (if required then "true" else "false").toList] ++
      (match element with
        | none => []
        | some element => [encodeMember layout .elemtype (encodeText element.name)]) ++
      (match children with
        | [] => []
        | child :: rest =>
          [encodeMember layout .schema
            (bracketed layout (level + 1) '[' ']'
              (encodeEntries layout (level + 2) (child :: rest)))]))

/-- Entries on a level, one by one. -/
def encodeEntries (layout : Layout) (level : Nat) : List Entry → List (List Char)
  | [] => []
  | entry :: entries => encodeEntry layout level entry :: encodeEntries layout level entries

end

/-- A schema, as characters. -/
def encodeChars (layout : Layout) (schema : Schema) : List Char :=
  bracketed layout 0 '[' ']' (encodeEntries layout 1 schema)

/-- A schema as a JSON text. -/
def encode (layout : Layout) (schema : Schema) : String := String.ofList (encodeChars layout schema)

end RecordSchema.Json

namespace RecordSchema

/-- An entry as a compact JSON text. -/
def Entry.toJson (entry : Entry) : String :=
  String.ofList (Json.encodeEntry .compact 0 entry)

/-- A schema as a compact JSON text. -/
def Schema.toJson (schema : Schema) : String := Json.encode .compact schema

/-- A schema as an indented JSON text. -/
def Schema.toIndentedJson (schema : Schema) : String := Json.encode .indented schema

end RecordSchema
