import RecordSchema.Entry

/-!
# Which schemas are accepted

Storage downstream takes a schema if it is not empty, if every key is an identifier of at most 128
characters, and if every array holds floats, strings or longs. The entries are looked at in the
order in which they are written, the children of a map after the map itself. Children of other
entries are not looked at. `Schema.accept` gives the first violation.
-/

namespace RecordSchema

/-- The reason why a schema is not accepted. -/
inductive Rejection where
  | badKey (key : String)
  | badElement (key : String) (element : Option FieldType)   -- of an array
  | emptySchema
deriving DecidableEq, Repr

namespace Rejection

/-- The name of an element type in a rejection: nothing, if there is none. -/
def elementName (element : Option FieldType) : String := element.elim "" FieldType.name

/-- The wording of a rejection. -/
def message : Rejection → String
  | badKey key => "invalid field key: " ++ key
  | badElement key element =>
    "invalid field type in array '" ++ key ++ "': " ++ elementName element ++
      ", field type should be one of \"float\", \"string\", and \"long\""
  | emptySchema => "schema should not be empty"

end Rejection

/-! ### Keys -/

/-- The shape of a key, as it is shown to users. -/
def keyPattern : String := "^[a-zA-Z_][a-zA-Z0-9_]\x7b0,127\x7d$"

/-- May a key start with this character? -/
def isKeyStart (c : Char) : Bool := c.isAlpha || c == '_'

/-- May this character stand in a key? -/
def isKeyChar (c : Char) : Bool := c.isAlphanum || c == '_'

/-- Is the text a letter or underscore, followed by at most 127 letters, digits and underscores?
Only ASCII letters and digits count. -/
def isKey (key : String) : Bool :=
  match key.toList with
  | [] => false
  | c :: cs => isKeyStart c && cs.all isKeyChar && cs.length ≤ 127

/-! ### Entries and schemas -/

/-- Check that an array has an element type that arrays may have. -/
def acceptElement (key : String) (element : Option FieldType) : Except Rejection Unit :=
  if element.any FieldType.isElement then .ok () else .error (.badElement key element)

namespace Entry

mutual

/-- Accept an entry, or give its first violation. -/
def accept : Entry → Except Rejection Unit
  | ⟨key, type, _, element, children⟩ =>
    if isKey key then
      match type with
      | .array => acceptElement key element
      | .map => acceptAll children
      | _ => .ok ()
    else .error (.badKey key)

/-- Accept entries in order, up to the first violation. -/
def acceptAll : List Entry → Except Rejection Unit
  | [] => .ok ()
  | entry :: entries => do
    accept entry
    acceptAll entries

end

end Entry

/-- Accept a schema, or give its first violation. -/
def Schema.accept (schema : Schema) : Except Rejection Unit :=
  match schema with
  | [] => .error .emptySchema
  | entries => Entry.acceptAll entries

end RecordSchema
