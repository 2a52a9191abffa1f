import RecordSchema.Declaration.Tag

/-!
# Fields of a declaration

A field is written as a key, or as a key and a type word:

    name        name s        name *s        tags a(s)        tags array(string)*

Stars at either end of the type word mark the field as required. What remains is a tag, or, if it
has parentheses, an array whose element tag stands between them; what is written before and after
the parentheses is not looked at.
-/

namespace RecordSchema.Declaration

open RecordSchema.Text

/-- A field as it is written, before a default type is filled in. -/
structure Field where
  key : String
  tag : String   -- the type word without its outer stars
  type : Option FieldType
  element : Option FieldType
  required : Bool
deriving DecidableEq, Repr

/-- The words of a field: its key and its type word, which is empty if only a key is written. -/
def Field.split (segment : List Char) : Except Fault (List Char × List Char) :=
  match words segment with
  | [key] => .ok (key, [])
  | [key, typeWord] => .ok (key, typeWord)
  | _ => .error (.wrongWordCount (String.ofList segment))

/-- Is the type word marked as required? -/
def isStarred (typeWord : List Char) : Bool :=
  typeWord.head? == some '*' || typeWord.getLast? == some '*'

/-- The type word without the stars at its ends. -/
def withoutStars (typeWord : List Char) : List Char := trimBy (· == '*') typeWord

/-- The text between the first `(` and the first `)` of a tag, if they stand in this order. -/
def elementTag? (tag : List Char) : Option (List Char) :=
  let inside := (tag.dropWhile (· != '(')).drop 1
  if (tag.takeWhile (· != '(')).contains ')' || !inside.contains ')' then none
  else some (inside.takeWhile (· != ')'))

/-- Report a fault of a tag in the field that the tag belongs to. -/
def inField {α : Type} (segment key tag : List Char) : Except Fault α → Except Fault α :=
  Except.mapError (.inField (String.ofList segment) (String.ofList key) (String.ofList tag))

/-- The type and the element type that a tag gives to a field. -/
def Field.types (segment key tag : List Char) :
    Except Fault (Option FieldType × Option FieldType) :=
  if tag.contains '(' then
    match elementTag? tag with
    | none => .error (.missingElement (String.ofList segment))
    | some inside => do
      match ← inField segment key tag (readTag inside) with
      | none => .error (.missingElement (String.ofList segment))
      | some element => .ok (some .array, some element)
  else do
    let type ← inField segment key tag (readTag tag)
    .ok (type, none)

/-- Read a field. A blank text is no field at all. -/
def Field.read (text : List Char) : Except Fault (Option Field) :=
  match trim text with
  | [] => .ok none
  | segment => do
    let (key, typeWord) ← Field.split segment
    if key.isEmpty then
      .error (.missingKey (String.ofList segment))
    else
      let tag := withoutStars typeWord
      let (type, element) ← Field.types segment key tag
      .ok (some {
        key := String.ofList key, tag := String.ofList tag, type, element,
        required := isStarred typeWord })

end RecordSchema.Declaration
