import RecordSchema.Entry

/-!
# Writing a declaration

The canonical declaration of an entry is its key, a space and the full name of its type, with one
star in front of a required type. An array is followed by its element type in parentheses, a map by
its children in braces; entries are separated by single commas. Element types of other entries and
children of entries other than maps are not written.
-/

namespace RecordSchema

namespace Entry

/-- The mark of a required entry. -/
def star (required : Bool) : List Char := if required then ['*'] else []

mutual

/-- The canonical declaration of an entry, as characters. -/
def renderChars : Entry → List Char
  | ⟨key, type, required, element, children⟩ =>
    key.toList ++ ' ' :: star required ++ type.name.toList ++
      match type with
      | .map => '{' :: renderAllChars children ++ ['}']
      | .array => '(' :: (element.elim "" FieldType.name).toList ++ [')']
      | _ => []

/-- The canonical declaration of a list of entries, as characters. -/
def renderAllChars : List Entry → List Char
  | [] => []
  | [entry] => renderChars entry
  | entry :: entries => renderChars entry ++ ',' :: renderAllChars entries

end

/-- The canonical declaration of an entry. -/
def render (entry : Entry) : String := String.ofList entry.renderChars

end Entry

/-- The canonical declaration of a schema. -/
def Schema.render (schema : Schema) : String := String.ofList (Entry.renderAllChars schema)

end RecordSchema
