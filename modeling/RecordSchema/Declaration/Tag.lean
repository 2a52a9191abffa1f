import RecordSchema.Declaration.Fault
import RecordSchema.FieldType
import RecordSchema.Text.Blank
import RecordSchema.Text.LowerCase

/-!
# Type tags

A tag is the word that names a type in a declaration. Case and surrounding blanks do not count, and
every type has a short spelling. An array cannot be named by a tag alone, because its element type
has to be given with it.
-/

namespace RecordSchema.Declaration

open RecordSchema.Text

/-- The words that name a type in a declaration, in lower case. -/
def spellings : FieldType → List String
  | .float => ["f", "float"]
  | .string => ["s", "string"]
  | .long => ["l", "long"]
  | .date => ["d", "date"]
  | .array => ["a", "array"]
  | .map => ["m", "map"]
  | .boolean => ["b", "bool", "boolean"]

/-- The type that a word in lower case names. -/
def typeOfWord? (word : String) : Option FieldType :=
  FieldType.all.find? (fun type => (spellings type).contains word)

/-- Read a tag. A blank tag leaves the type open. -/
def readTag (tag : List Char) : Except Fault (Option FieldType) :=
  match trim tag with
  | [] => .ok none
  | letters =>
    let word := String.ofList (lower letters)
    match typeOfWord? word with
    | some .array => .error (.missingElement word)
    | some type => .ok (some type)
    | none => .error (.unknownTag word)

/-! ### Spellings tell types apart -/

/-- A word names at most one type: reading a spelling gives the type it was listed for. -/
theorem typeOfWord?_of_mem {type : FieldType} {word : String} (h : word ∈ spellings type) :
    typeOfWord? word = some type := by
  cases type <;> simp only [spellings, List.mem_cons, List.not_mem_nil, or_false] at h <;>
    rcases h with rfl | rfl | rfl <;> decide

end RecordSchema.Declaration
