/-!
# The types a record field can have

Seven types, each with one canonical name. `FieldType.ofName?` reads exactly these names back; the
short and mixed-case spellings of declarations are the business of `RecordSchema.Declaration.Tag`.
-/

namespace RecordSchema

/-- The type of a record field. -/
inductive FieldType where
  | float
  | string
  | long
  | date
  | array
  | map
  | boolean
deriving DecidableEq, Repr

namespace FieldType

/-- All types, in the order in which they are listed to a reader. -/
def all : List FieldType := [float, string, long, date, array, map, boolean]

/-- The canonical name of a type. -/
def name : FieldType → String
  | float => "float"
  | string => "string"
  | long => "long"
  | date => "date"
  | array => "array"
  | map => "map"
  | boolean => "boolean"

/-- The type with this canonical name, if there is one. -/
def ofName? (name : String) : Option FieldType :=
  all.find? (fun type => type.name == name)

/-- What is told about a name that no type has. -/
def unknownNameMessage (name : String) : String := "unknown value type: " ++ name

/-- May an accepted array hold elements of this type? -/
def isElement : FieldType → Bool
  | float | long | string => true
  | _ => false

@[simp] theorem ofName?_name (type : FieldType) : ofName? type.name = some type := by
  cases type <;> decide

end FieldType

end RecordSchema
