import RecordSchema.FieldType
import RecordSchema.Text.Quoted

/-!
# What can be wrong with a schema in JSON

A text fails to be a schema in JSON in one of three ways: it ends too early, it is not JSON, or it is
JSON of the wrong shape. Only the last says more, and its wording is `Mismatch.message`.
-/

namespace RecordSchema.Json

open RecordSchema.Text

/-- The members of an entry. -/
inductive Member where
  | key
  | valtype
  | required
  | elemtype
  | schema
deriving DecidableEq, Repr

namespace Member

/-- The members in the order in which they are written. -/
def all : List Member := [key, valtype, required, elemtype, schema]

/-- The name of a member. -/
def name : Member → String
  | key => "key"
  | valtype => "valtype"
  | required => "required"
  | elemtype => "elemtype"
  | schema => "schema"

/-- The member with this name, if there is one. -/
def ofName? (name : String) : Option Member := all.find? (fun member => member.name == name)

@[simp] theorem ofName?_name (member : Member) : ofName? member.name = some member := by
  cases member <;> decide

end Member

/-- The kind of value that a place asks for. -/
inductive Expected where
  | list
  | entry
  | text
  | truth
  | null
deriving DecidableEq, Repr

/-- How a place describes what it asks for. -/
def Expected.description : Expected → String
  | list => "a sequence"
  | entry => "struct SchemaEntry"
  | text => "a string"
  | truth => "a boolean"
  | null => "unit"

/-- The kind of value that was found instead. -/
inductive Found where
  | null
  | truth (value : Bool)
  | integer (value : Int)
  | decimal (shown : String)   -- any number that is not an integer of 64 bits
  | text (value : String)
  | list
  | object
deriving DecidableEq, Repr

/-- How a value that was found is described. -/
def Found.description : Found → String
  | null => "null"
  | truth value => "boolean `" ++ (if value then "true" else "false") ++ "`"
  | integer value => "integer `" ++ toString value ++ "`"
  | decimal shown => "floating point `" ++ shown ++ "`"
  | text value => "string " ++ String.ofList (quoted value.toList)
  | list => "sequence"
  | object => "map"

/-- JSON of the wrong shape. -/
inductive Mismatch where
  | missing (member : Member)
  | duplicate (member : Member)
  | unknownType (name : String)
  | wrongKind (found : Found) (expected : Expected)
  | tooShort (count : Nat)   -- the values of an entry in list form
deriving DecidableEq, Repr

/-- The wording of a mismatch. -/
def Mismatch.message : Mismatch → String
  | missing member => "missing field `" ++ member.name ++ "`"
  | duplicate member => "duplicate field `" ++ member.name ++ "`"
  | unknownType name =>
    "unknown variant `" ++ name ++ "`, expected one of " ++
      String.intercalate ", " (FieldType.all.map fun type => "`" ++ type.name ++ "`")
  | wrongKind found expected =>
    "invalid type: " ++ found.description ++ ", expected " ++ expected.description
  | tooShort count =>
    "invalid length " ++ toString count ++ ", expected struct SchemaEntry with 5 elements"

/-- The reason why a text is not a schema in JSON. -/
inductive Fault where
  | truncated
  | malformed   -- not JSON, or nested too deep
  | mismatch (mismatch : Mismatch)
deriving DecidableEq, Repr

/-- A reader takes a value off the front of a text and gives back the rest. -/
abbrev Reader (α : Type) := List Char → Except Fault (α × List Char)

end RecordSchema.Json
