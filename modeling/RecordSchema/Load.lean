import RecordSchema.Acceptance
import RecordSchema.Declaration.Parse
import RecordSchema.Declaration.Render

/-!
# Loading a declaration

`load` reads a declaration and accepts the schema it describes; `roundTrip` reads a declaration,
writes what was read and reads that again.
-/

namespace RecordSchema

open RecordSchema.Declaration

/-- The reason why a declaration was not loaded. -/
inductive LoadFault where
  | unreadable (fault : Fault)
  | refused (rejection : Rejection)
deriving DecidableEq, Repr

/-- The wording of a loading fault, which tells the two stages apart. -/
def LoadFault.message : LoadFault → String
  | unreadable fault => "Parse error: " ++ fault.message
  | refused rejection => "Validation error: " ++ rejection.message

/-- Read a declaration whose blocks may nest `limit` deep, and accept its schema. -/
def loadWithin (limit : Nat) (text : String) : Except LoadFault Schema := do
  let schema ← (parse limit text).mapError LoadFault.unreadable
  schema.accept.mapError LoadFault.refused
  .ok schema

/-- Read a declaration with the default limit, and accept its schema. -/
def load (text : String) : Except LoadFault Schema := loadWithin defaultLimit text

/-- What became of a schema that was written and read again. -/
structure RoundTrip where
  text : String   -- the canonical declaration
  count : Nat
  same : Except Fault Bool

/-- Write a schema and read it again. -/
def Schema.reread (limit : Nat) (schema : Schema) : Except Fault (Schema × Bool) := do
  let again ← parse limit schema.render
  .ok (again, again = schema)

/-- Read a declaration, write its schema and read that again. -/
def roundTrip (limit : Nat) (text : String) : Except Fault RoundTrip := do
  let schema ← parse limit text
  .ok {
    text := schema.render
    count := schema.length
    same := (schema.reread limit).map Prod.snd }

end RecordSchema
