/-!
# What can be wrong with a declaration

A `Fault` is the first thing that keeps a declaration from being read. Each carries the part of the
text it is about, so that it can be found there. `Fault.message` is its wording, and
`Fault.rootCause` looks beneath the field contexts that a fault was reported in.
-/

namespace RecordSchema.Declaration

/-- The reason why a declaration, or a part of it, could not be read. -/
inductive Fault where
  | wrongWordCount (segment : String)
  | missingKey (segment : String)
  | unknownTag (tag : String)
  | missingElement (segment : String)   -- of an array
  | inField (segment key tag : String) (cause : Fault)
  | unnamedBlock (block : String)   -- nothing at all stands before it
  | unbalanced (text : String)
  | tooDeep (limit : Nat) (text : String)
  | inconsistent (detail : String)   -- the numbers of the scan contradict each other
deriving DecidableEq, Repr

namespace Fault

/-- The wording of a fault. -/
def message : Fault → String
  | wrongWordCount segment => "malformed field schema: <" ++ segment ++ "> was invalid"
  | missingKey segment => "field schema '" ++ segment ++ "' key can not be empty"
  | unknownTag tag => "unsupported schema type: " ++ tag
  | missingElement segment =>
    "array type must specify element type surrounded by ( ): " ++ segment
  | inField segment key tag cause =>
    "field '" ++ segment ++ "' (key " ++ key ++ ", type " ++ tag ++ "): " ++ cause.message
  | unnamedBlock block =>
    "nested map must be named, map\x7b\x7d not specified before '" ++ block ++ "'"
  | unbalanced text =>
    "unbalanced braces in schema DSL, \x7b and \x7d not match: " ++ text
  | tooDeep limit text =>
    "schema nested too deep, out of limit " ++ toString limit ++ ": " ++ text
  | inconsistent detail => "internal parser error: " ++ detail

/-- The fault beneath all field contexts. -/
def rootCause : Fault → Fault
  | inField _ _ _ cause => cause.rootCause
  | fault => fault

end Fault

end RecordSchema.Declaration
