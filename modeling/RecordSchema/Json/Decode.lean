import RecordSchema.Entry
import RecordSchema.Json.Skip

/-!
# Schemas from JSON

A schema in JSON is a list of entries. An entry is an object, or the list of its values in the order
`key, valtype, required, elemtype, schema`; only the first two are needed. Members may come in any
order, and others are passed over. A type is given by its name, or by an object from its name to
`null`.

The text is read once from left to right and the first fault decides. Two numbers bound the reading:
`steps`, which is the length of the text and more than any loop can take, and `levels`, the number of
brackets of schemas, entries and types that may still be opened.
-/

namespace RecordSchema.Json

/-- How deep the brackets of a schema may nest. -/
def maxLevels : Nat := 127

/-! ### A value in the place of another -/

/-- Tell what kind of value a text starts with. Words, numbers and texts are read to their end, lists
and objects are known by their bracket. -/
def find (steps : Nat) (cs : List Char) : Except Fault Found :=
  match cs with
  | [] => .error .truncated
  | 'n' :: rest => do
    let _ ← readWord ['u', 'l', 'l'] rest
    .ok .null
  | 't' :: rest => do
    let _ ← readWord ['r', 'u', 'e'] rest
    .ok (.truth true)
  | 'f' :: rest => do
    let _ ← readWord ['a', 'l', 's', 'e'] rest
    .ok (.truth false)
  | '"' :: rest => do
    let (value, _) ← readText steps rest
    .ok (.text value)
  | '[' :: _ => .ok .list
  | '{' :: _ => .ok .object
  | c :: rest =>
    if c = '-' ∨ c.isDigit then do
      let (numeral, _) ← readNumeral .truncated (c :: rest)
      numeral.found
    else .error .malformed

/-- The fault of a text that starts with another kind of value than was expected. -/
def unexpected {α : Type} (steps : Nat) (expected : Expected) (cs : List Char) : Except Fault α := do
  let found ← find steps cs
  .error (.mismatch (.wrongKind found expected))

/-! ### Simple values -/

/-- Read a quoted text. -/
def readString (steps : Nat) : Reader String := fun cs =>
  match skipBlanks cs with
  | '"' :: rest => readText steps rest
  | rest => unexpected steps .text rest

/-- Read `true` or `false`. -/
def readTruth (steps : Nat) : Reader Bool := fun cs =>
  match skipBlanks cs with
  | 't' :: rest => do .ok (true, ← readWord ['r', 'u', 'e'] rest)
  | 'f' :: rest => do .ok (false, ← readWord ['a', 'l', 's', 'e'] rest)
  | rest => unexpected steps .truth rest

/-- Read `null`. -/
def readNull (steps : Nat) : Reader Unit := fun cs =>
  match skipBlanks cs with
  | 'n' :: rest => do .ok ((), ← readWord ['u', 'l', 'l'] rest)
  | rest => unexpected steps .null rest

/-! ### Types -/

/-- The type with a name. -/
def typeNamed (name : String) : Except Fault FieldType :=
  match FieldType.ofName? name with
  | some type => .ok type
  | none => .error (.mismatch (.unknownType name))

/-- Take the closing bracket of a type in object form off a text. -/
def closeType (cs : List Char) : Except Fault (List Char) :=
  match skipBlanks cs with
  | [] => .error .truncated
  | '}' :: rest => .ok rest
  | _ :: _ => .error .malformed

/-- Read a type. In object form its name stands where JSON wants the name of a member, so that a name
without quotes is no JSON and not another kind of value. -/
def readType (steps levels : Nat) : Reader FieldType := fun cs =>
  match skipBlanks cs with
  | [] => .error .truncated
  | '"' :: rest => do
    let (name, rest) ← readText steps rest
    let type ← typeNamed name
    .ok (type, rest)
  | '{' :: rest =>
    match levels with
    | 0 => .error .malformed
    | _ + 1 => do
      let rest ← openName (skipBlanks rest)
      let (name, rest) ← readText steps rest
      let type ← typeNamed name
      let rest ← readColon rest
      let (_, rest) ← readNull steps rest
      let rest ← closeType rest
      .ok (type, rest)
  | _ :: _ => .error .malformed

/-- Read a type, or `null` for none. -/
def readElementType (steps levels : Nat) : Reader (Option FieldType) := fun cs =>
  match skipBlanks cs with
  | 'n' :: rest => do .ok (none, ← readWord ['u', 'l', 'l'] rest)
  | rest => do
    let (type, rest) ← readType steps levels rest
    .ok (some type, rest)

/-! ### Entries -/

/-- The members of an entry that were read so far. -/
structure Draft where
  key : Option String := none
  type : Option FieldType := none
  required : Option Bool := none
  element : Option (Option FieldType) := none
  children : Option Schema := none

namespace Draft

/-- Was the member read already? -/
def has (draft : Draft) : Member → Bool
  | .key => draft.key.isSome
  | .valtype => draft.type.isSome
  | .required => draft.required.isSome
  | .elemtype => draft.element.isSome
  | .schema => draft.children.isSome

/-- Read the value of a member. -/
def readValue (steps levels : Nat) (nested : Reader Schema) (draft : Draft) :
    Member → Reader Draft
  | .key, cs => do
    let (key, rest) ← readString steps cs
    .ok ({ draft with key := some key }, rest)
  | .valtype, cs => do
    let (type, rest) ← readType steps levels cs
    .ok ({ draft with type := some type }, rest)
  | .required, cs => do
    let (required, rest) ← readTruth steps cs
    .ok ({ draft with required := some required }, rest)
  | .elemtype, cs => do
    let (element, rest) ← readElementType steps levels cs
    .ok ({ draft with element := some element }, rest)
  | .schema, cs => do
    let (children, rest) ← nested cs
    .ok ({ draft with children := some children }, rest)

/-- Read a member of an entry from inside the quotes of its name. -/
def readMember (steps levels : Nat) (nested : Reader Schema) (draft : Draft) : Reader Draft :=
  fun cs => do
    let (name, rest) ← readText steps cs
    match Member.ofName? name with
    | some member =>
      if draft.has member then .error (.mismatch (.duplicate member))
      else do
        let rest ← readColon rest
        draft.readValue steps levels nested member rest
    | none => do
      let rest ← readColon rest
      let (_, rest) ← skipValue steps rest
      .ok (draft, rest)

/-- The entry with these members, if those that it needs are there. -/
def toEntry (draft : Draft) : Except Fault Entry :=
  match draft.key, draft.type with
  | none, _ => .error (.mismatch (.missing .key))
  | some _, none => .error (.mismatch (.missing .valtype))
  | some key, some type =>
    .ok {
      key, type
      required := draft.required.getD false
      element := draft.element.getD none
      children := draft.children.getD [] }

end Draft

/-- Read an entry in object form after its opening bracket. -/
def readEntryObject (steps levels : Nat) (nested : Reader Schema) : Reader Entry := fun cs => do
  let (draft, rest) ← readMembers (Draft.readMember steps levels nested) steps true {} cs
  let entry ← draft.toEntry
  .ok (entry, rest)

/-- Take the closing bracket of an entry in list form off a text, when nothing else may follow. -/
def closeEntryList (cs : List Char) : Except Fault (List Char) :=
  match skipBlanks cs with
  | [] => .error .truncated
  | ']' :: rest => .ok rest
  | _ :: _ => .error .malformed

/-- Read the values of the given members in order, up to the closing bracket of the list. -/
def readValues (steps levels : Nat) (nested : Reader Schema) :
    List Member → (first : Bool) → Draft → Reader Draft
  | [], _, draft, cs => do .ok (draft, ← closeEntryList cs)
  | member :: members, first, draft, cs => do
    match ← listStep first cs with
    | .close rest => .ok (draft, rest)
    | .item rest => do
      let (draft, rest) ← draft.readValue steps levels nested member rest
      readValues steps levels nested members false draft rest

/-- The entry that the values of a list make up, if there are enough of them. -/
def Draft.ofList (draft : Draft) : Except Fault Entry :=
  match draft.key, draft.type with
  | none, _ => .error (.mismatch (.tooShort 0))
  | some _, none => .error (.mismatch (.tooShort 1))
  | _, _ => draft.toEntry

/-- Read an entry in list form after its opening bracket. -/
def readEntryList (steps levels : Nat) (nested : Reader Schema) : Reader Entry := fun cs => do
  let (draft, rest) ← readValues steps levels nested Member.all true {} cs
  let entry ← draft.ofList
  .ok (entry, rest)

/-! ### Schemas -/

mutual

/-- Read a list of entries. -/
def readSchema (steps : Nat) : (levels : Nat) → Reader Schema
  | levels, cs =>
    match skipBlanks cs with
    | '[' :: rest =>
      match levels with
      | 0 => .error .malformed
      | levels + 1 => readElements (readEntry steps levels) steps true rest
    | rest => unexpected steps .list rest

/-- Read an entry in either form. -/
def readEntry (steps : Nat) : (levels : Nat) → Reader Entry
  | levels, cs =>
    match skipBlanks cs with
    | '{' :: rest =>
      match levels with
      | 0 => .error .malformed
      | levels + 1 => readEntryObject steps levels (readSchema steps levels) rest
    | '[' :: rest =>
      match levels with
      | 0 => .error .malformed
      | levels + 1 => readEntryList steps levels (readSchema steps levels) rest
    | rest => unexpected steps .entry rest

end

/-- Read a schema from characters, of which nothing but blanks may be left. -/
def decodeChars (cs : List Char) : Except Fault Schema := do
  let (schema, rest) ← readSchema (cs.length + 1) maxLevels cs
  match skipBlanks rest with
  | [] => .ok schema
  | _ :: _ => .error .malformed

/-- Read a schema from a JSON text. -/
def decode (text : String) : Except Fault Schema := decodeChars text.toList

end RecordSchema.Json
