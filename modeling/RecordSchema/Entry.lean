import RecordSchema.FieldType

/-!
# Entries and schemas

An `Entry` describes one field of a record, a `Schema` the fields of a record in order. The type is
deliberately loose: any entry may carry an element type and children, whatever its own type is.
Which combinations a declaration can express, and which are accepted, are questions for the modules
that read, write and check entries.
-/

namespace RecordSchema

/-- One field of a record. -/
structure Entry where
  key : String
  type : FieldType
  required : Bool := false
  element : Option FieldType := none   -- for an array
  children : List Entry := []          -- for a map
deriving Repr

/-- The fields of a record, in order. -/
abbrev Schema := List Entry

namespace Entry

/-! ### Building entries -/

/-- An optional field of the given type. -/
def field (key : String) (type : FieldType) : Entry := { key, type }

/-- An optional array of elements of the given type. -/
def array (key : String) (element : FieldType) : Entry :=
  { key, type := .array, element := some element }

/-- An optional map with the given fields inside. -/
def map (key : String) (children : Schema) : Entry := { key, type := .map, children }

/-- The same entry, required. -/
def require (entry : Entry) : Entry := { entry with required := true }

/-- The same entry with another element type, or with none. -/
def withElement (entry : Entry) (element : Option FieldType) : Entry := { entry with element }

/-! ### Equality -/

mutual

/-- Decide whether two entries are equal. -/
def decEq : (a b : Entry) → Decidable (a = b)
  | ⟨key₁, type₁, required₁, element₁, children₁⟩, ⟨key₂, type₂, required₂, element₂, children₂⟩ =>
    if h : key₁ = key₂ ∧ type₁ = type₂ ∧ required₁ = required₂ ∧ element₁ = element₂ then
      match decEqAll children₁ children₂ with
      | isTrue hc => isTrue (by simp [h, hc])
      | isFalse hc => isFalse (by simp [hc])
    else isFalse (by intro he; cases he; exact h ⟨rfl, rfl, rfl, rfl⟩)

/-- Decide whether two lists of entries are equal. -/
def decEqAll : (as bs : List Entry) → Decidable (as = bs)
  | [], [] => isTrue rfl
  | [], _ :: _ => isFalse (by simp)
  | _ :: _, [] => isFalse (by simp)
  | a :: as, b :: bs =>
    match decEq a b with
    | isTrue h =>
      match decEqAll as bs with
      | isTrue hs => isTrue (by rw [h, hs])
      | isFalse hs => isFalse (by simp [hs])
    | isFalse h => isFalse (by simp [h])

end

instance : DecidableEq Entry := decEq

end Entry

end RecordSchema
