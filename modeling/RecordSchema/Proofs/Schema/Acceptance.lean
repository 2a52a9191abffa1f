import RecordSchema.Acceptance
import RecordSchema.Proofs.Schema.WellFormed
import RecordSchema.Proofs.Sequencing

/-!
# The first violation

`Schema.accept` walks down a schema and stops at the first entry that breaks a rule. Said without
the walk, there is a list of the entries that are looked at (`Schema.visited`) and for each of them,
apart from the others, the rule that it breaks (`Entry.Violates`):

    accepting a schema  =  checking schema.visited one by one

(`acceptAll_eq_forM`), so that a schema is refused for the first violation in that list and accepted
if there is none (`accept_iff_first_violation`).
-/

namespace RecordSchema

/-! ### Identifiers -/

/-- The letters of ASCII and the underscore. -/
def IsLetter (c : Char) : Prop := 'a' ≤ c ∧ c ≤ 'z' ∨ 'A' ≤ c ∧ c ≤ 'Z' ∨ c = '_'

/-- The digits of ASCII. -/
def IsAsciiDigit (c : Char) : Prop := '0' ≤ c ∧ c ≤ '9'

/-- From 1 to 128 letters and digits, of which the first is a letter. -/
structure IsIdentifier (key : List Char) : Prop where
  length_pos : 1 ≤ key.length
  length_le : key.length ≤ 128
  chars : ∀ c ∈ key, IsLetter c ∨ IsAsciiDigit c
  start : ∀ c ∈ key.head?, IsLetter c

theorem isKeyStart_iff {c : Char} : isKeyStart c = true ↔ IsLetter c := by
  unfold isKeyStart IsLetter Char.isAlpha Char.isUpper Char.isLower
  simp only [Bool.or_eq_true, Bool.and_eq_true, decide_eq_true_eq, beq_iff_eq]
  tauto

theorem isKeyChar_iff {c : Char} : isKeyChar c = true ↔ IsLetter c ∨ IsAsciiDigit c := by
  rw [← isKeyStart_iff]
  unfold isKeyChar isKeyStart IsAsciiDigit Char.isAlphanum Char.isDigit
  simp only [Bool.or_eq_true, Bool.and_eq_true, decide_eq_true_eq, beq_iff_eq]
  tauto

theorem isKey_iff {key : String} : isKey key = true ↔ IsIdentifier key.toList := by
  unfold isKey
  cases key.toList with
  | nil =>
      constructor
      · intro h
        cases h
      · intro h
        have hlength := h.length_pos
        simp at hlength
  | cons c cs =>
      simp only [Bool.and_eq_true, decide_eq_true_eq, List.all_eq_true, isKeyStart_iff,
        isKeyChar_iff]
      constructor
      · rintro ⟨⟨hstart, hchars⟩, hlength⟩
        refine ⟨by simp, Nat.succ_le_succ hlength, ?_, by simpa using hstart⟩
        exact List.forall_mem_cons.mpr ⟨.inl hstart, hchars⟩
      · intro h
        refine ⟨⟨h.start c rfl, (List.forall_mem_cons.mp h.chars).2⟩, ?_⟩
        exact Nat.le_of_succ_le_succ h.length_le

/-! ### What one entry can break -/

/-- The rule that an entry breaks, whatever its children are. -/
inductive Entry.Violates : Entry → Rejection → Prop
  | key {entry : Entry} (hkey : ¬IsIdentifier entry.key.toList) :
      Violates entry (.badKey entry.key)
  | element {entry : Entry} (hkey : IsIdentifier entry.key.toList) (harray : entry.type = .array)
      (helement : ∀ type ∈ entry.element, type ≠ .float ∧ type ≠ .long ∧ type ≠ .string) :
      Violates entry (.badElement entry.key entry.element)

/-- Check an entry without looking at its children. -/
def Entry.check (entry : Entry) : Except Rejection Unit :=
  if isKey entry.key then
    if entry.type = .array then acceptElement entry.key entry.element else .ok ()
  else .error (.badKey entry.key)

theorem not_any_isElement_iff {element : Option FieldType} :
    ¬element.any FieldType.isElement = true ↔
      ∀ type ∈ element, type ≠ .float ∧ type ≠ .long ∧ type ≠ .string := by
  cases element with
  | none => simp
  | some type => cases type <;> simp [FieldType.isElement]

theorem Entry.check_eq_error_iff {entry : Entry} {rejection : Rejection} :
    entry.check = .error rejection ↔ entry.Violates rejection := by
  constructor
  · intro h
    unfold check acceptElement at h
    split at h
    next hkey =>
      split at h
      next harray =>
        split at h
        · cases h
        next helement =>
          cases h
          exact .element (isKey_iff.mp hkey) harray (not_any_isElement_iff.mp helement)
      · cases h
    next hkey =>
      cases h
      exact .key (mt isKey_iff.mpr hkey)
  · intro h
    unfold check acceptElement
    cases h with
    | key hkey => rw [if_neg (mt isKey_iff.mp hkey)]
    | element hkey harray helement =>
        rw [if_pos (isKey_iff.mpr hkey), if_pos harray, if_neg (not_any_isElement_iff.mpr helement)]

theorem Entry.check_eq_ok_iff {entry : Entry} :
    entry.check = .ok () ↔ ∀ rejection, ¬entry.Violates rejection := by
  simp only [← check_eq_error_iff]
  cases entry.check <;> simp

/-! ### Which entries are looked at -/

mutual

/-- The entries that are looked at for an entry: itself, and those in it if it is a map. -/
def Entry.visited : Entry → List Entry
  | ⟨key, type, required, element, children⟩ =>
      ⟨key, type, required, element, children⟩ ::
        if type = .map then Schema.visited children else []

/-- The entries that are looked at for a schema, in order. -/
def Schema.visited : Schema → List Entry
  | [] => []
  | entry :: entries => entry.visited ++ Schema.visited entries

end

theorem Entry.visited_eq (entry : Entry) :
    entry.visited = entry :: if entry.type = .map then Schema.visited entry.children else [] := by
  cases entry
  rw [Entry.visited]

@[simp] theorem Schema.visited_nil : Schema.visited [] = [] := by rw [Schema.visited]

theorem Schema.visited_cons (entry : Entry) (entries : Schema) :
    Schema.visited (entry :: entries) = entry.visited ++ Schema.visited entries := by
  rw [Schema.visited]

/-- An entry is accepted if it passes its own check and, for a map, its children are accepted. -/
theorem Entry.accept_eq (entry : Entry) :
    entry.accept = (do
      entry.check
      if entry.type = .map then acceptAll entry.children else .ok ()) := by
  obtain ⟨key, type, required, element, children⟩ := entry
  unfold accept check
  by_cases hkey : isKey key = true
  · simp only [hkey, if_true]
    cases type <;> simp
    cases acceptElement key element <;> rfl
  · simp [hkey]

/-- The walk down a schema checks the visited entries one by one. -/
theorem acceptAll_eq_forM (schema : Schema) :
    Entry.acceptAll schema = forM schema.visited Entry.check := by
  induction schema using Schema.induct with
  | nil =>
      rw [Entry.acceptAll, Schema.visited_nil]
      rfl
  | cons entry entries ihChildren ihEntries =>
      rw [Entry.acceptAll, Entry.accept_eq, Schema.visited_cons, Entry.visited_eq,
        List.forM_append, List.forM_cons, ihEntries]
      split
      · rw [ihChildren]
      · rfl

/-! ### The verdict -/

theorem Schema.accept_eq_forM {schema : Schema} (h : schema ≠ []) :
    schema.accept = forM schema.visited Entry.check := by
  cases schema with
  | nil => exact absurd rfl h
  | cons entry entries => exact acceptAll_eq_forM (entry :: entries)

theorem Schema.accept_eq_ok_iff {schema : Schema} :
    schema.accept = .ok () ↔ schema ≠ [] ∧ ∀ entry ∈ schema.visited, entry.check = .ok () := by
  by_cases h : schema = []
  · subst h
    simp [accept]
  · rw [accept_eq_forM h, forM_eq_ok_iff]
    simp [h]

/-- A schema is accepted if it is not empty and no entry that is looked at breaks a rule. Otherwise
it is refused for being empty, or for the first entry that breaks one. A refused element type is
told by its name, and by nothing if there is none. -/
theorem accept_iff_first_violation (schema : Schema) :
    (schema.accept = .ok () ↔
      schema ≠ [] ∧ ∀ entry ∈ schema.visited, ∀ rejection, ¬entry.Violates rejection) ∧
    (∀ rejection, schema.accept = .error rejection ↔
      schema = [] ∧ rejection = .emptySchema ∨
      ∃ before entry after, schema.visited = before ++ entry :: after ∧
        (∀ earlier ∈ before, ∀ rejection, ¬earlier.Violates rejection) ∧
        entry.Violates rejection) ∧
    Rejection.elementName none = "" ∧
    ∀ type : FieldType, Rejection.elementName (some type) = type.name := by
  refine ⟨?_, ?_, rfl, fun type => rfl⟩
  · simp only [Schema.accept_eq_ok_iff, Entry.check_eq_ok_iff]
  · intro rejection
    by_cases h : schema = []
    · subst h
      simp [Schema.accept, eq_comm]
    · rw [Schema.accept_eq_forM h, forM_eq_error_iff]
      simp only [h, false_and, false_or, Entry.check_eq_ok_iff, Entry.check_eq_error_iff]

end RecordSchema
