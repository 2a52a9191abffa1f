import RecordSchema.Json.Sequence
import RecordSchema.Proofs.Json.Quoted

/-!
# Parts between brackets

Lists and objects are written as parts after commas and blanks, and read part by part.
`ElementsGive` and `MembersGive` say what the rest of a list or an object is read as, with any
number of steps that exceeds the number of characters left. Their rules go from the back of a text
to its front: what stands at the closing bracket is known, and each part is put before it.

`Layout.IsBlank` asks of a layout that it writes nothing but blanks; `exists_bracketed_eq` then
brings what is written into the form that the rules take apart.
-/

namespace RecordSchema.Json

variable {blanks gap rest : List Char} {first : Bool}

/-- What may stand before a part: blanks, and among them a comma unless the part is the first. -/
inductive Gap : (first : Bool) → List Char → Prop
  | first {blanks : List Char} (h : JsonBlanks blanks) : Gap true blanks
  | comma {before blanks : List Char} (hbefore : JsonBlanks before) (h : JsonBlanks blanks) :
      Gap false (before ++ ',' :: blanks)

/-- What is written before a part: blanks, after a comma unless the part is the first. -/
def lead (first : Bool) (blanks : List Char) : List Char :=
  if first then blanks else ',' :: blanks

theorem JsonBlanks.gap_lead (h : JsonBlanks blanks) (first : Bool) :
    Gap first (lead first blanks) := by
  cases first with
  | true => exact .first h
  | false => exact .comma jsonBlanks_nil h

/-! ### Single steps -/

/-- Behind a gap stands the next element. It must not start with a blank, which would be skipped, nor
with the bracket that closes the list. -/
theorem listStep_item (h : Gap first gap) {c : Char} (hc : isJsonBlank c = false)
    (hopen : c ≠ ']') : listStep first (gap ++ c :: rest) = .ok (.item (c :: rest)) := by
  cases h with
  | first h => simp [listStep, h.skip hc]
  | @comma before blanks hbefore h =>
      have hcomma : skipBlanks (before ++ ',' :: (blanks ++ c :: rest)) = _ := hbefore.skip rfl
      rw [List.append_assoc, List.cons_append]
      simp [listStep, hcomma, h.skip hc, hopen]

theorem listStep_close (h : JsonBlanks blanks) :
    listStep first (blanks ++ ']' :: rest) = .ok (.close rest) := by
  rw [listStep, h.skip rfl]
  rfl

/-- Behind a gap stands the next name, which is known by its quote. -/
theorem objectStep_item (h : Gap first gap) :
    objectStep first (gap ++ '"' :: rest) = .ok (.item rest) := by
  cases h with
  | first h =>
      rw [objectStep, h.skip rfl]
      rfl
  | comma hbefore h =>
      rw [List.append_assoc, List.cons_append, objectStep, hbefore.skip rfl]
      show Step.item <$> openName (skipBlanks (_ ++ '"' :: rest)) = _
      rw [h.skip rfl]
      rfl

theorem objectStep_close (h : JsonBlanks blanks) :
    objectStep first (blanks ++ '}' :: rest) = .ok (.close rest) := by
  rw [objectStep, h.skip rfl]
  rfl

theorem readColon_append (h : JsonBlanks blanks) :
    readColon (blanks ++ ':' :: rest) = .ok rest := by
  rw [readColon, h.skip rfl]
  rfl

/-! ### Elements -/

section Elements

variable {α : Type} {element : Reader α} {cs : List Char}

/-- What the elements of a list are read as, from here to its closing bracket. -/
def ElementsGive (element : Reader α) (first : Bool) (cs : List Char)
    (result : Except Fault (List α × List Char)) : Prop :=
  ∀ steps, cs.length < steps → readElements element steps first cs = result

/-- At the closing bracket there is nothing more to read. -/
theorem elementsGive_close (h : JsonBlanks blanks) :
    ElementsGive element first (blanks ++ ']' :: rest) (.ok ([], rest)) := by
  intro steps hsteps
  obtain _ | steps := steps
  · simp at hsteps
  · rw [readElements, listStep_close h]
    rfl

/-- An element that is read comes before whatever those behind it give, a fault of theirs included.
It must not give characters back, since the steps are counted by what is left. -/
theorem elementsGive_item (h : Gap first gap) {c : Char} (hc : isJsonBlank c = false)
    (hopen : c ≠ ']') {value : α} {result : Except Fault (List α × List Char)}
    (hvalue : element (c :: cs) = .ok (value, rest)) (hlength : rest.length ≤ cs.length)
    (hrest : ElementsGive element false rest result) :
    ElementsGive element first (gap ++ c :: cs)
      (result >>= fun (values, rest) => .ok (value :: values, rest)) := by
  intro steps hsteps
  obtain _ | steps := steps
  · simp at hsteps
  · have hrest := hrest steps (by simp at hsteps; omega)
    rw [readElements, listStep_item h hc hopen, ok_bind]
    simp only [hvalue, ok_bind, hrest]

/-- An element that cannot be read decides, whatever stands behind it. -/
theorem elementsGive_fault (h : Gap first gap) {c : Char} (hc : isJsonBlank c = false)
    (hopen : c ≠ ']') {fault : Fault} (hvalue : element (c :: cs) = .error fault) :
    ElementsGive element first (gap ++ c :: cs) (.error fault) := by
  intro steps hsteps
  obtain _ | steps := steps
  · simp at hsteps
  · rw [readElements, listStep_item h hc hopen, ok_bind]
    simp only [hvalue, error_bind]

end Elements

/-! ### Members -/

section Members

variable {α : Type} {member : α → Reader α} {gathered : α} {cs : List Char}

/-- What the members of an object are gathered into, from here to its closing bracket. -/
def MembersGive (member : α → Reader α) (first : Bool) (gathered : α) (cs : List Char)
    (result : Except Fault (α × List Char)) : Prop :=
  ∀ steps, cs.length < steps → readMembers member steps first gathered cs = result

/-- At the closing bracket everything is gathered. -/
theorem membersGive_close (h : JsonBlanks blanks) :
    MembersGive member first gathered (blanks ++ '}' :: rest) (.ok (gathered, rest)) := by
  intro steps hsteps
  obtain _ | steps := steps
  · simp at hsteps
  · rw [readMembers, objectStep_close h]
    rfl

/-- A member that is read is gathered, and those behind it are gathered into what that gives. -/
theorem membersGive_item (h : Gap first gap) {gathered' : α}
    {result : Except Fault (α × List Char)}
    (hmember : member gathered cs = .ok (gathered', rest)) (hlength : rest.length ≤ cs.length)
    (hrest : MembersGive member false gathered' rest result) :
    MembersGive member first gathered (gap ++ '"' :: cs) result := by
  intro steps hsteps
  obtain _ | steps := steps
  · simp at hsteps
  · have hrest := hrest steps (by simp at hsteps; omega)
    rw [readMembers, objectStep_item h, ok_bind]
    simp only [hmember, ok_bind, hrest]

/-- A member that cannot be read decides, whatever stands behind it. -/
theorem membersGive_fault (h : Gap first gap) {fault : Fault}
    (hmember : member gathered cs = .error fault) :
    MembersGive member first gathered (gap ++ '"' :: cs) (.error fault) := by
  intro steps hsteps
  obtain _ | steps := steps
  · simp at hsteps
  · rw [readMembers, objectStep_item h, ok_bind]
    simp only [hmember, error_bind]

end Members

/-! ### Parts as they are written -/

/-- A layout that writes nothing but blanks. -/
structure Layout.IsBlank (layout : Layout) : Prop where
  lineStart (level : Nat) : JsonBlanks (layout.lineStart level)
  afterColon : JsonBlanks layout.afterColon

theorem Layout.isBlank_compact : Layout.compact.IsBlank :=
  ⟨fun _ => jsonBlanks_nil, jsonBlanks_nil⟩

theorem Layout.isBlank_indented : Layout.indented.IsBlank := by
  constructor
  · intro level c hc
    rcases List.mem_cons.mp hc with rfl | hc
    · rfl
    · rw [List.eq_of_mem_replicate hc]
      rfl
  · intro c hc
    rw [List.mem_singleton.mp hc]
    rfl

/-- Parts one after the other, each with what stands before it. -/
def joined (lineStart : List Char) : (first : Bool) → List (List Char) → List Char
  | _, [] => []
  | first, part :: parts => lead first lineStart ++ (part ++ joined lineStart false parts)

theorem joined_append (lineStart : List Char) (front back : List (List Char)) :
    joined lineStart false (front ++ back) =
      joined lineStart false front ++ joined lineStart false back := by
  induction front with
  | nil => rfl
  | cons part front ih => simp [joined, ih]

/-- The writer puts a comma behind each part but the last, the rules one before each but the first. -/
theorem separated_eq_joined (lineStart : List Char) (parts : List (List Char)) :
    separated lineStart parts = joined lineStart true parts := by
  cases parts with
  | nil => rfl
  | cons part parts =>
      rw [joined, lead, if_pos rfl]
      induction parts generalizing part with
      | nil => simp [separated, joined]
      | cons next parts ih => simp [separated, joined, lead, ih next]

/-- What is written between brackets is parts and blanks in front of the closing bracket. Without
parts there are no blanks either, so these are not told from the layout alone. -/
theorem exists_bracketed_eq {layout : Layout} (hlayout : layout.IsBlank) (level : Nat)
    (opening closing : Char) (parts : List (List Char)) :
    ∃ blanks, JsonBlanks blanks ∧ ∀ rest, bracketed layout level opening closing parts ++ rest =
      opening :: (joined (layout.lineStart (level + 1)) true parts ++
        (blanks ++ closing :: rest)) := by
  cases parts with
  | nil => exact ⟨[], jsonBlanks_nil, fun rest => rfl⟩
  | cons part parts =>
      refine ⟨layout.lineStart level, hlayout.lineStart level, fun rest => ?_⟩
      simp [bracketed, separated_eq_joined]

end RecordSchema.Json
