import RecordSchema.Json.Decode
import RecordSchema.Proofs.Json.Form

/-!
# Keys, types and truth values

The values of an entry that are not lists of entries, in all their forms: a text with any escapes, a
type by its name or as an object from the name to `null`, no type as `null`, and the two words for
truth. Each form is read back by the reader for its place.
-/

namespace RecordSchema.Json

variable {steps levels : Nat} {blanks cs rest : List Char}

/-! ### Texts and words -/

/-- A text between quotes. -/
inductive QuotedForm : String → List Char → Prop
  | mk {text : String} {inside : List Char} (h : TextForm text.toList inside) :
      QuotedForm text ('"' :: (inside ++ ['"']))

theorem quotedForm_encodeText (text : String) : QuotedForm text (encodeText text) :=
  .mk (textForm_escaped text.toList)

theorem QuotedForm.opens {text : String} (h : QuotedForm text cs) : Opens cs := by
  cases h
  exact ⟨'"', _, rfl, by decide, by decide⟩

/-- A quoted text is read in any of its forms. The blanks, the text and the rest together bound the
steps that the reader may take, here and for all values below. -/
theorem QuotedForm.readString {text : String} (h : QuotedForm text cs) (hblanks : JsonBlanks blanks)
    (hsteps : (blanks ++ (cs ++ rest)).length < steps) :
    readString steps (blanks ++ (cs ++ rest)) = .ok (text, rest) := by
  cases h with
  | mk h =>
      rw [List.cons_append, List.append_assoc, Json.readString, hblanks.skip rfl]
      apply h.readText
      simp at hsteps
      omega

/-- The word for a missing value. -/
def nullWord : List Char := ['n', 'u', 'l', 'l']

theorem opens_nullWord : Opens nullWord := ⟨'n', _, rfl, by decide, by decide⟩

theorem readNull_word (hblanks : JsonBlanks blanks) :
    readNull steps (blanks ++ (nullWord ++ rest)) = .ok ((), rest) := by
  show readNull steps (blanks ++ 'n' :: (['u', 'l', 'l'] ++ rest)) = _
  rw [readNull, hblanks.skip rfl]
  rfl

/-- The word for a truth value. -/
def truthWord (value : Bool) : List Char := (if value then "true" else "false").toList

theorem opens_truthWord (value : Bool) : Opens (truthWord value) := by
  cases value with
  | true => exact ⟨'t', _, rfl, by decide, by decide⟩
  | false => exact ⟨'f', _, rfl, by decide, by decide⟩

theorem readTruth_word (hblanks : JsonBlanks blanks) (value : Bool) :
    readTruth steps (blanks ++ (truthWord value ++ rest)) = .ok (value, rest) := by
  cases value with
  | true =>
      show readTruth steps (blanks ++ 't' :: (['r', 'u', 'e'] ++ rest)) = _
      rw [readTruth, hblanks.skip rfl]
      rfl
  | false =>
      show readTruth steps (blanks ++ 'f' :: (['a', 'l', 's', 'e'] ++ rest)) = _
      rw [readTruth, hblanks.skip rfl]
      rfl

/-! ### Types -/

/-- A name of a member, between its quotes. -/
def NameForm (name : String) (cs : List Char) : Prop := TextForm name.toList cs

/-- A type with so many levels of brackets left. -/
inductive TypeForm : (levels : Nat) → FieldType → List Char → Prop
  | name {levels : Nat} {type : FieldType} {cs : List Char} (h : QuotedForm type.name cs) :
      TypeForm levels type cs
  | object {levels : Nat} {type : FieldType} {cs : List Char}
      (h : ObjectForm NameForm (fun _ cs => cs = nullWord) true [type.name] cs) :
      TypeForm (levels + 1) type ('{' :: cs)

/-- The first character tells the two forms apart. -/
theorem TypeForm.exists_eq_cons {type : FieldType} (h : TypeForm levels type cs) :
    ∃ c inside, cs = c :: inside ∧ (c = '"' ∨ c = '{') := by
  cases h with
  | name h =>
      cases h
      exact ⟨'"', _, rfl, .inl rfl⟩
  | object h => exact ⟨'{', _, rfl, .inr rfl⟩

theorem TypeForm.opens {type : FieldType} (h : TypeForm levels type cs) : Opens cs := by
  obtain ⟨c, inside, rfl, rfl | rfl⟩ := h.exists_eq_cons
  · exact ⟨'"', inside, rfl, by decide, by decide⟩
  · exact ⟨'{', inside, rfl, by decide, by decide⟩

/-- A type is read in either form. The object form has one member, which is taken apart here: its name
is that of the type, its value the word `null`. -/
theorem TypeForm.readType {type : FieldType} (h : TypeForm levels type cs)
    (hblanks : JsonBlanks blanks) (hsteps : (blanks ++ (cs ++ rest)).length < steps) :
    readType steps levels (blanks ++ (cs ++ rest)) = .ok (type, rest) := by
  have hnamed : typeNamed type.name = .ok type := by rw [typeNamed, FieldType.ofName?_name]
  cases h with
  | name h =>
      cases h with
      | @mk inside h =>
          have htext : readText steps (inside ++ '"' :: rest) = .ok (type.name, rest) :=
            h.readText (by simp at hsteps; omega)
          rw [List.cons_append, List.append_assoc, Json.readType, hblanks.skip rfl]
          simp [htext, hnamed]
  | object h =>
      obtain _ | @⟨_, gap, _, _, _, _, hgap, hmember, hmore⟩ := h
      obtain ⟨hfront⟩ := hgap
      obtain @⟨text, beforeColon, afterColon, _, hname, hbefore, hafter, rfl⟩ := hmember
      obtain @⟨_, behind, hbehind⟩ := hmore
      simp only [List.append_assoc, List.cons_append, List.nil_append] at hsteps ⊢
      have htext : ∀ rest, readText steps (text ++ '"' :: rest) = .ok (type.name, rest) :=
        fun _ => hname.readText (by simp at hsteps; omega)
      have hclose : closeType (behind ++ '}' :: rest) = .ok rest := by
        rw [closeType, hbehind.skip rfl]
        rfl
      rw [Json.readType, hblanks.skip rfl]
      simp [hfront.skip, openName, htext, hnamed, readColon_append hbefore, readNull_word hafter,
        hclose, isJsonBlank]

/-- The element type of an entry, if it has one. -/
def ElementForm (levels : Nat) : Option FieldType → List Char → Prop
  | none, cs => cs = nullWord
  | some type, cs => TypeForm levels type cs

theorem ElementForm.opens {element : Option FieldType} (h : ElementForm levels element cs) :
    Opens cs := by
  cases element with
  | none =>
      obtain rfl : cs = nullWord := h
      exact opens_nullWord
  | some type => exact TypeForm.opens h

/-- No type in any form starts like the word for none, so the first character decides. -/
theorem ElementForm.readElementType {element : Option FieldType} (h : ElementForm levels element cs)
    (hblanks : JsonBlanks blanks) (hsteps : (blanks ++ (cs ++ rest)).length < steps) :
    readElementType steps levels (blanks ++ (cs ++ rest)) = .ok (element, rest) := by
  cases element with
  | none =>
      obtain rfl : cs = nullWord := h
      show readElementType steps levels (blanks ++ 'n' :: (['u', 'l', 'l'] ++ rest)) = _
      rw [Json.readElementType, hblanks.skip rfl]
      rfl
  | some type =>
      replace h : TypeForm levels type cs := h
      have htype : readType steps levels ([] ++ (cs ++ rest)) = .ok (type, rest) :=
        h.readType jsonBlanks_nil (by simp at hsteps ⊢; omega)
      obtain ⟨c, inside, rfl, hc⟩ := h.exists_eq_cons
      rw [List.nil_append, List.cons_append] at htype
      rw [List.cons_append, Json.readElementType]
      rcases hc with rfl | rfl
      · rw [hblanks.skip rfl]
        simp [htype]
      · rw [hblanks.skip rfl]
        simp [htype]

/-! ### Members of a draft

The value of each member is read into its own place, and the other places are left as they are. -/

namespace Draft

variable {draft : Draft} {nested : Reader Schema}

theorem readValue_key {key : String} (h : QuotedForm key cs) (hblanks : JsonBlanks blanks)
    (hsteps : (blanks ++ (cs ++ rest)).length < steps) :
    draft.readValue steps levels nested .key (blanks ++ (cs ++ rest)) =
      .ok ({ draft with key := some key }, rest) := by
  rw [readValue, h.readString hblanks hsteps]
  rfl

theorem readValue_valtype {type : FieldType} (h : TypeForm levels type cs)
    (hblanks : JsonBlanks blanks) (hsteps : (blanks ++ (cs ++ rest)).length < steps) :
    draft.readValue steps levels nested .valtype (blanks ++ (cs ++ rest)) =
      .ok ({ draft with type := some type }, rest) := by
  rw [readValue, h.readType hblanks hsteps]
  rfl

theorem readValue_required (hblanks : JsonBlanks blanks) (required : Bool) :
    draft.readValue steps levels nested .required (blanks ++ (truthWord required ++ rest)) =
      .ok ({ draft with required := some required }, rest) := by
  rw [readValue, readTruth_word hblanks]
  rfl

theorem readValue_elemtype {element : Option FieldType} (h : ElementForm levels element cs)
    (hblanks : JsonBlanks blanks) (hsteps : (blanks ++ (cs ++ rest)).length < steps) :
    draft.readValue steps levels nested .elemtype (blanks ++ (cs ++ rest)) =
      .ok ({ draft with element := some element }, rest) := by
  rw [readValue, h.readElementType hblanks hsteps]
  rfl

end Draft

end RecordSchema.Json
