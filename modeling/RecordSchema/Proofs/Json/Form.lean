import RecordSchema.Proofs.Json.Sequence

/-!
# Lists and objects in any form

The same value can be given by many texts. A form is a relation between values and the texts that
give them, and `ReadBy` says that a reader takes every text of a form off the front of what it
reads. `ListForm` and `ObjectForm` lift forms of the parts to all the ways in which brackets, commas
and blanks can be put around them, and what reads the parts reads the whole:
`ListForm.elementsGive`, `ObjectForm.membersGive`.
-/

namespace RecordSchema.Json

/-! ### Before and behind a value -/

/-- The text starts with a character that no blank, and no end of a list, can be taken for. -/
def Opens (cs : List Char) : Prop := ∃ c inside, cs = c :: inside ∧ isJsonBlank c = false ∧ c ≠ ']'

/-- The text is at its end, or starts with something that ends every value in front of it. -/
def Delimited (rest : List Char) : Prop :=
  ∀ c ∈ rest.head?, isJsonBlank c = true ∨ c = ',' ∨ c = ']' ∨ c = '}'

theorem delimited_cons {c : Char} (h : isJsonBlank c = true ∨ c = ',' ∨ c = ']' ∨ c = '}')
    (rest : List Char) : Delimited (c :: rest) := by
  intro d hd
  cases hd
  exact h

theorem JsonBlanks.delimited {blanks rest : List Char} (h : JsonBlanks blanks)
    (hrest : Delimited rest) : Delimited (blanks ++ rest) := by
  cases blanks with
  | nil => exact hrest
  | cons c blanks => exact delimited_cons (.inl (h c List.mem_cons_self)) _

theorem Gap.delimited {gap : List Char} (h : Gap false gap) (rest : List Char) :
    Delimited (gap ++ rest) := by
  cases h with
  | comma hbefore h =>
      rw [List.append_assoc]
      exact hbefore.delimited (delimited_cons (.inr (.inl rfl)) _)

/-- The reader takes every text of the form, with blanks in front, off the text to be read, which
has less than `bound` characters. -/
structure ReadBy {α : Type} (bound : Nat) (reader : Reader α) (form : α → List Char → Prop) :
    Prop where
  opens {value : α} {cs : List Char} (h : form value cs) : Opens cs
  read {value : α} {blanks cs rest : List Char} (hblanks : JsonBlanks blanks) (h : form value cs)
    (hrest : Delimited rest) (hbound : (blanks ++ (cs ++ rest)).length < bound) :
    reader (blanks ++ (cs ++ rest)) = .ok (value, rest)

/-! ### Lists -/

section Lists

variable {α : Type} {form : α → List Char → Prop}

/-- Values with their gaps, up to the bracket that closes the list. -/
inductive ListForm (form : α → List Char → Prop) : (first : Bool) → List α → List Char → Prop
  | close {first : Bool} {blanks : List Char} (h : JsonBlanks blanks) :
      ListForm form first [] (blanks ++ [']'])
  | item {first : Bool} {gap cs more : List Char} {value : α} {values : List α}
      (hgap : Gap first gap) (hvalue : form value cs) (hmore : ListForm form false values more) :
      ListForm form first (value :: values) (gap ++ (cs ++ more))

theorem ListForm.delimited {values : List α} {cs : List Char} (h : ListForm form false values cs)
    (rest : List Char) : Delimited (cs ++ rest) := by
  cases h with
  | close h =>
      rw [List.append_assoc]
      exact h.delimited (delimited_cons (.inr (.inr (.inl rfl))) _)
  | item hgap _ _ =>
      rw [List.append_assoc]
      exact hgap.delimited _

/-- A list is read value by value. -/
theorem ListForm.elementsGive {bound : Nat} {element : Reader α} (hread : ReadBy bound element form)
    {first : Bool} {values : List α} {cs : List Char} (h : ListForm form first values cs)
    {rest : List Char} (hbound : (cs ++ rest).length < bound) :
    ElementsGive element first (cs ++ rest) (.ok (values, rest)) := by
  induction h with
  | close h =>
      rw [List.append_assoc]
      exact elementsGive_close h
  | @item first gap cs more value values hgap hvalue hmore ih =>
      obtain ⟨c, inside, rfl, hc, hopen⟩ := hread.opens hvalue
      simp only [List.append_assoc, List.length_append] at hbound ⊢
      have hvalue := hread.read jsonBlanks_nil hvalue (hmore.delimited rest)
        (by simp only [List.nil_append, List.length_append]; omega)
      have hmore := ih (by simp only [List.length_append]; omega)
      exact elementsGive_item hgap hc hopen hvalue (by simp) hmore

end Lists

/-! ### Objects -/

section Objects

variable {α β : Type} {nameForm form : α → List Char → Prop}

/-- A member from inside the quotes of its name. -/
inductive MemberForm (nameForm form : α → List Char → Prop) : α → List Char → Prop
  | mk {name : α} {text beforeColon afterColon cs : List Char} (hname : nameForm name text)
      (hbefore : JsonBlanks beforeColon) (hafter : JsonBlanks afterColon) (hvalue : form name cs) :
      MemberForm nameForm form name (text ++ '"' :: (beforeColon ++ ':' :: (afterColon ++ cs)))

/-- Members with their gaps, up to the bracket that closes the object. -/
inductive ObjectForm (nameForm form : α → List Char → Prop) :
    (first : Bool) → List α → List Char → Prop
  | close {first : Bool} {blanks : List Char} (h : JsonBlanks blanks) :
      ObjectForm nameForm form first [] (blanks ++ ['}'])
  | member {first : Bool} {gap cs more : List Char} {name : α} {names : List α}
      (hgap : Gap first gap) (hmember : MemberForm nameForm form name cs)
      (hmore : ObjectForm nameForm form false names more) :
      ObjectForm nameForm form first (name :: names) (gap ++ '"' :: (cs ++ more))

theorem ObjectForm.delimited {names : List α} {cs : List Char}
    (h : ObjectForm nameForm form false names cs) (rest : List Char) : Delimited (cs ++ rest) := by
  cases h with
  | close h =>
      rw [List.append_assoc]
      exact h.delimited (delimited_cons (.inr (.inr (.inr rfl))) _)
  | member hgap _ _ =>
      rw [List.append_assoc]
      exact hgap.delimited _

/-- An object is read member by member. What is gathered is told by the names that were met, the
last of them first; `all` are those of the whole object. -/
theorem ObjectForm.membersGive {bound : Nat} {member : β → Reader β} {gathered : List α → β}
    {all : List α}
    (hread : ∀ {earlier later : List α} {name : α} {cs rest : List Char},
      later.reverseAux (name :: earlier) = all → MemberForm nameForm form name cs →
      Delimited rest → (cs ++ rest).length < bound →
      member (gathered earlier) (cs ++ rest) = .ok (gathered (name :: earlier), rest))
    {first : Bool} {names earlier : List α} {cs : List Char}
    (h : ObjectForm nameForm form first names cs) (hall : names.reverseAux earlier = all)
    {rest : List Char} (hbound : (cs ++ rest).length < bound) :
    MembersGive member first (gathered earlier) (cs ++ rest) (.ok (gathered all, rest)) := by
  induction h generalizing earlier with
  | close h =>
      rw [← hall, List.append_assoc]
      exact membersGive_close h
  | @member first gap cs more name names hgap hmember hmore ih =>
      simp only [List.append_assoc, List.cons_append, List.length_append, List.length_cons]
        at hbound ⊢
      have hmember := hread hall hmember (hmore.delimited rest)
        (by simp only [List.length_append]; omega)
      have hmore := ih hall (by simp only [List.length_append]; omega)
      exact membersGive_item hgap hmember (by simp) hmore

end Objects

end RecordSchema.Json
