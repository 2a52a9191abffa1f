import RecordSchema.Declaration.Parse
import RecordSchema.Proofs.Declaration.Outline
import RecordSchema.Proofs.Sequencing
import RecordSchema.Proofs.Text.Words

/-!
# Reading an outline

`parseWithin` trims a text, takes its outline and reads the pieces. `readOutline` is the last of
these steps on its own, for an outline of any text, and obeys one equation for each piece. Two facts
about whole texts follow:

* blanks at the end of a text do not change what is read (`readOutline_append_right`);
* nor do blanks at its beginning, unless a block without a head follows them
  (`readOutline_append_left`, `readOutline_dropWhile`): with blanks in front such a block is dropped,
  without them it is a fault.
-/

namespace RecordSchema.Declaration

open RecordSchema.Text

variable {nested : List Char → Except Fault Schema}

/-! ### Piece by piece -/

/-- Read the pieces of an outline, and report an early end of it as a fault of the text `whole`. -/
def readOutline (nested : List Char → Except Fault Schema) (whole : List Char) (found : Outline) :
    Except Fault Schema := do
  let entries ← readPieces nested found.pieces
  found.ending.check whole
  .ok entries

theorem parseWithin_succ (limit levels : Nat) (text : List Char) :
    parseWithin limit (levels + 1) text =
      readOutline (parseWithin limit levels) (trim text) (outline (trim text)) := rfl

/-- A schema was read from the pieces of the outline alone. -/
theorem readPieces_eq_ok {limit levels : Nat} {text : List Char} {schema : Schema}
    (h : parseWithin limit (levels + 1) text = .ok schema) :
    readPieces (parseWithin limit levels) (outline (trim text)).pieces = .ok schema := by
  obtain ⟨entries, hr, h⟩ := bind_eq_ok h
  obtain ⟨-, -, h⟩ := bind_eq_ok h
  cases h
  exact hr

@[simp] theorem readOutline_complete (whole : List Char) :
    readOutline nested whole ⟨[], .complete⟩ = .ok [] := rfl

@[simp] theorem readOutline_unbalanced (whole : List Char) :
    readOutline nested whole ⟨[], .unbalanced⟩ = .error (.unbalanced (String.ofList whole)) := rfl

theorem readOutline_cons (whole : List Char) (piece : Piece) (pieces : List Piece)
    (ending : Ending) :
    readOutline nested whole ⟨piece :: pieces, ending⟩ = (do
      let entry ← readPiece nested piece
      let entries ← readOutline nested whole ⟨pieces, ending⟩
      .ok (entry.toList ++ entries)) := by
  rw [readOutline, readPieces]
  cases hp : readPiece nested piece with
  | error fault => rfl
  | ok entry =>
      rw [ok_bind, readOutline]
      cases hps : readPieces nested pieces with
      | error fault => rfl
      | ok entries => cases ending.check whole <;> simp

theorem readPieces_append (front back : List Piece) :
    readPieces nested (front ++ back) = (do
      let entries ← readPieces nested front
      let more ← readPieces nested back
      .ok (entries ++ more)) := by
  induction front with
  | nil => cases h : readPieces nested back <;> simp [readPieces, h]
  | cons piece front ih =>
      rw [List.cons_append, readPieces, readPieces, ih]
      simp only [bind_assoc, ok_bind, List.append_assoc]

/-! ### Blanks around a field -/

theorem Field.read_append_left {lead : List Char} (h : Blank lead) (text : List Char) :
    Field.read (lead ++ text) = Field.read text := by
  rw [Field.read, trim_append_left h, ← Field.read]

theorem Field.read_append_right {trail : List Char} (h : Blank trail) (text : List Char) :
    Field.read (text ++ trail) = Field.read text := by
  rw [Field.read, trim_append_right h, ← Field.read]

/-- Blanks in front of a head that is not empty change nothing, the text of a fault included. -/
theorem readBlock_append_left {lead head : List Char} (h : Blank lead) (hne : head ≠ [])
    (body : List Char) (children : Schema) :
    readBlock (lead ++ head) body children = readBlock head body children := by
  have hne' : lead ++ head ≠ [] := by simp [hne]
  have htext : trim (blockText (lead ++ head) body) = trim (blockText head body) := by
    rw [blockText, List.append_assoc, List.append_assoc, trim_append_left h, ← List.append_assoc,
      ← blockText]
  have hmap : ∀ field : Field, field.toMap (blockText (lead ++ head) body) children =
      field.toMap (blockText head body) children := by
    intro field
    rw [Field.toMap, Field.toMap, htext]
  simp only [readBlock, List.isEmpty_iff, hne, hne', if_false, Field.read_append_left h, hmap]

/-! ### Blanks around a text -/

/-- Blanks are no commas and no braces. -/
theorem plain_of_blank {g : List Char} (h : Blank g) : Plain g := by
  intro c hc
  have hb := h c hc
  refine ⟨?_, ?_, ?_⟩ <;> rintro rfl <;> exact absurd hb (by decide)

theorem readOutline_append_right {trail : List Char} (h : Blank trail) (whole text : List Char) :
    readOutline nested whole (outline (text ++ trail)) =
      readOutline nested whole (outline text) := by
  have hplain := plain_of_blank h
  induction text using pieceInduction with
  | plain w hw =>
      rw [outline_plain hw, outline_plain (plain_append.mpr ⟨hw, hplain⟩), readOutline_cons,
        readOutline_cons, readPiece, readPiece, Field.read_append_right h]
  | field w text hw ih =>
      rw [List.append_assoc, List.cons_append, outline_field hw, outline_field hw,
        readOutline_cons, readOutline_cons, ih]
  | block head body text hh hb ih =>
      rw [List.append_assoc, List.cons_append, outline_block hh hb, outline_block hh hb,
        readOutline_cons, readOutline_cons, ih]
  | closing w text hw =>
      rw [List.append_assoc, List.cons_append, outline_closing hw, outline_closing hw]
  | unclosed w text hw hun =>
      have hclose : '}' ∉ trail := fun hmem => (hplain _ hmem).2.2 rfl
      rw [List.append_assoc, List.cons_append, outline_unclosed hw hun,
        outline_unclosed hw (hun.append hclose)]

theorem readOutline_append_left {lead : List Char} (h : Blank lead) (whole : List Char)
    {text : List Char} (hne : text.head? ≠ some '{') :
    readOutline nested whole (outline (lead ++ text)) =
      readOutline nested whole (outline text) := by
  have hplain := plain_of_blank h
  -- only the first piece is touched, so the induction is a case split
  induction text using pieceInduction with
  | plain w hw =>
      rw [outline_plain hw, outline_plain (plain_append.mpr ⟨hplain, hw⟩), readOutline_cons,
        readOutline_cons, readPiece, readPiece, Field.read_append_left h]
  | field w text hw _ =>
      rw [← List.append_assoc, outline_field hw, outline_field (plain_append.mpr ⟨hplain, hw⟩),
        readOutline_cons, readOutline_cons, readPiece, readPiece, Field.read_append_left h]
  | block head body text hh hb _ =>
      have hhead : head ≠ [] := by
        rintro rfl
        exact hne rfl
      rw [← List.append_assoc, ← List.append_assoc, outline_block hh hb,
        outline_block (plain_append.mpr ⟨hplain, hh⟩) hb, readOutline_cons, readOutline_cons,
        readPiece, readPiece]
      simp only [readBlock_append_left h hhead]
  | closing w text hw =>
      rw [← List.append_assoc, outline_closing hw, outline_closing (plain_append.mpr ⟨hplain, hw⟩)]
  | unclosed w text hw hun =>
      rw [← List.append_assoc, outline_unclosed hw hun,
        outline_unclosed (plain_append.mpr ⟨hplain, hw⟩) hun]

/-- Blanks may stand in front, unless they keep a block without a head from being a fault. -/
theorem readOutline_dropWhile {whole text : List Char}
    (h : ¬((∃ c ∈ text.head?, isBlank c = true) ∧ (trim text).head? = some '{')) :
    readOutline nested whole (outline (text.dropWhile isBlank)) =
      readOutline nested whole (outline text) := by
  have hlead := blank_takeWhile text
  by_cases hbrace : (text.dropWhile isBlank).head? = some '{'
  · obtain ⟨rest, hrest⟩ := List.head?_eq_some_iff.mp hbrace
    have htrim : (trim text).head? = some '{' := by
      rw [← List.takeWhile_append_dropWhile (p := isBlank) (l := text), hrest]
      exact head?_trim hlead (by decide) rest
    cases text with
    | nil => rfl
    | cons c text =>
        have hc : isBlank c = false := by simpa [htrim] using h
        rw [List.dropWhile_cons_of_neg (by simp [hc])]
  · rw [← readOutline_append_left hlead whole hbrace, List.takeWhile_append_dropWhile]

/-- It is enough to drop the blanks in front of a text before it is read. -/
theorem parseWithin_succ_dropWhile (limit levels : Nat) (text : List Char) :
    parseWithin limit (levels + 1) text =
      readOutline (parseWithin limit levels) (trim text) (outline (text.dropWhile isBlank)) := by
  have htrail : Blank ((text.dropWhile isBlank).rtakeWhile isBlank) :=
    fun c hc => List.mem_rtakeWhile_imp hc
  have htext : trim text ++ (text.dropWhile isBlank).rtakeWhile isBlank = text.dropWhile isBlank :=
    List.rdropWhile_append_rtakeWhile ..
  rw [← htext, readOutline_append_right htrail, parseWithin_succ]

/-- A text may be read without trimming it first, unless trimming uncovers a block without a
head. -/
theorem parseWithin_succ_of_head {limit levels : Nat} {text : List Char}
    (h : (trim text).head? ≠ some '{') :
    parseWithin limit (levels + 1) text =
      readOutline (parseWithin limit levels) (trim text) (outline text) := by
  rw [parseWithin_succ_dropWhile, readOutline_dropWhile fun hbrace => h hbrace.2]

end RecordSchema.Declaration
