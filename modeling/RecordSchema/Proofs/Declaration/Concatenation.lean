import RecordSchema.Proofs.Declaration.Fault

/-!
# Two declarations in one

Two texts with a comma between them are read one after the other (`parse_append_comma`). Three
things stand between this and the scan:

* a comma inside an open brace separates nothing, so the first text has to close its braces; a fault
  of one of its pieces is found before that matters (`pieces_outline_append_comma`);
* the second text keeps the blanks in front of it, and with these a block without a head is dropped
  instead of being a fault (`readOutline_dropWhile`);
* a fault about braces names the text that was scanned, and this is now another. The bodies of
  blocks are balanced, so that no such fault comes from inside (`mapError_relocate_of_balanced`).
-/

namespace RecordSchema.Declaration

open RecordSchema.Text

/-! ### The outline of two texts -/

theorem outline_append_comma {text : List Char} (h : (outline text).ending = .complete)
    (rest : List Char) :
    outline (text ++ ',' :: rest) =
      ⟨(outline text).pieces ++ (outline rest).pieces, (outline rest).ending⟩ := by
  induction text using pieceInduction with
  | plain w hw => rw [outline_field hw, outline_plain hw, List.singleton_append]
  | field w text hw ih =>
      rw [outline_field hw] at h
      rw [List.append_assoc, List.cons_append, outline_field hw, outline_field hw, ih h]
      rfl
  | block head body text hh hb ih =>
      rw [outline_block hh hb] at h
      rw [List.append_assoc, List.cons_append, outline_block hh hb, outline_block hh hb, ih h]
      rfl
  | closing w text hw => simp [outline_closing hw] at h
  | unclosed w text hw hun => simp [outline_unclosed hw hun] at h

/-- The pieces of the first text come first, whether or not its braces match. -/
theorem pieces_outline_append_comma (text rest : List Char) :
    (outline text).pieces <+: (outline (text ++ ',' :: rest)).pieces := by
  induction text using pieceInduction with
  | plain w hw => simp [outline_plain hw, outline_field hw]
  | field w text hw ih =>
      rw [List.append_assoc, List.cons_append, outline_field hw, outline_field hw]
      exact List.cons_prefix_cons.mpr ⟨rfl, ih⟩
  | block head body text hh hb ih =>
      rw [outline_block hh hb, List.append_assoc, List.cons_append, outline_block hh hb]
      exact List.cons_prefix_cons.mpr ⟨rfl, ih⟩
  | closing w text hw => simp [outline_closing hw]
  | unclosed w text hw hun => simp [outline_unclosed hw hun]

/-! ### Reading two texts -/

section

variable {nested : List Char → Except Fault Schema} {whole text : List Char}

/-- A fault of a piece stays the first fault, whatever follows. -/
theorem readOutline_append_comma_error {fault : Fault}
    (h : readOutline nested whole (outline text) = .error fault)
    (hne : ∀ text, fault ≠ .unbalanced text) (whole' rest : List Char) :
    readOutline nested whole' (outline (text ++ ',' :: rest)) = .error fault := by
  rcases bind_eq_error h with h | ⟨entries, -, h⟩
  · obtain ⟨more, hmore⟩ := pieces_outline_append_comma text rest
    rw [readOutline, ← hmore, readPieces_append, h]
    rfl
  · -- all pieces were read, so the fault is one about braces
    rcases ending_outline text with hending | hending
    · rw [hending] at h
      cases h
    · rw [hending] at h
      cases h
      exact absurd rfl (hne _)

theorem readOutline_append_comma_ok {entries : Schema}
    (h : readOutline nested whole (outline text) = .ok entries) (whole' rest : List Char) :
    readOutline nested whole' (outline (text ++ ',' :: rest)) = (do
      let more ← readOutline nested whole' (outline rest)
      .ok (entries ++ more)) := by
  obtain ⟨read, hread, h⟩ := bind_eq_ok h
  obtain ⟨_, hcheck, h⟩ := bind_eq_ok h
  cases h
  have hending : (outline text).ending = .complete := by
    rcases ending_outline text with hending | hending
    · exact hending
    · rw [hending] at hcheck
      cases hcheck
  rw [outline_append_comma hending, readOutline, readPieces_append, hread, readOutline]
  simp only [bind_assoc, ok_bind]

end

/-! ### Faults about braces -/

/-- The same fault, as a fault of another text if it is about the braces of a text. -/
def Fault.relocate (text : List Char) : Fault → Fault
  | .unbalanced _ => .unbalanced (String.ofList text)
  | fault => fault

theorem sparesLocal_relocate (text : List Char) : SparesLocal (.relocate text) := by
  intro fault h
  cases h <;> rfl

/-- In a balanced text no fault is about braces, at any level. -/
theorem mapError_relocate_of_balanced {text : List Char} (h : Balanced text) (limit levels : Nat)
    (whole : List Char) :
    (parseWithin limit levels text).mapError (.relocate whole) = parseWithin limit levels text := by
  induction levels generalizing text with
  | zero => rfl
  | succ levels ih =>
      have hlead : Plain (text.takeWhile isBlank) := plain_of_blank (blank_takeWhile text)
      have hrest : Balanced (text.dropWhile isBlank) :=
        hlead.balanced.of_append (by rwa [List.takeWhile_append_dropWhile])
      rw [parseWithin_succ_dropWhile]
      symm
      apply readOutline_mapError (sparesLocal_relocate whole)
      · intro head body hbody
        exact (ih (balanced_of_mem_outline hbody)).symm
      · rw [ending_outline_of_balanced hrest]
        rfl

/-- Which text is blamed for its braces is all that depends on where the text stands. -/
theorem readOutline_relocate (limit levels : Nat) (text whole : List Char) :
    readOutline (parseWithin limit levels) whole (outline (text.dropWhile isBlank)) =
      (parseWithin limit (levels + 1) text).mapError (.relocate whole) := by
  rw [parseWithin_succ_dropWhile]
  apply readOutline_mapError (sparesLocal_relocate whole)
  · intro head body hbody
    exact (mapError_relocate_of_balanced (balanced_of_mem_outline hbody) limit levels whole).symm
  · cases (outline (text.dropWhile isBlank)).ending <;> rfl

/-! ### Reading a concatenation -/

theorem parseWithin_append_comma (limit levels : Nat) (front back : List Char) :
    parseWithin limit (levels + 1) (front ++ ',' :: back) =
      readOutline (parseWithin limit levels) (trim (front ++ ',' :: back))
        (outline (front.dropWhile isBlank ++ ',' :: back)) := by
  have hdrop : (front ++ ',' :: back).dropWhile isBlank =
      front.dropWhile isBlank ++ ',' :: back := by
    have hcomma : (',' :: back).dropWhile isBlank = ',' :: back :=
      List.dropWhile_cons_of_neg (by decide)
    rw [List.dropWhile_append]
    split
    · next hempty => rw [hcomma, List.isEmpty_iff.mp hempty, List.nil_append]
    · rfl
  rw [parseWithin_succ_dropWhile, hdrop]

/-- Two texts with a comma between them. A fault of the first is the fault of both, unless its
braces do not match. If the first can be read, then both are read as the second alone, behind the
entries of the first; only a fault about braces is now about the whole text. This leaves out a
second text that begins with blanks and a block without a head. -/
theorem parse_append_comma (limit : Nat) (front back : String) :
    (∀ fault, parse limit front = .error fault → (∀ text, fault ≠ .unbalanced text) →
      parse limit (front ++ "," ++ back) = .error fault) ∧
    (∀ entries, parse limit front = .ok entries →
      ¬((∃ c ∈ back.toList.head?, isBlank c = true) ∧ (trim back.toList).head? = some '{') →
      parse limit (front ++ "," ++ back) = match parse limit back with
        | .ok more => .ok (entries ++ more)
        | .error fault => .error (fault.relocate (trim (front ++ "," ++ back).toList))) := by
  have htext : (front ++ "," ++ back).toList = front.toList ++ ',' :: back.toList := by
    simp
  constructor
  · intro fault h hne
    rw [parse, htext, parseWithin_append_comma]
    rw [parse, parseWithin_succ_dropWhile] at h
    exact readOutline_append_comma_error h hne _ _
  · intro entries h hback
    rw [parse, htext, parseWithin_append_comma]
    rw [parse, parseWithin_succ_dropWhile] at h
    rw [readOutline_append_comma_ok h, ← readOutline_dropWhile hback, readOutline_relocate, parse]
    cases parseWithin limit (limit + 1) back.toList <;> rfl

/-- A second text that is read, one whose braces do not match, and one that does not matter. -/
theorem parse_append_comma_after_block :
    let entries : Schema := [Entry.map "a" [Entry.field "b" .string]]
    parse 1 " a{b} ,\tc l" = .ok (entries ++ [Entry.field "c" .long]) ∧
      parse 1 " a{b} ,c\x7d" = .error (.unbalanced "a{b} ,c\x7d") ∧
      parse 1 "a b c,\x7d" = .error (.wrongWordCount "a b c") := by
  intro entries
  have hfront : parse 1 " a{b} " = .ok entries := by decide +kernel
  have hread : parse 1 "\tc l" = .ok [Entry.field "c" .long] := by decide +kernel
  have hbraces : parse 1 "c\x7d" = .error (.unbalanced "c\x7d") := by decide +kernel
  have hwords : parse 1 "a b c" = .error (.wrongWordCount "a b c") := by decide +kernel
  have h := (parse_append_comma 1 " a{b} " "\tc l").2 entries hfront
    fun hbrace => absurd hbrace.2 (by decide)
  have h' := (parse_append_comma 1 " a{b} " "c\x7d").2 entries hfront
    fun hbrace => absurd hbrace.2 (by decide)
  have h'' := (parse_append_comma 1 "a b c" "\x7d").1 _ hwords (by simp)
  rw [hread] at h
  rw [hbraces] at h'
  exact ⟨h, h', h''⟩

end RecordSchema.Declaration
