import RecordSchema.Proofs.Declaration.Fault

/-!
# Where a fault is raised

Reading goes down into the bodies of blocks, and a fault that is met there comes up unchanged. So a
fault has two coordinates: the text that was being read when it was raised, one of those that a text
`Visits`, and what was wrong with this text, its `Origin`. `exists_origin` finds both for every fault
of `parseWithin`; what is to be known about faults then takes one induction along `Visits` and one
look at each kind of `Origin`.

The braces are a first example. A text whose braces do not match cannot be read, and it is itself
blamed for that, because the bodies it hands down are balanced: `parse_braces`.
-/

namespace RecordSchema.Declaration

open RecordSchema.Text

/-! ### Texts that are read on the way -/

/-- `Visits levels text levels' inner`: in order to read `text` with so many levels left, `inner` is
read with `levels'` left. It is the text itself, or is met on the way through the body of a block. -/
inductive Visits : (levels : Nat) → List Char → (levels' : Nat) → List Char → Prop
  | self (levels : Nat) (text : List Char) : Visits levels text levels text
  | body {levels text head body levels' inner} :
      .block head body ∈ (outline (trim text)).pieces → Visits levels body levels' inner →
      Visits (levels + 1) text levels' inner

/-- What is visited beneath a text is balanced, even if the text itself is not. -/
theorem Visits.eq_or_balanced {levels levels' : Nat} {text inner : List Char}
    (h : Visits levels text levels' inner) : inner = text ∨ Balanced inner := by
  induction h with
  | self => exact .inl rfl
  | body hmem _ ih =>
      rcases ih with rfl | hb
      · exact .inr (balanced_of_mem_outline hmem)
      · exact .inr hb

/-! ### What was wrong there -/

/-- `Origin limit levels text fault`: what keeps a text from being read with so many levels left,
apart from the faults of its bodies. Either no level is left, or the braces do not match, or a field
is at fault, or what stands in front of a block. -/
inductive Origin (limit : Nat) : (levels : Nat) → List Char → Fault → Prop
  | tooDeep (text : List Char) : Origin limit 0 text (.tooDeep limit (String.ofList (trim text)))
  | unbalanced {levels text} : (outline (trim text)).ending = .unbalanced →
      Origin limit (levels + 1) text (.unbalanced (String.ofList (trim text)))
  | field {levels text w fault} : .field w ∈ (outline (trim text)).pieces →
      Field.read w = .error fault → Origin limit (levels + 1) text fault
  | unnamed {levels text body} : .block [] body ∈ (outline (trim text)).pieces →
      Origin limit (levels + 1) text (.unnamedBlock (String.ofList (trim (blockText [] body))))
  | head {levels text head body fault} : .block head body ∈ (outline (trim text)).pieces →
      Field.read head = .error fault → Origin limit (levels + 1) text fault
  | notMap {levels text head body field} : .block head body ∈ (outline (trim text)).pieces →
      Field.read head = .ok (some field) → field.type.getD .map ≠ .map →
      Origin limit (levels + 1) text (.inField (String.ofList (trim (blockText head body)))
        field.key field.tag (.unknownTag field.tag))

theorem Field.toMap_eq_error {field : Field} {block : List Char} {children : Schema}
    {fault : Fault} (h : field.toMap block children = .error fault) :
    field.type.getD .map ≠ .map ∧ fault = .inField (String.ofList (trim block)) field.key field.tag
      (.unknownTag field.tag) := by
  unfold Field.toMap at h
  split at h
  · cases h
  · next hne =>
      cases h
      exact ⟨hne, rfl⟩

theorem exists_mem_of_readPieces_error {nested : List Char → Except Fault Schema}
    {pieces : List Piece} {fault : Fault} (h : readPieces nested pieces = .error fault) :
    ∃ piece ∈ pieces, readPiece nested piece = .error fault := by
  induction pieces with
  | nil => cases h
  | cons piece pieces ih =>
      rcases bind_eq_error h with h | ⟨entry, -, h⟩
      · exact ⟨piece, List.mem_cons_self, h⟩
      · rcases bind_eq_error h with h | ⟨entries, -, h⟩
        · obtain ⟨later, hmem, hlater⟩ := ih h
          exact ⟨later, List.mem_cons_of_mem _ hmem, hlater⟩
        · cases h

section

variable {limit levels : Nat} {text : List Char} {fault : Fault}

theorem origin_of_readBlock {head body : List Char} {children : Schema}
    (hmem : .block head body ∈ (outline (trim text)).pieces)
    (h : readBlock head body children = .error fault) : Origin limit (levels + 1) text fault := by
  unfold readBlock at h
  split at h
  · next hnil =>
      cases h
      rw [List.isEmpty_iff.mp hnil] at hmem ⊢
      exact .unnamed hmem
  · rcases bind_eq_error h with h | ⟨field, hf, h⟩
    · exact .head hmem h
    · cases field with
      | none => cases h
      | some field =>
          rcases bind_eq_error h with h | ⟨entry, -, h⟩
          · obtain ⟨hne, rfl⟩ := Field.toMap_eq_error h
            exact .notMap hmem hf hne
          · cases h

/-- A fault of a piece is its own, or comes from its body. -/
theorem origin_or_nested_of_readPiece {nested : List Char → Except Fault Schema} {piece : Piece}
    (hmem : piece ∈ (outline (trim text)).pieces) (h : readPiece nested piece = .error fault) :
    Origin limit (levels + 1) text fault ∨
      ∃ head body, piece = .block head body ∧ nested body = .error fault := by
  cases piece with
  | field w =>
      rcases bind_eq_error h with h | ⟨field, -, h⟩
      · exact .inl (.field hmem h)
      · cases h
  | block head body =>
      rcases bind_eq_error h with h | ⟨children, -, h⟩
      · exact .inr ⟨head, body, rfl, h⟩
      · exact .inl (origin_of_readBlock hmem h)

/-- Every fault is raised by a text that is visited. -/
theorem exists_origin (h : parseWithin limit levels text = .error fault) :
    ∃ levels' inner, Visits levels text levels' inner ∧ Origin limit levels' inner fault := by
  induction levels generalizing text with
  | zero =>
      cases h
      exact ⟨0, text, .self 0 text, .tooDeep text⟩
  | succ levels ih =>
      rcases bind_eq_error h with h | ⟨entries, -, h⟩
      · obtain ⟨piece, hmem, hpiece⟩ := exists_mem_of_readPieces_error h
        rcases origin_or_nested_of_readPiece hmem hpiece with ho | ⟨head, body, rfl, hbody⟩
        · exact ⟨levels + 1, text, .self _ _, ho⟩
        · obtain ⟨levels', inner, hv, ho⟩ := ih hbody
          exact ⟨levels', inner, .body hmem hv, ho⟩
      · -- all pieces were read, so the scan has ended early
        refine ⟨levels + 1, text, .self _ _, ?_⟩
        rcases ending_outline (trim text) with hending | hending
        · rw [hending] at h
          cases h
        · rw [hending] at h
          cases h
          exact .unbalanced hending

end

/-! ### Braces that do not match -/

theorem balanced_trim_iff {text : List Char} : Balanced (trim text) ↔ Balanced text := by
  obtain ⟨lead, trail, hl, ht, htext⟩ := exists_eq_append_trimBy isBlank text
  have hlead := (plain_of_blank hl).balanced
  have htrail := (plain_of_blank ht).balanced
  have hcount := (plain_of_blank ht).count_eq
  change text = lead ++ trim text ++ trail at htext
  rw [List.append_assoc] at htext
  constructor
  · intro h
    rw [htext]
    exact hlead.append (h.append htrail)
  · intro h
    rw [htext] at h
    have hrest := (hlead.of_append h).wellNested
    refine balanced_iff_wellNested.mpr ⟨?_, ?_⟩
    · simpa [hcount] using hrest.total
    · intro front hfront
      exact hrest.front front (hfront.trans (List.prefix_append _ _))

/-- Only a balanced text is scanned to its end. -/
theorem balanced_of_ending_outline {text : List Char} (h : (outline text).ending = .complete) :
    Balanced text := by
  induction text using pieceInduction with
  | plain w hw => exact hw.balanced
  | field w text hw ih =>
      rw [outline_field hw] at h
      exact hw.balanced_append (.char (by decide) (by decide) (ih h))
  | block head body text hh hb ih =>
      rw [outline_block hh hb] at h
      rw [List.append_assoc]
      exact hh.balanced_append (.block hb (ih h))
  | closing w text hw => simp [outline_closing hw] at h
  | unclosed w text hw hun => simp [outline_unclosed hw hun] at h

theorem balanced_of_parseWithin {limit levels : Nat} {text : List Char} {schema : Schema}
    (h : parseWithin limit levels text = .ok schema) : Balanced text := by
  cases levels with
  | zero => cases h
  | succ levels =>
      obtain ⟨entries, -, h⟩ := bind_eq_ok h
      obtain ⟨_, hcheck, -⟩ := bind_eq_ok h
      rcases ending_outline (trim text) with hending | hending
      · exact balanced_trim_iff.mp (balanced_of_ending_outline hending)
      · rw [hending] at hcheck
        cases hcheck

/-- A fault about braces is raised by a text that is not balanced, and carries this text. -/
theorem Origin.of_unbalanced {limit levels : Nat} {text : List Char} {blamed : String}
    (h : Origin limit levels text (.unbalanced blamed)) :
    ¬Balanced text ∧ blamed = String.ofList (trim text) := by
  cases h with
  | unbalanced hending =>
      refine ⟨?_, rfl⟩
      intro hb
      rw [ending_outline_of_balanced (balanced_trim_iff.mpr hb)] at hending
      cases hending
  | field _ hread => cases Field.isLocal_of_read hread
  | head _ hread => cases Field.isLocal_of_read hread

/-- A text whose braces are not well nested is not read. If they are well nested, no text that is
visited is blamed for its braces. And if some text is blamed for them, then it is the whole text. -/
theorem parse_braces (limit : Nat) (text : String) :
    (¬WellNested text.toList → ∃ fault, parse limit text = .error fault) ∧
    (WellNested text.toList →
      (∀ blamed, parse limit text ≠ .error (.unbalanced blamed)) ∧
      ∀ levels inner, Visits (limit + 1) text.toList levels inner →
        ∀ blamed, parseWithin limit levels inner ≠ .error (.unbalanced blamed)) ∧
    (∀ blamed, parse limit text = .error (.unbalanced blamed) →
      blamed = String.ofList (trim text.toList)) := by
  refine ⟨?_, ?_, ?_⟩
  · intro hnot
    cases h : parse limit text with
    | error fault => exact ⟨fault, rfl⟩
    | ok schema => exact absurd (balanced_of_parseWithin h).wellNested hnot
  · intro hnested
    have hb : Balanced text.toList := balanced_iff_wellNested.mpr hnested
    have hvisited : ∀ levels inner, Visits (limit + 1) text.toList levels inner →
        ∀ blamed, parseWithin limit levels inner ≠ .error (.unbalanced blamed) := by
      intro levels inner hv blamed h
      obtain ⟨levels', inner', hv', ho⟩ := exists_origin h
      have hinner : Balanced inner := by
        rcases hv.eq_or_balanced with rfl | hinner
        · exact hb
        · exact hinner
      rcases hv'.eq_or_balanced with rfl | hinner'
      · exact ho.of_unbalanced.1 hinner
      · exact ho.of_unbalanced.1 hinner'
    exact ⟨hvisited _ _ (.self _ _), hvisited⟩
  · intro blamed h
    obtain ⟨levels, inner, hv, ho⟩ := exists_origin h
    obtain ⟨hnot, rfl⟩ := ho.of_unbalanced
    rcases hv.eq_or_balanced with rfl | hinner
    · rfl
    · exact absurd hinner hnot

/-- A brace that closes nothing, a body that is at fault but not for its braces, and a text that is
blamed without the blanks around it. -/
theorem parse_braces_around_block :
    (∃ fault, parse 2 "a{b},\x7d" = .error fault) ∧
    (∀ blamed, parse 2 "a{ {b c d} }" ≠ .error (.unbalanced blamed)) ∧
    (∀ blamed, parseWithin 2 2 " {b c d} ".toList ≠ .error (.unbalanced blamed)) ∧
    (parse 2 " a{b} \x7d " = .error (.unbalanced "a{b} \x7d") ∧
      "a{b} \x7d" = String.ofList (trim " a{b} \x7d ".toList)) := by
  have hstray : ¬WellNested "a{b},\x7d".toList := fun h => absurd h.total (by decide)
  have hbody : Balanced " {b c d} ".toList :=
    .char (by decide) (by decide)
      (@Balanced.block "b c d".toList [' '] (Plain.balanced (by decide)) (Plain.balanced (by decide)))
  have hblock : Balanced "a{ {b c d} }".toList :=
    .char (by decide) (by decide) (@Balanced.block " {b c d} ".toList [] hbody .nil)
  have hvisits : Visits 3 "a{ {b c d} }".toList 2 " {b c d} ".toList :=
    .body (show Piece.block ['a'] " {b c d} ".toList ∈ _ by decide) (.self _ _)
  have hblamed : parse 2 " a{b} \x7d " = .error (.unbalanced "a{b} \x7d") := by decide +kernel
  obtain ⟨hread, hvisited⟩ := (parse_braces 2 "a{ {b c d} }").2.1 hblock.wellNested
  exact ⟨(parse_braces 2 "a{b},\x7d").1 hstray, hread, hvisited 2 _ hvisits, hblamed,
    (parse_braces 2 " a{b} \x7d ").2.2 _ hblamed⟩

end RecordSchema.Declaration
