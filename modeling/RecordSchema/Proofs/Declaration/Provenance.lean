import RecordSchema.Proofs.Declaration.Origin

/-!
# What faults quote

A fault quotes the passage of the declaration that it is about. The passage is cut out of the text of
some block, trimmed on the way, and kept apart from the comma that is added for the scan, so it is not
obvious that it can be found in what was written. It can: `parse_quotes`. The passage stands in the
declaration as it is quoted, and in the message of the fault.

On the way down, each text that is visited lies in the one above (`Visits.isInfix`), because the
pieces of an outline lie in its text (`extent_isInfix`). What a fault says about a field, its key and
its tag, is compared with the passage: `NamesParts`.
-/

namespace RecordSchema.Declaration

open RecordSchema.Text

/-! ### Passages -/

/-- The passage of a declaration that a fault quotes. A tag that names no type is no passage, as it
has been put into lower case. -/
def Fault.passage? : Fault → Option String
  | wrongWordCount segment => some segment
  | missingKey segment => some segment
  | unknownTag _ => none
  | missingElement segment => some segment
  | inField segment _ _ _ => some segment
  | unnamedBlock block => some block
  | unbalanced text => some text
  | tooDeep _ text => some text
  | inconsistent _ => none

/-- A part of a text without blanks at its ends. -/
structure IsPassage (text passage : List Char) : Prop where
  isInfix : passage <:+: text
  head : ∀ c ∈ passage.head?, isBlank c = false
  last : ∀ c ∈ passage.getLast?, isBlank c = false

theorem isPassage_trim (text : List Char) : IsPassage text (trim text) :=
  ⟨trimBy_isInfix _ _, fun _ hc => eq_false_of_mem_head?_trimBy hc,
    fun _ hc => eq_false_of_mem_getLast?_trimBy hc⟩

theorem IsPassage.mono {text whole passage : List Char} (h : IsPassage text passage)
    (hwhole : text <:+: whole) : IsPassage whole passage :=
  ⟨h.isInfix.trans hwhole, h.head, h.last⟩

/-! ### Pieces lie in their text -/

/-- The text that a piece takes up, without the comma behind a field. -/
def Piece.extent : Piece → List Char
  | .field w => w
  | .block head body => blockText head body

theorem extent_isInfix {text : List Char} {piece : Piece} (h : piece ∈ (outline text).pieces) :
    piece.extent <:+: text := by
  induction text using pieceInduction with
  | plain w hw =>
      rw [outline_plain hw] at h
      rw [List.mem_singleton.mp h]
      exact List.infix_refl w
  | field w text hw ih =>
      rw [outline_field hw] at h
      rcases List.mem_cons.mp h with rfl | h
      · exact (List.prefix_append w _).isInfix
      · exact (ih h).trans ⟨w ++ [','], [], by simp⟩
  | block head body text hh hb ih =>
      rw [outline_block hh hb] at h
      rcases List.mem_cons.mp h with rfl | h
      · exact ⟨[], text, by simp [Piece.extent, blockText]⟩
      · exact (ih h).trans ⟨head ++ '{' :: body ++ ['}'], [], by simp⟩
  | closing w text hw => simp [outline_closing hw] at h
  | unclosed w text hw hun => simp [outline_unclosed hw hun] at h

theorem extent_isInfix_of_trim {text : List Char} {piece : Piece}
    (h : piece ∈ (outline (trim text)).pieces) : piece.extent <:+: text :=
  (extent_isInfix h).trans (trimBy_isInfix _ _)

theorem head_isInfix (head body : List Char) : head <:+: blockText head body :=
  ⟨[], '{' :: body ++ ['}'], by simp [blockText]⟩

theorem body_isInfix (head body : List Char) : body <:+: blockText head body :=
  ⟨head ++ ['{'], ['}'], by simp [blockText]⟩

theorem Visits.isInfix {levels levels' : Nat} {text inner : List Char}
    (h : Visits levels text levels' inner) : inner <:+: text := by
  induction h with
  | self => exact List.infix_refl _
  | body hmem _ ih =>
      exact ih.trans ((body_isInfix _ _).trans (extent_isInfix_of_trim hmem))

/-! ### The parts of a field -/

/-- A segment begins with the key, and holds the tag, which has no stars at its ends. -/
structure NamesParts (segment key tag : List Char) : Prop where
  firstWord : (words segment).head? = some key
  isInfix : tag <:+: segment
  head : tag.head? ≠ some '*'
  last : tag.getLast? ≠ some '*'

theorem Field.words_of_split {segment key typeWord : List Char}
    (h : Field.split segment = .ok (key, typeWord)) :
    words segment = [key] ∧ typeWord = [] ∨ words segment = [key, typeWord] := by
  unfold Field.split at h
  split at h
  · next hw =>
      cases h
      exact .inl ⟨hw, rfl⟩
  · next hw =>
      cases h
      exact .inr hw
  · cases h

theorem namesParts_of_split {segment key typeWord : List Char}
    (h : Field.split segment = .ok (key, typeWord)) :
    NamesParts segment key (withoutStars typeWord) := by
  refine ⟨?_, ?_, withoutStars_head? _, withoutStars_getLast? _⟩
  · rcases Field.words_of_split h with ⟨hw, -⟩ | hw <;> rw [hw] <;> rfl
  · rcases Field.words_of_split h with ⟨-, rfl⟩ | hw
    · exact List.nil_infix
    · have hmem : typeWord ∈ words segment := by simp [hw]
      exact (trimBy_isInfix _ _).trans (infix_of_mem_words hmem)

/-- Quoted with the block behind it, a segment of two words still names its parts. -/
theorem NamesParts.append {segment key typeWord tag : List Char}
    (h : NamesParts segment key tag) (hw : words segment = [key, typeWord]) (more : List Char) :
    NamesParts (segment ++ more) key tag :=
  ⟨head?_words_append hw more, h.isInfix.trans (List.prefix_append _ _).isInfix, h.head, h.last⟩

/-! ### What a field quotes -/

/-- The fault quotes this passage, and what it says about a field can be found there. -/
def Fault.Quotes (fault : Fault) (passage : List Char) : Prop :=
  fault.passage? = some (String.ofList passage) ∧
    ∀ segment key tag cause, fault = .inField segment key tag cause →
      NamesParts segment.toList key.toList tag.toList

theorem Field.quotes_of_types {segment key typeWord : List Char} {fault : Fault}
    (hs : Field.split segment = .ok (key, typeWord))
    (h : Field.types segment key (withoutStars typeWord) = .error fault) :
    fault.Quotes segment := by
  have hparts := namesParts_of_split hs
  have hcontext : ∀ cause, (Fault.inField (String.ofList segment) (String.ofList key)
      (String.ofList (withoutStars typeWord)) cause).Quotes segment := by
    intro cause
    refine ⟨rfl, ?_⟩
    rintro _ _ _ _ ⟨⟩
    simpa using hparts
  have helement : (Fault.missingElement (String.ofList segment)).Quotes segment :=
    ⟨rfl, fun _ _ _ _ heq => by cases heq⟩
  have htag : ∀ word {fault}, inField segment key (withoutStars typeWord) (readTag word) =
      .error fault → fault.Quotes segment := by
    intro word fault h
    cases hr : readTag word with
    | ok type =>
        rw [hr] at h
        cases h
    | error cause =>
        rw [hr] at h
        cases h
        exact hcontext cause
  unfold Field.types at h
  split at h
  · split at h
    · cases h
      exact helement
    · next inside _ =>
        rcases bind_eq_error h with h | ⟨element, -, h⟩
        · exact htag inside h
        · cases element with
          | none =>
              cases h
              exact helement
          | some element => cases h
  · rcases bind_eq_error h with h | ⟨type, -, h⟩
    · exact htag _ h
    · cases h

/-- A field that cannot be read is quoted without the blanks around it. -/
theorem Field.quotes_of_read {text : List Char} {fault : Fault}
    (h : Field.read text = .error fault) : trim text ≠ [] ∧ fault.Quotes (trim text) := by
  unfold Field.read at h
  split at h
  · cases h
  · next hne =>
      refine ⟨hne, ?_⟩
      rcases bind_eq_error h with h | ⟨⟨key, typeWord⟩, hs, h⟩
      · unfold Field.split at h
        split at h
        · cases h
        · cases h
        · cases h
          exact ⟨rfl, fun _ _ _ _ heq => by cases heq⟩
      · dsimp only at h
        split at h
        · cases h
          exact ⟨rfl, fun _ _ _ _ heq => by cases heq⟩
        · rcases bind_eq_error h with h | ⟨types, -, h⟩
          · exact Field.quotes_of_types hs h
          · cases h

/-! ### What a block quotes -/

theorem snug_trim {text : List Char} (h : trim text ≠ []) : Snug (trim text) :=
  ⟨⟨_, List.head?_eq_some_head h, eq_false_of_mem_head?_trimBy (List.head?_eq_some_head h)⟩,
    ⟨_, List.getLast?_eq_some_getLast h,
      eq_false_of_mem_getLast?_trimBy (List.getLast?_eq_some_getLast h)⟩⟩

/-- Trimmed with its head, a block begins with what is left of the head when it is trimmed alone. -/
theorem trim_isPrefix_blockText {head : List Char} (h : trim head ≠ []) (body : List Char) :
    ∃ more, trim (blockText head body) = trim head ++ more := by
  obtain ⟨lead, trail, hlead, -, hhead⟩ := exists_eq_append_trimBy isBlank head
  have hblock : Snug ('{' :: body ++ ['}']) :=
    ⟨⟨'{', rfl, by decide⟩, ⟨'}', List.getLast?_concat, by decide⟩⟩
  have htext : blockText head body = lead ++ (trim head ++ (trail ++ ('{' :: body ++ ['}']))) := by
    unfold blockText
    nth_rewrite 1 [hhead]
    simp [trim]
  refine ⟨trail ++ ('{' :: body ++ ['}']), ?_⟩
  rw [htext, trim_append_left hlead]
  exact ((snug_trim h).append hblock trail).trim_eq_self

theorem Field.exists_split_of_read {text : List Char} {field : Field}
    (h : Field.read text = .ok (some field)) :
    ∃ key typeWord, Field.split (trim text) = .ok (key, typeWord) ∧
      Field.types (trim text) key (withoutStars typeWord) = .ok (field.type, field.element) ∧
      field.key = String.ofList key ∧ field.tag = String.ofList (withoutStars typeWord) := by
  unfold Field.read at h
  split at h
  · cases h
  · obtain ⟨⟨key, typeWord⟩, hs, h⟩ := bind_eq_ok h
    dsimp only at h
    split at h
    · cases h
    · obtain ⟨⟨type, element⟩, ht, h⟩ := bind_eq_ok h
      cases h
      exact ⟨key, typeWord, hs, ht, rfl, rfl⟩

/-- A block whose head names a type other than map is quoted as a whole, and its head has a tag. -/
theorem Field.quotes_of_notMap {head : List Char} {field : Field}
    (h : Field.read head = .ok (some field)) (hne : field.type.getD .map ≠ .map)
    (body : List Char) (cause : Fault) :
    (Fault.inField (String.ofList (trim (blockText head body))) field.key field.tag cause).Quotes
      (trim (blockText head body)) := by
  obtain ⟨key, typeWord, hs, ht, hkey, htag⟩ := Field.exists_split_of_read h
  have hwords : words (trim head) = [key, typeWord] := by
    rcases Field.words_of_split hs with ⟨-, rfl⟩ | hw
    · -- without a tag the type is left open, and a map is meant
      obtain ⟨htype, -⟩ := Prod.mk.inj (Except.ok.inj ((Field.types_nil _ _).symm.trans ht))
      rw [← htype] at hne
      exact absurd rfl hne
    · exact hw
  have htrim : trim head ≠ [] := by
    intro hnil
    rw [hnil] at hwords
    cases hwords
  obtain ⟨more, hmore⟩ := trim_isPrefix_blockText htrim body
  refine ⟨rfl, ?_⟩
  rintro _ _ _ _ ⟨⟩
  rw [hkey, htag, String.toList_ofList, String.toList_ofList, String.toList_ofList, hmore]
  exact (namesParts_of_split hs).append hwords more

theorem mem_trim {text : List Char} {c : Char} (h : c ∈ text) (hc : isBlank c = false) :
    trim text ≠ [] := by
  rw [ne_eq, trim_eq_nil_iff]
  intro hblank
  rw [hblank c h] at hc
  cases hc

/-! ### What every fault quotes -/

theorem Origin.quotes {limit levels : Nat} {text : List Char} {fault : Fault}
    (h : Origin limit levels text fault) :
    ∃ passage, IsPassage text passage ∧ fault.Quotes passage ∧
      (passage = [] → ∃ limit inner, fault = .tooDeep limit inner) := by
  cases h with
  | tooDeep text =>
      exact ⟨trim text, isPassage_trim text, ⟨rfl, fun _ _ _ _ heq => by cases heq⟩,
        fun _ => ⟨_, _, rfl⟩⟩
  | unbalanced hending =>
      refine ⟨trim text, isPassage_trim text, ⟨rfl, fun _ _ _ _ heq => by cases heq⟩, ?_⟩
      intro hnil
      rw [hnil] at hending
      cases hending
  | field hmem hread =>
      obtain ⟨hne, hquotes⟩ := Field.quotes_of_read hread
      exact ⟨_, (isPassage_trim _).mono (extent_isInfix_of_trim hmem), hquotes,
        fun hnil => absurd hnil hne⟩
  | @unnamed levels text body hmem =>
      have hne : trim (blockText [] body) ≠ [] :=
        mem_trim (c := '{') List.mem_cons_self (by decide)
      exact ⟨_, (isPassage_trim _).mono (extent_isInfix_of_trim hmem),
        ⟨rfl, fun _ _ _ _ heq => by cases heq⟩, fun hnil => absurd hnil hne⟩
  | head hmem hread =>
      obtain ⟨hne, hquotes⟩ := Field.quotes_of_read hread
      exact ⟨_, (isPassage_trim _).mono ((head_isInfix _ _).trans (extent_isInfix_of_trim hmem)),
        hquotes, fun hnil => absurd hnil hne⟩
  | @notMap levels text head body field hmem hread htype =>
      have hne : trim (blockText head body) ≠ [] :=
        mem_trim (c := '{') (by simp [blockText]) (by decide)
      exact ⟨_, (isPassage_trim _).mono (extent_isInfix_of_trim hmem),
        Field.quotes_of_notMap hread htype body _, fun hnil => absurd hnil hne⟩

/-! ### Messages -/

theorem isInfix_append (before passage after : String) :
    passage.toList <:+: (before ++ passage ++ after).toList :=
  ⟨before.toList, after.toList, by simp⟩

theorem isInfix_append_right (before passage : String) :
    passage.toList <:+: (before ++ passage).toList :=
  ⟨before.toList, [], by simp⟩

theorem Fault.message_inField (segment key tag : String) (cause : Fault) :
    (Fault.inField segment key tag cause).message =
      "field '" ++ segment ++ "' (key " ++ key ++ ", type " ++ tag ++ "): " ++ cause.message := rfl

/-- A message holds the passage that its fault quotes. -/
theorem Fault.passage_isInfix_message {fault : Fault} {passage : String}
    (h : fault.passage? = some passage) : passage.toList <:+: fault.message.toList := by
  cases fault with
  | wrongWordCount segment =>
      cases h
      exact isInfix_append _ _ _
  | missingKey segment =>
      cases h
      exact isInfix_append _ _ _
  | unknownTag tag => cases h
  | missingElement segment =>
      cases h
      exact isInfix_append_right _ _
  | inField segment key tag cause =>
      cases h
      rw [Fault.message_inField]
      simp only [String.append_assoc]
      rw [← String.append_assoc]
      exact isInfix_append _ _ _
  | unnamedBlock block =>
      cases h
      exact isInfix_append _ _ _
  | unbalanced text =>
      cases h
      exact isInfix_append_right _ _
  | tooDeep limit text =>
      cases h
      exact isInfix_append_right _ _
  | inconsistent detail => cases h

/-- A message ends with that of the root cause. -/
theorem Fault.rootCause_isSuffix_message (fault : Fault) :
    fault.rootCause.message.toList <:+ fault.message.toList := by
  induction fault with
  | inField segment key tag cause ih =>
      rw [Fault.message_inField, String.toList_append]
      exact ih.trans (List.suffix_append _ _)
  | _ =>
      unfold Fault.rootCause
      exact List.suffix_refl _

/-- Every fault quotes a passage of the declaration as it stands there, without blanks around it. It
is empty at most if a block lies too deep, and it can be read in the message. The fault of a field
tells the first word of the passage as its key and a part of it without stars around it as its tag,
and ends its message with that of the cause. -/
theorem parse_quotes {limit : Nat} {text : String} {fault : Fault}
    (h : parse limit text = .error fault) :
    ∃ passage, fault.passage? = some passage ∧
      passage.toList <:+: text.toList ∧
      (∀ c ∈ passage.toList.head?, isBlank c = false) ∧
      (∀ c ∈ passage.toList.getLast?, isBlank c = false) ∧
      (passage = "" → ∃ limit inner, fault = .tooDeep limit inner) ∧
      passage.toList <:+: fault.message.toList ∧
      ∀ segment key tag cause, fault = .inField segment key tag cause →
        (words segment.toList).head? = some key.toList ∧
        tag.toList <:+: segment.toList ∧
        tag.toList.head? ≠ some '*' ∧ tag.toList.getLast? ≠ some '*' ∧
        fault.rootCause.message.toList <:+ fault.message.toList := by
  obtain ⟨levels, inner, hvisits, horigin⟩ := exists_origin h
  obtain ⟨passage, hpassage, ⟨hquoted, hparts⟩, hempty⟩ := horigin.quotes
  have hwhole := hpassage.mono hvisits.isInfix
  refine ⟨String.ofList passage, hquoted, ?_, ?_, ?_, ?_,
    Fault.passage_isInfix_message hquoted, ?_⟩
  · simpa using hwhole.isInfix
  · simpa using hwhole.head
  · simpa using hwhole.last
  · intro hnil
    exact hempty (by simpa using congrArg String.toList hnil)
  · intro segment key tag cause hfault
    obtain ⟨hkey, htag, hhead, hlast⟩ := hparts segment key tag cause hfault
    exact ⟨hkey, htag, hhead, hlast, fault.rootCause_isSuffix_message⟩

/-- The tag of a block that cannot be a map, two blocks deep, with stars around it. -/
theorem parse_quotes_starred_head :
    let fault : Fault :=
      .inField "k *Long*{x}" "k" "Long" (.unknownTag "Long")
    parse 3 "a, b{ k *Long*{x} , y }" = .error fault ∧
      "k *Long*{x}".toList <:+: "a, b{ k *Long*{x} , y }".toList ∧
      "k *Long*{x}".toList <:+: fault.message.toList ∧
      (words "k *Long*{x}".toList).head? = some "k".toList ∧
      "unsupported schema type: Long".toList <:+ fault.message.toList := by
  intro fault
  have h : parse 3 "a, b{ k *Long*{x} , y }" = .error fault := by decide +kernel
  obtain ⟨passage, hpassage, htext, -, -, -, hmessage, hfield⟩ := parse_quotes h
  obtain rfl : "k *Long*{x}" = passage := Option.some.inj hpassage
  obtain ⟨hkey, -, -, -, hcause⟩ := hfield _ _ _ _ rfl
  exact ⟨h, htext, hmessage, hkey, hcause⟩

end RecordSchema.Declaration
