import RecordSchema.Proofs.Declaration.Descent
import RecordSchema.Proofs.Declaration.Field

/-!
# The language of fields

`Field.read` cuts a text into words, takes the stars off a type word and looks for parentheses. Said
without these steps, what becomes of a text depends on its words:

    blank                     no field
    one word                  a field with this key, its type left open
    a key and a type word     a field, if the tag in the stars gives types (`TagGives`)
    three words or more       a fault

A tag that gives no types is at fault in one of two ways (`tag_cases`): it has parentheses with no
element type in them (`LacksElement`), or the word that should name a type names none (`Misnames`).
-/

namespace RecordSchema.Declaration

open RecordSchema.Text

/-! ### What a tag can be -/

/-- `TagGives tag type element`: the tag gives a field this type and this element type. Before the
parentheses of an array stands anything but parentheses, and behind them anything at all. -/
inductive TagGives : List Char → Option FieldType → Option FieldType → Prop
  | omitted : TagGives [] none none
  | named {type : FieldType} {tag : List Char} : type ≠ .array → Names type tag →
      TagGives tag (some type) none
  | array {element : FieldType} {front inside : List Char} (back : List Char) :
      '(' ∉ front → ')' ∉ front → element ≠ .array → Names element inside →
      TagGives (front ++ '(' :: inside ++ ')' :: back) (some .array) (some element)

/-- The tag opens parentheses, but there is no element type in them: they are not closed, or closed
before they are opened, or closed at once. -/
inductive LacksElement : List Char → Prop
  | missing {front rest : List Char} : '(' ∉ front → ')' ∉ front → ')' ∉ rest →
      LacksElement (front ++ '(' :: rest)
  | misordered {front : List Char} (rest : List Char) : '(' ∉ front → ')' ∈ front →
      LacksElement (front ++ '(' :: rest)
  | empty {front : List Char} (back : List Char) : '(' ∉ front → ')' ∉ front →
      LacksElement (front ++ '(' :: ')' :: back)

/-- `Misnames tag cause`: the word that should name the type of a field, or of the elements of an
array, is refused for this cause. -/
inductive Misnames : List Char → Fault → Prop
  | word {tag : List Char} {cause : Fault} : '(' ∉ tag → ReadsAs tag (.error cause) →
      Misnames tag cause
  | element {front inside : List Char} {cause : Fault} (back : List Char) : '(' ∉ front →
      ')' ∉ front → ')' ∉ inside → ReadsAs inside (.error cause) →
      Misnames (front ++ '(' :: inside ++ ')' :: back) cause

/-! ### What a text can be -/

/-- `IsFieldText text field`: the text is written for this field. It is a key, or a key and a type
word, which is more than its tag exactly if the field is required. -/
inductive IsFieldText (text : List Char) : Field → Prop
  | key {key : List Char} : Separated [key] text →
      IsFieldText text ⟨String.ofList key, "", none, none, false⟩
  | typed {key typeWord tag : List Char} {type element : Option FieldType} {required : Bool} :
      Separated [key, typeWord] text → StarsAround tag typeWord → TagGives tag type element →
      (required = true ↔ typeWord ≠ tag) →
      IsFieldText text ⟨String.ofList key, String.ofList tag, type, element, required⟩

/-- `IsNoFieldText text fault`: the text is not blank, and it is not written for any field because of
this fault. -/
inductive IsNoFieldText (text : List Char) : Fault → Prop
  | moreWords {key typeWord third : List Char} {more : List (List Char)} :
      Separated (key :: typeWord :: third :: more) text →
      IsNoFieldText text (.wrongWordCount (String.ofList (trim text)))
  | element {key typeWord tag : List Char} : Separated [key, typeWord] text →
      StarsAround tag typeWord → LacksElement tag →
      IsNoFieldText text (.missingElement (String.ofList (trim text)))
  | tag {key typeWord tag : List Char} {cause : Fault} : Separated [key, typeWord] text →
      StarsAround tag typeWord → Misnames tag cause → IsNoFieldText text
        (.inField (String.ofList (trim text)) (String.ofList key) (String.ofList tag) cause)

/-! ### The types that a tag gives -/

section Types

variable {tag : List Char} {segment key : List Char}

theorem TagGives.types_eq {type element : Option FieldType} (h : TagGives tag type element) :
    Field.types segment key tag = .ok (type, element) := by
  cases h with
  | omitted => exact Field.types_nil segment key
  | named hne hn => exact hn.types_eq hne segment key
  | array back ho hc hne hn => exact hn.types_array_eq hne ho hc back segment key

theorem LacksElement.types_eq (h : LacksElement tag) :
    Field.types segment key tag = .error (.missingElement (String.ofList segment)) := by
  unfold Field.types
  cases h with
  | missing ho _ hr =>
      rw [if_pos (by simp), elementTag?_append_cons ho, if_pos (.inr hr)]
  | misordered rest ho hc =>
      rw [if_pos (by simp), elementTag?_append_cons ho, if_pos (.inl hc)]
  | empty back ho hc =>
      rw [if_pos (by simp), elementTag?_append_cons ho, if_neg (by simp [hc])]
      rfl

theorem Misnames.types_eq {cause : Fault} (h : Misnames tag cause) (hfree : BlankFree tag) :
    Field.types segment key tag = .error
      (.inField (String.ofList segment) (String.ofList key) (String.ofList tag) cause) := by
  unfold Field.types
  cases h with
  | word ho hreads =>
      have hread : readTag tag = .error cause := by
        rwa [readTag_eq_iff, hfree.trim_eq_self]
      rw [if_neg (by simpa using ho), hread]
      rfl
  | @element front inside _ back ho hc hi hreads =>
      have hinside : BlankFree inside := fun c hmem => hfree c (by simp [hmem])
      have hread : readTag inside = .error cause := by
        rwa [readTag_eq_iff, hinside.trim_eq_self]
      rw [if_pos (by simp), elementTag?_append ho hc hi]
      dsimp only
      rw [hread]
      rfl

theorem word_cases (word : List Char) : word = [] ∨ (∃ type, type ≠ .array ∧ Names type word) ∨
    ∃ cause, ReadsAs word (.error cause) := by
  by_cases hnil : word = []
  · exact .inl hnil
  by_cases hnames : ∃ type, Names type word
  · obtain ⟨type, hn⟩ := hnames
    by_cases harray : type = .array
    · subst harray
      exact .inr (.inr ⟨_, .array hn⟩)
    · exact .inr (.inl ⟨type, harray, hn⟩)
  · exact .inr (.inr ⟨_, .unknown hnil fun type hn => hnames ⟨type, hn⟩⟩)

/-- There is nothing else that a tag can be. -/
theorem tag_cases (tag : List Char) :
    (∃ type element, TagGives tag type element) ∨ LacksElement tag ∨ ∃ cause, Misnames tag cause := by
  by_cases ho : '(' ∈ tag
  · obtain ⟨front, rest, rfl, hfront⟩ := List.eq_append_cons_of_mem ho
    by_cases hc : ')' ∈ front
    · exact .inr (.inl (.misordered rest hfront hc))
    by_cases hr : ')' ∈ rest
    · obtain ⟨inside, back, rfl, hi⟩ := List.eq_append_cons_of_mem hr
      have hshape : front ++ '(' :: (inside ++ ')' :: back) = front ++ '(' :: inside ++ ')' :: back := by
        rw [List.append_assoc, List.cons_append]
      rcases word_cases inside with rfl | ⟨element, hne, hn⟩ | ⟨cause, hreads⟩
      · exact .inr (.inl (.empty back hfront hc))
      · rw [hshape]
        exact .inl ⟨_, _, .array back hfront hc hne hn⟩
      · rw [hshape]
        exact .inr (.inr ⟨cause, .element back hfront hc hi hreads⟩)
    · exact .inr (.inl (.missing hfront hc hr))
  · rcases word_cases tag with rfl | ⟨type, hne, hn⟩ | ⟨cause, hreads⟩
    · exact .inl ⟨_, _, .omitted⟩
    · exact .inl ⟨_, _, .named hne hn⟩
    · exact .inr (.inr ⟨cause, .word ho hreads⟩)

end Types

/-! ### The words of a field -/

section Read

variable {text key typeWord : List Char}

theorem Field.read_of_key (h : Separated [key] text) :
    Field.read text = .ok (some ⟨String.ofList key, "", none, none, false⟩) := by
  have hs := Field.split_trim_of_words_single h.words_eq
  rw [Field.read_eq_of_split hs (h.isWord List.mem_cons_self).1]
  rfl

theorem Field.read_of_typed (h : Separated [key, typeWord] text) {tag : List Char}
    (hstars : StarsAround tag typeWord) :
    Field.read text = (Field.types (trim text) key tag).map fun types =>
      some ⟨String.ofList key, String.ofList tag, types.1, types.2, isStarred typeWord⟩ := by
  obtain rfl := hstars.withoutStars_eq
  exact Field.read_eq_of_split (Field.split_trim_of_words_pair h.words_eq)
    (h.isWord List.mem_cons_self).1

theorem Field.read_of_more_words {third : List Char} {more : List (List Char)}
    (h : Separated (key :: typeWord :: third :: more) text) :
    Field.read text = .error (.wrongWordCount (String.ofList (trim text))) := by
  have hwords : words (trim text) = key :: typeWord :: third :: more := by
    rw [words_trim, h.words_eq]
  unfold Field.read
  split
  next hnil =>
    rw [hnil] at hwords
    cases hwords
  · unfold Field.split
    rw [hwords]
    rfl

theorem StarsAround.blankFree {tag : List Char} (h : StarsAround tag typeWord)
    (hfree : BlankFree typeWord) : BlankFree tag := by
  obtain ⟨before, after, rfl⟩ := h.around
  intro c hc
  exact hfree c (by simp [starred, hc])

/-- A text has no words, a key, a key and a type word, or more. -/
theorem words_cases (text : List Char) :
    Blank text ∨ (∃ key, Separated [key] text) ∨
    (∃ key typeWord, Separated [key, typeWord] text) ∨
    ∃ key typeWord third more, Separated (key :: typeWord :: third :: more) text := by
  have h := separated_words text
  match hws : words text, h with
  | [], .nil hblank => exact .inl hblank
  | [key], h => exact .inr (.inl ⟨key, h⟩)
  | [key, typeWord], h => exact .inr (.inr (.inl ⟨key, typeWord, h⟩))
  | key :: typeWord :: third :: more, h => exact .inr (.inr (.inr ⟨key, typeWord, third, more, h⟩))

/-- There is nothing else that a text can be. -/
theorem text_cases (text : List Char) :
    Blank text ∨ (∃ field, IsFieldText text field) ∨ ∃ fault, IsNoFieldText text fault := by
  rcases words_cases text with hblank | ⟨key, h⟩ | ⟨key, typeWord, h⟩ | ⟨_, _, _, _, h⟩
  · exact .inl hblank
  · exact .inr (.inl ⟨_, .key h⟩)
  · have hstars := starsAround_withoutStars typeWord
    rcases tag_cases (withoutStars typeWord) with ⟨_, _, hgives⟩ | hlacks | ⟨cause, hmis⟩
    · exact .inr (.inl ⟨_, .typed h hstars hgives hstars.isStarred_iff⟩)
    · exact .inr (.inr ⟨_, .element h hstars hlacks⟩)
    · exact .inr (.inr ⟨_, .tag h hstars hmis⟩)
  · exact .inr (.inr ⟨_, .moreWords h⟩)

theorem IsFieldText.read_eq {field : Field} (h : IsFieldText text field) :
    Field.read text = .ok (some field) := by
  cases h with
  | key h => exact Field.read_of_key h
  | @typed key typeWord tag type element required h hstars hgives hrequired =>
      have hmark : isStarred typeWord = required := by
        rw [Bool.eq_iff_iff, hstars.isStarred_iff]
        exact hrequired.symm
      rw [Field.read_of_typed h hstars, hgives.types_eq, hmark]
      rfl

theorem IsNoFieldText.read_eq {fault : Fault} (h : IsNoFieldText text fault) :
    Field.read text = .error fault := by
  cases h with
  | moreWords h => exact Field.read_of_more_words h
  | element h hstars hlacks =>
      rw [Field.read_of_typed h hstars, hlacks.types_eq]
      rfl
  | tag h hstars hmis =>
      have hfree := hstars.blankFree (h.isWord (by simp)).2
      rw [Field.read_of_typed h hstars, hmis.types_eq hfree]
      rfl

end Read

/-- A text is read as a field exactly if it is a key, or a key and a type word whose tag is empty,
names a type, or has the name of an element type in its first parentheses. A blank text is no field,
more than two words are too many, and every other text is refused for its tag: the parentheses have
no element type in them, or a word does not name a type. -/
theorem Field.read_iff_language (text : List Char) :
    (∀ field, Field.read text = .ok (some field) ↔ IsFieldText text field) ∧
    (Field.read text = .ok none ↔ Blank text) ∧
    ∀ fault, Field.read text = .error fault ↔ IsNoFieldText text fault := by
  refine ⟨fun field => ⟨fun hread => ?_, IsFieldText.read_eq⟩, Field.read_eq_none_iff,
    fun fault => ⟨fun hread => ?_, IsNoFieldText.read_eq⟩⟩
  · rcases text_cases text with hblank | ⟨field', h⟩ | ⟨fault, h⟩
    · rw [Field.read_eq_none_iff.mpr hblank] at hread
      cases hread
    · rw [h.read_eq] at hread
      cases hread
      exact h
    · rw [h.read_eq] at hread
      cases hread
  · rcases text_cases text with hblank | ⟨field, h⟩ | ⟨fault', h⟩
    · rw [Field.read_eq_none_iff.mpr hblank] at hread
      cases hread
    · rw [h.read_eq] at hread
      cases hread
    · rw [h.read_eq] at hread
      cases hread
      exact h

end RecordSchema.Declaration
