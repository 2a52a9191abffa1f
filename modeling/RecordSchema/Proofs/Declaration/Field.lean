import RecordSchema.Declaration.Parse
import RecordSchema.Proofs.Declaration.Reading
import RecordSchema.Proofs.Declaration.Tag
import RecordSchema.Proofs.Schema.WellFormed

/-!
# What a field may look like

The text of one field leaves a writer many choices: blanks, stars, capital letters, short tags, tags
left out. `SpellsField` describes the texts for a key, a tag and a mark, `LeafTag` and `BlockTag` the
tags for a type. All of them are read alike (`SpellsField.read_leaf`, `SpellsField.read_head`).

Conversely, whatever is read from a text without commas and braces is a key word with types that fit
together (`Field.read_sound`).
-/

namespace RecordSchema.Declaration

open RecordSchema.Text

/-! ### Stars -/

/-- A tag with stars around it. -/
def starred (before : Nat) (tag : List Char) (after : Nat) : List Char :=
  List.replicate before '*' ++ tag ++ List.replicate after '*'

/-- `StarsAround tag typeWord`: the type word is the tag with stars on its two sides, and none of the
stars there belongs to the tag. -/
structure StarsAround (tag typeWord : List Char) : Prop where
  head : tag.head? ≠ some '*'
  last : tag.getLast? ≠ some '*'
  around : ∃ before after, typeWord = starred before tag after

theorem withoutStars_head? (typeWord : List Char) : (withoutStars typeWord).head? ≠ some '*' := by
  intro h
  have := eq_false_of_mem_head?_trimBy h
  simp at this

theorem withoutStars_getLast? (typeWord : List Char) :
    (withoutStars typeWord).getLast? ≠ some '*' := by
  intro h
  have := eq_false_of_mem_getLast?_trimBy h
  simp at this

theorem starsAround_withoutStars (typeWord : List Char) :
    StarsAround (withoutStars typeWord) typeWord := by
  refine ⟨withoutStars_head? typeWord, withoutStars_getLast? typeWord, ?_⟩
  obtain ⟨lead, trail, hlead, htrail, hword⟩ := exists_eq_append_trimBy (· == '*') typeWord
  have hstars : ∀ {stars : List Char}, (∀ c ∈ stars, (c == '*') = true) →
      stars = List.replicate stars.length '*' := by
    intro stars h
    exact List.eq_replicate_of_mem fun c hc => eq_of_beq (h c hc)
  refine ⟨lead.length, trail.length, ?_⟩
  unfold starred
  rw [← hstars hlead, ← hstars htrail]
  exact hword

theorem StarsAround.withoutStars_eq {tag typeWord : List Char} (h : StarsAround tag typeWord) :
    withoutStars typeWord = tag := by
  have hstars : ∀ n, ∀ c ∈ List.replicate n '*', (c == '*') = true := by simp
  obtain ⟨before, after, rfl⟩ := h.around
  rw [withoutStars, starred, trimBy_append_append (hstars before) (hstars after)]
  apply trimBy_eq_self
  · rintro c hc
    have := h.head
    grind
  · rintro c hc
    have := h.last
    grind

/-- A type word is starred if there is more to it than the tag. -/
theorem StarsAround.isStarred_iff {tag typeWord : List Char} (h : StarsAround tag typeWord) :
    isStarred typeWord = true ↔ typeWord ≠ tag := by
  constructor
  · rintro hstar rfl
    simp [isStarred, h.head, h.last] at hstar
  · intro hne
    by_contra hnot
    simp only [isStarred, Bool.or_eq_true, beq_iff_eq, not_or] at hnot
    -- a word that neither begins nor ends with a star is its own tag
    have hself : StarsAround typeWord typeWord := ⟨hnot.1, hnot.2, 0, 0, by simp [starred]⟩
    exact hne (hself.withoutStars_eq.symm.trans h.withoutStars_eq)

/-- A tag that is one word, and one that stars can be told apart from. -/
structure IsTagWord (tag : List Char) : Prop where
  blankFree : BlankFree tag
  plain : Plain tag
  head : tag.head? ≠ some '*'
  last : tag.getLast? ≠ some '*'

theorem IsTagWord.withoutStars_starred {tag : List Char} (h : IsTagWord tag) (before after : Nat) :
    withoutStars (starred before tag after) = tag :=
  StarsAround.withoutStars_eq ⟨h.head, h.last, before, after, rfl⟩

theorem IsTagWord.isStarred_starred {tag : List Char} (h : IsTagWord tag) (before after : Nat) :
    isStarred (starred before tag after) = decide (0 < before + after) := by
  cases before with
  | succ before =>
      have hpos : 0 < before + 1 + after := by omega
      simp [isStarred, starred, List.replicate_succ, hpos]
  | zero =>
      cases after with
      | succ after => simp [isStarred, starred, List.replicate_succ']
      | zero => simp [isStarred, starred, h.head, h.last]

theorem IsTagWord.blankFree_starred {tag : List Char} (h : IsTagWord tag) (before after : Nat) :
    BlankFree (starred before tag after) := by
  have hstar : isBlank '*' = false := by decide
  intro c hc
  simp only [starred, List.mem_append, List.mem_replicate] at hc
  rcases hc with (⟨-, rfl⟩ | hc) | ⟨-, rfl⟩
  · exact hstar
  · exact h.blankFree c hc
  · exact hstar

theorem IsTagWord.plain_starred {tag : List Char} (h : IsTagWord tag) (before after : Nat) :
    Plain (starred before tag after) := by
  have hstars : ∀ n, Plain (List.replicate n '*') := by
    intro n c hc
    rw [List.eq_of_mem_replicate hc]
    decide
  exact plain_append.mpr ⟨plain_append.mpr ⟨hstars before, h.plain⟩, hstars after⟩

/-! ### Spellings of a field -/

/-- `SpellsField key required tag text`: the text is the key, then blanks and the tag with stars
around it, if there are any, and blanks on both sides. There is a star exactly if the field is
required. Where neither a tag nor a star is written, the blanks may be missing. -/
inductive SpellsField (key : List Char) (required : Bool) (tag : List Char) : List Char → Prop
  | bare {lead trail} : Blank lead → Blank trail → required = false → tag = [] →
      SpellsField key required tag (lead ++ key ++ trail)
  | typed {lead gap trail} (before after : Nat) : Blank lead → Blank gap → gap ≠ [] → Blank trail →
      (required = true ↔ 0 < before + after) →
      SpellsField key required tag (lead ++ key ++ gap ++ starred before tag after ++ trail)

/-- `LeafTag type element tag`: a field without a block may say by this tag that it has this type and
these elements. A string need not say it. Before the parentheses of an array may stand anything but
parentheses, separators and a star in front. -/
inductive LeafTag : FieldType → Option FieldType → List Char → Prop
  | omitted : LeafTag .string none []
  | named {type tag} : type ≠ .array → Names type tag → LeafTag type none tag
  | array {front element inside} : BlankFree front → Plain front → '(' ∉ front → ')' ∉ front →
      front.head? ≠ some '*' → Names element inside →
      LeafTag .array (some element) (front ++ '(' :: inside ++ [')'])

/-- A field in front of a block may say by this tag that it is a map, and need not say it. -/
inductive BlockTag : List Char → Prop
  | omitted : BlockTag []
  | named {tag} : Names .map tag → BlockTag tag

theorem isTagWord_nil : IsTagWord [] := ⟨by simp [BlankFree], plain_nil, by simp, by simp⟩

theorem Names.isTagWord {type : FieldType} {word : List Char} (h : Names type word) :
    IsTagWord word := by
  have hstar : '*' ∉ word := h.alphabetic.not_mem (by decide)
  exact ⟨h.alphabetic.blankFree, h.alphabetic.plain, fun hh => hstar (List.mem_of_mem_head? hh),
    fun hl => hstar (List.mem_of_getLast? hl)⟩

theorem LeafTag.isTagWord {type : FieldType} {element : Option FieldType} {tag : List Char}
    (h : LeafTag type element tag) : IsTagWord tag := by
  cases h with
  | omitted => exact isTagWord_nil
  | named _ hn => exact hn.isTagWord
  | @array front element inside hblank hplain _ _ hstar hn =>
      refine ⟨?_, ?_, ?_, ?_⟩
      · intro c hc
        simp only [List.mem_append, List.mem_cons, List.not_mem_nil, or_false] at hc
        rcases hc with (hc | rfl | hc) | rfl
        · exact hblank c hc
        · decide
        · exact hn.alphabetic.blankFree c hc
        · decide
      · simp [hplain, hn.alphabetic.plain]
      · cases front with
        | nil => simp
        | cons c front => simpa using hstar
      · rw [List.getLast?_append]
        simp

theorem BlockTag.isTagWord {tag : List Char} (h : BlockTag tag) : IsTagWord tag := by
  cases h with
  | omitted => exact isTagWord_nil
  | named hn => exact hn.isTagWord

theorem SpellsField.plain {key tag text : List Char} {required : Bool}
    (h : SpellsField key required tag text) (hk : Plain key) (ht : IsTagWord tag) : Plain text := by
  cases h with
  | bare hl htr _ _ => simp [plain_of_blank hl, plain_of_blank htr, hk]
  | typed before after hl hg _ htr _ =>
      simp [plain_of_blank hl, plain_of_blank hg, plain_of_blank htr, hk,
        ht.plain_starred before after]

/-! ### Reading a spelling -/

theorem Field.split_trim_of_words_single {text key : List Char} (h : words text = [key]) :
    Field.split (trim text) = .ok (key, []) := by
  rw [Field.split, words_trim, h]

theorem Field.split_trim_of_words_pair {text key typeWord : List Char}
    (h : words text = [key, typeWord]) : Field.split (trim text) = .ok (key, typeWord) := by
  rw [Field.split, words_trim, h]

/-- However a field is spelled, its words are the key and the tag in stars. -/
theorem SpellsField.split {key tag text : List Char} {required : Bool}
    (h : SpellsField key required tag text) (hk : IsKeyWord key) (ht : IsTagWord tag) :
    ∃ typeWord, Field.split (trim text) = .ok (key, typeWord) ∧ withoutStars typeWord = tag ∧
      isStarred typeWord = required := by
  cases h with
  | bare hl htr hr htag =>
      subst hr htag
      exact ⟨[], Field.split_trim_of_words_single (words_single hl htr hk.blankFree hk.ne_nil),
        rfl, rfl⟩
  | @typed lead gap trail before after hl hg hgap htr hr =>
      refine ⟨starred before tag after, ?_, ht.withoutStars_starred before after, ?_⟩
      · -- with neither a tag nor a star, what is left are blanks behind the key
        by_cases hword : starred before tag after = []
        · rw [hword, List.append_nil, List.append_assoc]
          exact Field.split_trim_of_words_single
            (words_single hl (hg.append htr) hk.blankFree hk.ne_nil)
        · exact Field.split_trim_of_words_pair (words_pair hl hg htr hgap hk.blankFree hk.ne_nil
            (ht.blankFree_starred before after) hword)
      · rw [ht.isStarred_starred]
        cases required <;> simp_all

/-- Once its words are known, only the types of a field are left to be read. -/
theorem Field.read_eq_of_split {text key typeWord : List Char}
    (hs : Field.split (trim text) = .ok (key, typeWord)) (hk : key ≠ []) :
    Field.read text = (Field.types (trim text) key (withoutStars typeWord)).map fun types =>
      some ⟨String.ofList key, String.ofList (withoutStars typeWord), types.1, types.2,
        isStarred typeWord⟩ := by
  rw [Field.read]
  split
  · next hnil =>
      rw [hnil] at hs
      cases hs
  · rw [hs, ok_bind]
    dsimp only
    rw [if_neg (by simpa using hk)]
    rfl

theorem Field.read_of_split {text key typeWord : List Char}
    {type element : Option FieldType} (hs : Field.split (trim text) = .ok (key, typeWord))
    (hk : key ≠ [])
    (ht : Field.types (trim text) key (withoutStars typeWord) = .ok (type, element)) :
    Field.read text = .ok (some ⟨String.ofList key, String.ofList (withoutStars typeWord), type,
      element, isStarred typeWord⟩) := by
  rw [Field.read_eq_of_split hs hk, ht]
  rfl

/-! ### The types of a tag -/

theorem Field.types_nil (segment key : List Char) : Field.types segment key [] = .ok (none, none) :=
  rfl

theorem Names.types_eq {type : FieldType} {tag : List Char} (h : Names type tag)
    (hne : type ≠ .array) (segment key : List Char) :
    Field.types segment key tag = .ok (some type, none) := by
  have hparen : tag.contains '(' = false := by
    simpa using h.alphabetic.not_mem (show '('.isAlpha = false by decide)
  rw [Field.types, if_neg (by simpa using hparen), h.readTag_eq hne]
  rfl

/-- The first `(` and the first `)` of a tag count, and the `)` has to be the later one. -/
theorem elementTag?_append_cons {front : List Char} (ho : '(' ∉ front) (rest : List Char) :
    elementTag? (front ++ '(' :: rest) =
      if ')' ∈ front ∨ ')' ∉ rest then none else some (rest.takeWhile (· != ')')) := by
  have hfront : ∀ c ∈ front, (c != '(') = true := by
    intro c hmem
    simpa using ne_of_mem_of_not_mem hmem ho
  rw [elementTag?, List.takeWhile_append_of_pos hfront, List.dropWhile_append_of_pos hfront]
  simp

theorem elementTag?_append {front inside : List Char} (ho : '(' ∉ front) (hc : ')' ∉ front)
    (hi : ')' ∉ inside) (back : List Char) :
    elementTag? (front ++ '(' :: inside ++ ')' :: back) = some inside := by
  have hinside : ∀ c ∈ inside, (c != ')') = true := by
    intro c hmem
    simpa using ne_of_mem_of_not_mem hmem hi
  rw [List.append_assoc, List.cons_append, elementTag?_append_cons ho, if_neg (by simp [hc]),
    List.takeWhile_append_of_pos hinside]
  simp

theorem Names.types_array_eq {element : FieldType} {front inside : List Char}
    (h : Names element inside) (hne : element ≠ .array) (ho : '(' ∉ front) (hc : ')' ∉ front)
    (back segment key : List Char) :
    Field.types segment key (front ++ '(' :: inside ++ ')' :: back) =
      .ok (some .array, some element) := by
  have hinside : ')' ∉ inside := h.alphabetic.not_mem (by decide)
  rw [Field.types, if_pos (by simp), elementTag?_append ho hc hinside]
  dsimp only
  rw [h.readTag_eq hne]
  rfl

/-! ### Entries from spellings -/

/-- A field without a block is read as its entry, whatever its spelling. -/
theorem SpellsField.read_leaf {key tag text : List Char} {required : Bool} {type : FieldType}
    {element : Option FieldType} (h : SpellsField key required tag text) (hk : IsKeyWord key)
    (ht : LeafTag type element tag) (hne : element ≠ some .array) :
    ∃ field, Field.read text = .ok (some field) ∧
      field.toLeaf = ⟨String.ofList key, type, required, element, []⟩ := by
  obtain ⟨typeWord, hs, rfl, rfl⟩ := h.split hk ht.isTagWord
  generalize htag : withoutStars typeWord = tag at ht
  cases ht with
  | omitted =>
      exact ⟨_, Field.read_of_split hs hk.ne_nil (by rw [htag]; exact Field.types_nil _ _), rfl⟩
  | named harray hn =>
      exact ⟨_, Field.read_of_split hs hk.ne_nil (by rw [htag]; exact hn.types_eq harray _ _), rfl⟩
  | array _ _ ho hc _ hn =>
      have helement : _ ≠ FieldType.array := fun heq => hne (congrArg some heq)
      exact ⟨_, Field.read_of_split hs hk.ne_nil
        (by rw [htag]; exact hn.types_array_eq helement ho hc [] _ _), rfl⟩

/-- A field in front of a block is read as a map, whatever its spelling. -/
theorem SpellsField.read_head {key tag text : List Char} {required : Bool}
    (h : SpellsField key required tag text) (hk : IsKeyWord key) (ht : BlockTag tag) :
    ∃ field, Field.read text = .ok (some field) ∧ ∀ block children,
      field.toMap block children = .ok ⟨String.ofList key, .map, required, none, children⟩ := by
  obtain ⟨typeWord, hs, rfl, rfl⟩ := h.split hk ht.isTagWord
  generalize htag : withoutStars typeWord = tag at ht
  cases ht with
  | omitted =>
      exact ⟨_, Field.read_of_split hs hk.ne_nil (by rw [htag]; exact Field.types_nil _ _),
        fun _ _ => rfl⟩
  | named hn =>
      exact ⟨_, Field.read_of_split hs hk.ne_nil (by rw [htag]; exact hn.types_eq (by decide) _ _),
        fun _ _ => rfl⟩

/-! ### What a field can say -/

/-- Types that fit together: an element type comes with `array`, and is not `array`. -/
def TypesFit (type element : Option FieldType) : Prop :=
  if type = some .array then ∃ inner ∈ element, inner ≠ .array else element = none

theorem inField_eq_ok {α : Type} {segment key tag : List Char} {x : Except Fault α} {a : α}
    (h : inField segment key tag x = .ok a) : x = .ok a := by
  cases x with
  | error fault => cases h
  | ok b => exact h

theorem Field.types_sound {segment key tag : List Char} {type element : Option FieldType}
    (h : Field.types segment key tag = .ok (type, element)) : TypesFit type element := by
  rw [Field.types] at h
  split at h
  · split at h
    · cases h
    · obtain ⟨inner, hin, h⟩ := bind_eq_ok h
      cases inner with
      | none => cases h
      | some inner =>
          cases h
          exact ⟨inner, rfl, ne_array_of_readTag (inField_eq_ok hin)⟩
  · obtain ⟨named, hin, h⟩ := bind_eq_ok h
    cases h
    have hread := inField_eq_ok hin
    rw [TypesFit, if_neg]
    rintro rfl
    exact ne_array_of_readTag hread rfl

theorem Field.split_sound {segment key typeWord : List Char}
    (h : Field.split segment = .ok (key, typeWord)) : key ∈ words segment := by
  rw [Field.split] at h
  split at h
  · next hw =>
      cases h
      rw [hw]
      exact List.mem_cons_self
  · next hw =>
      cases h
      rw [hw]
      exact List.mem_cons_self
  · cases h

/-- A field that was read has a word of the text as its key, and types that fit together. -/
theorem Field.read_sound {text : List Char} {field : Field}
    (h : Field.read text = .ok (some field)) :
    field.key.toList ∈ words text ∧ TypesFit field.type field.element := by
  rw [Field.read] at h
  split at h
  · cases h
  · obtain ⟨⟨key, typeWord⟩, hs, h⟩ := bind_eq_ok h
    dsimp only at h
    split at h
    · cases h
    · obtain ⟨⟨type, element⟩, ht, h⟩ := bind_eq_ok h
      cases h
      refine ⟨?_, Field.types_sound ht⟩
      rw [String.toList_ofList, ← words_trim]
      exact Field.split_sound hs

theorem Field.isKeyWord_of_read {text : List Char} {field : Field} (hp : Plain text)
    (h : Field.read text = .ok (some field)) : IsKeyWord field.key.toList := by
  obtain ⟨hne, hblank, hmem⟩ := mem_words (Field.read_sound h).1
  exact ⟨hne, hblank, fun c hc => hp c (hmem c hc)⟩

theorem Field.wellFormed_toLeaf {text : List Char} {field : Field} (hp : Plain text)
    (h : Field.read text = .ok (some field)) : field.toLeaf.WellFormed := by
  have hfit := (Field.read_sound h).2
  refine ⟨Field.isKeyWord_of_read hp h, ?_, fun _ => rfl⟩
  -- a type that is left open becomes `string`, which is no array either
  have hiff : field.toLeaf.type = .array ↔ field.type = some .array := by
    rw [Field.toLeaf]
    cases field.type <;> simp
  rw [TypesFit] at hfit
  split at hfit
  · next harray => rwa [if_pos (hiff.mpr harray)]
  · next harray => rwa [if_neg (fun heq => harray (hiff.mp heq))]

theorem Field.toMap_eq_ok {field : Field} {block : List Char} {children : Schema} {entry : Entry}
    (h : field.toMap block children = .ok entry) :
    entry = ⟨field.key, .map, field.required, none, children⟩ := by
  rw [Field.toMap] at h
  split at h
  · cases h
    rfl
  · cases h

/-- An entry that comes from a block is the map that its head names, with what the body was read
as. -/
theorem readBlock_eq_some {head body : List Char} {children : Schema} {entry : Entry}
    (h : readBlock head body children = .ok (some entry)) :
    ∃ field, Field.read head = .ok (some field) ∧
      entry = ⟨field.key, .map, field.required, none, children⟩ := by
  rw [readBlock] at h
  split at h
  · cases h
  · obtain ⟨field, hfield, h⟩ := bind_eq_ok h
    cases field with
    | none => cases h
    | some field =>
        obtain ⟨entry, hmap, h⟩ := bind_eq_ok h
        cases h
        exact ⟨field, hfield, Field.toMap_eq_ok hmap⟩

end RecordSchema.Declaration
