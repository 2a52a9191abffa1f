import RecordSchema.Declaration.Tag
import RecordSchema.Proofs.Declaration.Braces
import RecordSchema.Proofs.Text.LowerCase
import RecordSchema.Proofs.Text.Words

/-!
# Words that name a type

`Names type word` holds if the word is a spelling of the type in any mixture of small and capital
letters. Such a word consists of letters, so nothing in it can be taken for a separator, a star or a
parenthesis, and `readTag` reads it as the type, except that an array is not named by a word alone.

Only letters of ASCII count, although a tag is put into lower case by the rules of Unicode: what other
letters become is never a spelling (`lower_mem_spellings_iff`). So `Names` tells what becomes of every
tag (`readTag_eq_iff`).
-/

namespace RecordSchema.Declaration

open RecordSchema.Text

/-- `word` is a spelling of `type`, capital letters allowed. -/
def Names (type : FieldType) (word : List Char) : Prop :=
  String.ofList (word.map Char.toLower) ∈ spellings type

instance (type : FieldType) (word : List Char) : Decidable (Names type word) :=
  inferInstanceAs (Decidable (_ ∈ _))

theorem names_name (type : FieldType) : Names type type.name.toList := by
  cases type <;> decide

/-! ### Letters -/

theorem lt_of_isAlpha {c : Char} (h : c.isAlpha = true) : c.toNat < 128 := by
  unfold Char.isAlpha Char.isUpper Char.isLower at h
  simp only [Bool.or_eq_true, decide_eq_true_eq, Bool.and_eq_true, ge_iff_le,
    UInt32.le_iff_toNat_le] at h
  have hA : ('Z'.val).toNat = 90 := rfl
  have hz : ('z'.val).toNat = 122 := rfl
  change c.val.toNat < 128
  omega

theorem isAlpha_of_isLower_toLower {c : Char} (h : c.toLower.isLower = true) :
    c.isAlpha = true := by
  unfold Char.isAlpha
  rw [Bool.or_eq_true]
  unfold Char.toLower at h
  split at h
  · next hc => exact .inl (decide_eq_true hc)
  · exact .inr h

theorem isBlank_of_isAlpha {c : Char} (h : c.isAlpha = true) : isBlank c = false := by
  have table : ∀ n : Fin 128, (Char.ofNat n).isAlpha = true → isBlank (Char.ofNat n) = false := by
    decide +kernel
  simpa using table ⟨c.toNat, lt_of_isAlpha h⟩ (by simpa using h)

/-- A word of letters. -/
def Alphabetic (word : List Char) : Prop := ∀ c ∈ word, c.isAlpha = true

theorem Alphabetic.not_mem {word : List Char} (h : Alphabetic word) {c : Char}
    (hc : c.isAlpha = false) : c ∉ word := by
  intro hmem
  rw [h c hmem] at hc
  cases hc

theorem Alphabetic.blankFree {word : List Char} (h : Alphabetic word) : BlankFree word :=
  fun c hc => isBlank_of_isAlpha (h c hc)

theorem Alphabetic.plain {word : List Char} (h : Alphabetic word) : Plain word := by
  intro c hc
  refine ⟨?_, ?_, ?_⟩ <;> rintro rfl <;> exact h.not_mem (by decide) hc

theorem Alphabetic.ascii {word : List Char} (h : Alphabetic word) : Ascii word :=
  fun c hc => lt_of_isAlpha (h c hc)

/-! ### Spellings -/

theorem isLower_of_mem_spellings {type : FieldType} {word : String} (h : word ∈ spellings type) :
    word ≠ "" ∧ word.toList.all Char.isLower = true := by
  cases type <;> simp only [spellings, List.mem_cons, List.not_mem_nil, or_false] at h <;>
    rcases h with rfl | rfl | rfl <;> decide

theorem Names.alphabetic {type : FieldType} {word : List Char} (h : Names type word) :
    Alphabetic word := by
  intro c hc
  apply isAlpha_of_isLower_toLower
  apply List.all_eq_true.mp (isLower_of_mem_spellings h).2
  rw [String.toList_ofList]
  exact List.mem_map_of_mem hc

theorem Names.ne_nil {type : FieldType} {word : List Char} (h : Names type word) : word ≠ [] := by
  rintro rfl
  exact (isLower_of_mem_spellings h).1 rfl

/-! ### Spellings in lower case -/

theorem typeOfWord?_eq_some_iff {word : String} {type : FieldType} :
    typeOfWord? word = some type ↔ word ∈ spellings type := by
  constructor
  · intro h
    have hfound := List.find?_some h
    simpa using hfound
  · exact typeOfWord?_of_mem

/-- A spelling has no letter that could come from outside of ASCII. -/
theorem ascii_of_mem_spellings {type : FieldType} {word : String} (h : word ∈ spellings type) :
    Ascii word.toList ∧ 'k' ∉ word.toList := by
  constructor
  · intro c hc
    have hlower := List.all_eq_true.mp (isLower_of_mem_spellings h).2 c hc
    apply lt_of_isAlpha
    unfold Char.isAlpha
    rw [hlower, Bool.or_true]
  · cases type <;> simp only [spellings, List.mem_cons, List.not_mem_nil, or_false] at h <;>
      rcases h with rfl | rfl | rfl <;> decide

/-- Only words that name a type become one of its spellings in lower case. -/
theorem lower_mem_spellings_iff {type : FieldType} {word : List Char} :
    String.ofList (lower word) ∈ spellings type ↔ Names type word := by
  constructor
  · intro h
    obtain ⟨hascii, hk⟩ := ascii_of_mem_spellings h
    rw [String.toList_ofList] at hascii hk
    rwa [lower_of_ascii (ascii_of_lower hascii hk)] at h
  · intro h
    rwa [lower_of_ascii h.alphabetic.ascii]

theorem typeOfWord?_lower_eq_some_iff {type : FieldType} {word : List Char} :
    typeOfWord? (String.ofList (lower word)) = some type ↔ Names type word := by
  rw [typeOfWord?_eq_some_iff, lower_mem_spellings_iff]

/-! ### Reading tags -/

/-- `ReadsAs word result`: a tag that is this word, or no word at all, gives this result. No word
leaves the type open, and the name of arrays does not say what the elements are. -/
inductive ReadsAs (word : List Char) : Except Fault (Option FieldType) → Prop
  | blank : word = [] → ReadsAs word (.ok none)
  | named {type : FieldType} : type ≠ .array → Names type word → ReadsAs word (.ok (some type))
  | array : Names .array word → ReadsAs word (.error (.missingElement (String.ofList (lower word))))
  | unknown : word ≠ [] → (∀ type, ¬Names type word) →
      ReadsAs word (.error (.unknownTag (String.ofList (lower word))))

theorem readsAs_readTag (tag : List Char) : ReadsAs (trim tag) (readTag tag) := by
  unfold readTag
  split
  next hnil =>
    rw [hnil]
    exact .blank rfl
  next hne =>
    dsimp only
    split
    next harray => exact .array (typeOfWord?_lower_eq_some_iff.mp harray)
    next type hne htype =>
      exact .named hne (typeOfWord?_lower_eq_some_iff.mp htype)
    next hnone =>
      apply ReadsAs.unknown hne
      intro type hnames
      rw [← typeOfWord?_lower_eq_some_iff, hnone] at hnames
      cases hnames

theorem ReadsAs.readTag_eq {tag : List Char} {result : Except Fault (Option FieldType)}
    (h : ReadsAs (trim tag) result) : readTag tag = result := by
  unfold readTag
  split
  next hnil =>
    cases h with
    | blank _ => rfl
    | named _ hn => exact absurd hnil hn.ne_nil
    | array hn => exact absurd hnil hn.ne_nil
    | unknown hne _ => exact absurd hnil hne
  next hne =>
    dsimp only
    cases h with
    | blank hnil => exact absurd hnil hne
    | @named type harray hn =>
        rw [typeOfWord?_lower_eq_some_iff.mpr hn]
        cases type <;> first | rfl | exact absurd rfl harray
    | array hn => rw [typeOfWord?_lower_eq_some_iff.mpr hn]
    | unknown _ hnot =>
        have hnone : typeOfWord? (String.ofList (lower (trim tag))) = none := by
          rw [Option.eq_none_iff_forall_ne_some]
          intro type htype
          exact hnot type (typeOfWord?_lower_eq_some_iff.mp htype)
        rw [hnone]

/-- What a tag is read as, told by the word that it is. -/
theorem readTag_eq_iff {tag : List Char} {result : Except Fault (Option FieldType)} :
    readTag tag = result ↔ ReadsAs (trim tag) result := by
  constructor
  · rintro rfl
    exact readsAs_readTag tag
  · exact ReadsAs.readTag_eq

/-- A word that names a type other than `array` is read as this type. -/
theorem Names.readTag_eq {type : FieldType} {word : List Char} (h : Names type word)
    (hne : type ≠ .array) : readTag word = .ok (some type) := by
  rw [readTag_eq_iff, h.alphabetic.blankFree.trim_eq_self]
  exact .named hne h

/-- No tag is read as `array`. -/
theorem ne_array_of_readTag {tag : List Char} {type : FieldType} (h : readTag tag = .ok (some type)) :
    type ≠ .array := by
  cases readTag_eq_iff.mp h with
  | named hne _ => exact hne

/-- A tag is read by the type that its word names in ASCII letters of either case. In every other case
it is refused with its Unicode lower-case form, whatever letters outside of ASCII are in it. -/
theorem readTag_iff_names (tag : List Char) :
    (∀ type, readTag tag = .ok (some type) ↔
      type ≠ .array ∧ Alphabetic (trim tag) ∧ Names type (trim tag)) ∧
    (∀ word, readTag tag = .error (.missingElement word) ↔
      word = String.ofList (lower (trim tag)) ∧ Alphabetic (trim tag) ∧ Names .array (trim tag)) ∧
    (readTag tag = .ok none ↔ Blank tag) ∧
    (∀ word, readTag tag = .error (.unknownTag word) ↔
      word = String.ofList (lower (trim tag)) ∧ ¬Blank tag ∧ ∀ type, ¬Names type (trim tag)) ∧
    (∀ c ∈ trim tag, 128 ≤ c.toNat →
      readTag tag = .error (.unknownTag (String.ofList (lower (trim tag))))) ∧
    spellings .long = ["l", "long"] ∧ spellings .float = ["f", "float"] ∧
    spellings .string = ["s", "string"] ∧ spellings .date = ["d", "date"] ∧
    spellings .boolean = ["b", "bool", "boolean"] ∧ spellings .map = ["m", "map"] ∧
    spellings .array = ["a", "array"] := by
  simp only [readTag_eq_iff, ← trim_eq_nil_iff]
  refine ⟨?_, ?_, ?_, ?_, ?_, rfl, rfl, rfl, rfl, rfl, rfl, rfl⟩
  · intro type
    constructor
    · rintro ⟨⟩
      next hne hn => exact ⟨hne, hn.alphabetic, hn⟩
    · rintro ⟨hne, -, hn⟩
      exact .named hne hn
  · intro word
    constructor
    · rintro ⟨⟩
      next hn => exact ⟨rfl, hn.alphabetic, hn⟩
    · rintro ⟨rfl, -, hn⟩
      exact .array hn
  · constructor
    · rintro ⟨⟩
      assumption
    · exact .blank
  · intro word
    constructor
    · rintro ⟨⟩
      next hne hnot => exact ⟨rfl, hne, hnot⟩
    · rintro ⟨rfl, hne, hnot⟩
      exact .unknown hne hnot
  · intro c hc hout
    apply ReadsAs.unknown (List.ne_nil_of_mem hc)
    intro type hn
    exact absurd (hn.alphabetic.ascii c hc) (Nat.not_lt.mpr hout)

/-- The dotted capital I leaves an `i` behind, but with a dot on it. -/
theorem readTag_iff_names_dotted :
    'İ' ∈ trim " strİnG ".toList ∧
      readTag " strİnG ".toList = .error (.unknownTag "stri\u0307ng") := by
  have hmem : 'İ' ∈ trim " strİnG ".toList := by decide
  have hword : String.ofList (lower (trim " strİnG ".toList)) = "stri\u0307ng" := by decide +kernel
  rw [← hword]
  exact ⟨hmem, (readTag_iff_names _).2.2.2.2.1 'İ' hmem (by decide)⟩

end RecordSchema.Declaration
