import RecordSchema.Proofs.Declaration.Field

/-!
# Spellings of a schema

One schema has many declarations. `Spells schema text` gathers them all: every entry may be spelled
in any way that `SpellsField` allows, a map without children with a block or without one, blank
segments may stand between entries, and behind a block the comma may be missing.

The reader does not see these choices. If braces do not nest deeper than the limit, every spelling is
read as the schema that it spells (`parse_of_spells`). The induction runs along the spelling and
needs the text of each block only up to the blanks around it, for which `head?_trim_ne_brace` clears
the way.
-/

namespace RecordSchema.Declaration

open RecordSchema.Text

/-- `Spells schema text`: the text is a declaration of the schema. -/
inductive Spells : Schema → List Char → Prop
  | nil {gap} : Blank gap → Spells [] gap
  | skip {gap schema rest} : Blank gap → Spells schema rest → Spells schema (gap ++ ',' :: rest)
  | last {entry tag text} : entry.children = [] → LeafTag entry.type entry.element tag →
      SpellsField entry.key.toList entry.required tag text → Spells [entry] text
  | leaf {entry tag text schema rest} : entry.children = [] →
      LeafTag entry.type entry.element tag →
      SpellsField entry.key.toList entry.required tag text → Spells schema rest →
      Spells (entry :: schema) (text ++ ',' :: rest)
  | block {entry tag head body schema rest} : entry.type = .map → BlockTag tag →
      SpellsField entry.key.toList entry.required tag head → Spells entry.children body →
      Spells schema rest → Spells (entry :: schema) (head ++ '{' :: body ++ '}' :: rest)

/-! ### Reading one entry -/

section Entries

variable {nested : List Char → Except Fault Schema} {entry : Entry} {tag text : List Char}

theorem readPiece_leaf (h : entry.WellFormed) (hc : entry.children = [])
    (ht : LeafTag entry.type entry.element tag)
    (hs : SpellsField entry.key.toList entry.required tag text) :
    readPiece nested (.field text) = .ok (some entry) := by
  obtain ⟨field, hr, hleaf⟩ := hs.read_leaf h.key ht h.element_ne
  rw [readPiece, hr, ok_bind, Option.map_some, hleaf, String.ofList_toList, ← hc, Entry.eta]

theorem readPiece_block (h : entry.WellFormed) (hm : entry.type = .map) (ht : BlockTag tag)
    (hs : SpellsField entry.key.toList entry.required tag text) (body : List Char) :
    readPiece nested (.block text body) = (do
      let children ← nested body
      .ok (some { entry with children })) := by
  obtain ⟨field, hr, hmap⟩ := hs.read_head h.key ht
  have hne : text ≠ [] := by
    rintro rfl
    cases hr
  have helement : entry.element = none := by
    have helement := h.element
    rwa [if_neg (by simp [hm])] at helement
  rw [readPiece]
  cases hb : nested body with
  | error fault => rfl
  | ok children =>
      rw [ok_bind, ok_bind, readBlock, if_neg (by simpa using hne), hr, ok_bind]
      dsimp only
      rw [hmap, ok_bind, String.ofList_toList, ← hm, ← helement]

theorem readPiece_blank (h : Blank text) : readPiece nested (.field text) = .ok none := by
  rw [readPiece, Field.read, trim_eq_nil_iff.mpr h]
  rfl

/-! ### Reading on -/

variable {whole rest : List Char}

theorem readOutline_blank (h : Blank text) : readOutline nested whole (outline text) = .ok [] := by
  rw [outline_plain (plain_of_blank h), readOutline_cons, readPiece_blank h]
  rfl

theorem readOutline_skip (h : Blank text) :
    readOutline nested whole (outline (text ++ ',' :: rest)) =
      readOutline nested whole (outline rest) := by
  rw [outline_field (plain_of_blank h), readOutline_cons, readPiece_blank h, ok_bind]
  cases readOutline nested whole (outline rest) <;> rfl

theorem readOutline_last (h : entry.WellFormed) (hc : entry.children = [])
    (ht : LeafTag entry.type entry.element tag)
    (hs : SpellsField entry.key.toList entry.required tag text) :
    readOutline nested whole (outline text) = .ok [entry] := by
  rw [outline_plain (hs.plain h.key.plain ht.isTagWord), readOutline_cons,
    readPiece_leaf h hc ht hs]
  rfl

theorem readOutline_leaf (h : entry.WellFormed) (hc : entry.children = [])
    (ht : LeafTag entry.type entry.element tag)
    (hs : SpellsField entry.key.toList entry.required tag text) :
    readOutline nested whole (outline (text ++ ',' :: rest)) = (do
      let entries ← readOutline nested whole (outline rest)
      .ok (entry :: entries)) := by
  rw [outline_field (hs.plain h.key.plain ht.isTagWord), readOutline_cons,
    readPiece_leaf h hc ht hs]
  rfl

theorem readOutline_block (h : entry.WellFormed) (hm : entry.type = .map) (ht : BlockTag tag)
    (hs : SpellsField entry.key.toList entry.required tag text) {body : List Char}
    (hb : Balanced body) :
    readOutline nested whole (outline (text ++ '{' :: body ++ '}' :: rest)) = (do
      let children ← nested body
      let entries ← readOutline nested whole (outline rest)
      .ok ({ entry with children } :: entries)) := by
  rw [outline_block (hs.plain h.key.plain ht.isTagWord) hb, readOutline_cons,
    readPiece_block h hm ht hs]
  cases nested body <;> rfl

end Entries

/-! ### Spellings as texts -/

theorem Spells.balanced {schema : Schema} {text : List Char} (h : Spells schema text)
    (hwf : schema.WellFormed) : Balanced text := by
  induction h with
  | nil hg => exact (plain_of_blank hg).balanced
  | skip hg _ ih =>
      exact (plain_of_blank hg).balanced_append (.char (by decide) (by decide) (ih hwf))
  | last _ ht hs =>
      obtain ⟨he, -, -⟩ := Schema.wellFormed_cons.mp hwf
      exact (hs.plain he.key.plain ht.isTagWord).balanced
  | leaf _ ht hs _ ih =>
      obtain ⟨he, -, hrest⟩ := Schema.wellFormed_cons.mp hwf
      exact (hs.plain he.key.plain ht.isTagWord).balanced_append
        (.char (by decide) (by decide) (ih hrest))
  | block _ ht hs _ _ ihBody ihRest =>
      obtain ⟨he, hchildren, hrest⟩ := Schema.wellFormed_cons.mp hwf
      rw [List.append_assoc]
      exact (hs.plain he.key.plain ht.isTagWord).balanced_append
        (.block (ihBody hchildren) (ihRest hrest))

/-- A field begins with its key, up to blanks. -/
theorem SpellsField.exists_eq_append {key tag text : List Char} {required : Bool}
    (h : SpellsField key required tag text) :
    ∃ lead rest, Blank lead ∧ text = lead ++ (key ++ rest) := by
  cases h with
  | bare hl _ _ _ => exact ⟨_, _, hl, List.append_assoc ..⟩
  | @typed lead gap trail before after hl _ _ _ _ =>
      exact ⟨lead, gap ++ (starred before tag after ++ trail), hl, by simp⟩

/-- Where a key comes first, no brace does. -/
theorem SpellsField.head?_trim_ne_brace {key tag text : List Char} {required : Bool}
    (h : SpellsField key required tag text) (hk : IsKeyWord key) (rest : List Char) :
    (trim (text ++ rest)).head? ≠ some '{' := by
  obtain ⟨lead, more, hl, rfl⟩ := h.exists_eq_append
  obtain ⟨c, key, rfl⟩ := List.exists_cons_of_ne_nil hk.ne_nil
  rw [List.append_assoc, List.cons_append, List.cons_append,
    head?_trim hl (hk.blankFree c List.mem_cons_self)]
  have hc := (hk.plain c List.mem_cons_self).2.1
  simpa using hc

theorem Spells.head?_trim_ne_brace {schema : Schema} {text : List Char} (h : Spells schema text)
    (hwf : schema.WellFormed) : (trim text).head? ≠ some '{' := by
  cases h with
  | nil hg => simp [trim_eq_nil_iff.mpr hg]
  | skip hg _ =>
      rw [head?_trim hg (by decide)]
      decide
  | last _ _ hs =>
      have hk := (Schema.wellFormed_cons.mp hwf).1.key
      simpa using hs.head?_trim_ne_brace hk []
  | leaf _ _ hs _ => exact hs.head?_trim_ne_brace (Schema.wellFormed_cons.mp hwf).1.key _
  | block _ _ hs _ _ =>
      rw [List.append_assoc]
      exact hs.head?_trim_ne_brace (Schema.wellFormed_cons.mp hwf).1.key _

/-! ### Reading a spelling -/

theorem Spells.readOutline_eq {limit levels : Nat} {schema : Schema} {text : List Char}
    (h : Spells schema text) (hwf : schema.WellFormed) (hn : nesting text ≤ levels)
    (whole : List Char) :
    readOutline (parseWithin limit levels) whole (outline text) = .ok schema := by
  induction h generalizing levels whole with
  | nil hg => exact readOutline_blank hg
  | skip hg _ ih =>
      rw [nesting_field (plain_of_blank hg)] at hn
      rw [readOutline_skip hg, ih hwf hn]
  | last hc ht hs => exact readOutline_last (Schema.wellFormed_cons.mp hwf).1 hc ht hs
  | leaf hc ht hs _ ih =>
      obtain ⟨he, -, hrest⟩ := Schema.wellFormed_cons.mp hwf
      rw [nesting_field (hs.plain he.key.plain ht.isTagWord)] at hn
      rw [readOutline_leaf he hc ht hs, ih hrest hn, ok_bind]
  | @block entry tag head body schema rest hm ht hs hbody _ ihBody ihRest =>
      obtain ⟨he, hchildren, hrest⟩ := Schema.wellFormed_cons.mp hwf
      have hb := hbody.balanced hchildren
      rw [nesting_block (hs.plain he.key.plain ht.isTagWord) hb] at hn
      obtain ⟨levels, rfl⟩ : ∃ n, levels = n + 1 := ⟨levels - 1, by omega⟩
      -- one level goes to the body, which is read without its outer blanks
      have hread : parseWithin limit (levels + 1) body = .ok entry.children := by
        rw [parseWithin_succ_of_head (hbody.head?_trim_ne_brace hchildren)]
        exact ihBody hchildren (by omega) (trim body)
      rw [readOutline_block he hm ht hs hb, hread, ok_bind, ihRest hrest (by omega), ok_bind,
        Entry.eta]

/-- A well-formed schema is read from each of its spellings, if their braces nest no deeper than the
limit. -/
theorem parse_of_spells {limit : Nat} {schema : Schema} {text : List Char}
    (hwf : schema.WellFormed) (h : Spells schema text) (hn : nesting text ≤ limit) :
    parse limit (String.ofList text) = .ok schema := by
  rw [parse, String.toList_ofList, parseWithin_succ_of_head (h.head?_trim_ne_brace hwf)]
  exact h.readOutline_eq hwf hn (trim text)

/-- A spelling that makes use of most choices: stars on both sides, an array by another name, blanks
where nothing is declared, a map without a tag and one without a block, no comma behind a block. -/
theorem parse_spelling_of_three_entries :
    let schema : Schema := [(Entry.array "tags" .float).require,
      Entry.map "meta" [(Entry.field "a" .string).require, Entry.map "b" []],
      Entry.field "c" .string]
    let text := "tags *x(F)**, ,\tmeta { a *,b M}c".toList
    schema.WellFormed ∧ Spells schema text ∧ nesting text ≤ 1 ∧
      parse 1 (String.ofList text) = .ok schema := by
  intro schema text
  have hwf : schema.WellFormed := by decide
  have hn : nesting text ≤ 1 := by decide
  have hnil : Blank [] := by simp [Blank]
  have hspace : Blank [' '] := by decide
  have hgap : [' '] ≠ [] := by simp
  -- the five fields
  have htags : SpellsField "tags".toList true "x(F)".toList "tags *x(F)**".toList :=
    @SpellsField.typed _ _ _ [] [' '] [] 1 2 hnil hspace hgap hnil (by simp)
  have harray : LeafTag .array (some .float) "x(F)".toList :=
    @LeafTag.array ['x'] .float ['F'] (by decide) (by decide) (by simp) (by simp) (by simp)
      (by decide)
  have hmeta : SpellsField "meta".toList false [] "\tmeta ".toList :=
    @SpellsField.bare _ _ _ ['\t'] [' '] (by decide) hspace rfl rfl
  have ha : SpellsField "a".toList true [] " a *".toList :=
    @SpellsField.typed _ _ _ [' '] [' '] [] 1 0 hspace hspace hgap hnil (by simp)
  have hb : SpellsField "b".toList false ['M'] "b M".toList :=
    @SpellsField.typed _ _ _ [] [' '] [] 0 0 hnil hspace hgap hnil (by simp)
  have hc : SpellsField "c".toList false [] ['c'] :=
    @SpellsField.bare _ _ _ [] [] hnil hnil rfl rfl
  -- from the block outwards
  have hbody : Spells [(Entry.field "a" .string).require, Entry.map "b" []] " a *,b M".toList :=
    @Spells.leaf _ _ " a *".toList _ "b M".toList rfl .omitted ha
      (.last rfl (.named (by decide) (by decide)) hb)
  have hrest : Spells (schema.drop 1) "\tmeta { a *,b M}c".toList :=
    @Spells.block _ _ "\tmeta ".toList " a *,b M".toList _ ['c'] rfl .omitted hmeta hbody
      (.last rfl .omitted hc)
  have h : Spells schema text :=
    @Spells.leaf _ _ "tags *x(F)**".toList _ " ,\tmeta { a *,b M}c".toList rfl harray htags
      (@Spells.skip [' '] _ "\tmeta { a *,b M}c".toList hspace hrest)
  exact ⟨hwf, h, hn, parse_of_spells hwf h hn⟩

end RecordSchema.Declaration
