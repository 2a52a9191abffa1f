import RecordSchema.Declaration.Render
import RecordSchema.Proofs.Declaration.Image
import RecordSchema.Proofs.Declaration.Spelling

/-!
# Reading back what was written

The canonical declaration of a well-formed schema is one of its spellings (`spells_render`), so it is
read back if the limit allows. Every map is written with a block, though, also a map without
children, so that the braces nest as deep as the maps do. `checkDepth` looks for a map that does not
fit under the limit, and `readOutline_render` says that nothing else can go wrong:

    reading schema.render  =  checkDepth limit schema.nodes, then schema

Two answers follow to the question which schemas come back: for schemas in general
(`parse_render_eq_ok_iff`), and for those that were themselves read (`parse_render_of_parse`). The
latter may be one map too high, as a map without children is also read without a block.
-/

namespace RecordSchema

open RecordSchema.Text RecordSchema.Declaration

/-! ### Canonical declarations of entries -/

section Entries

variable {entry : Entry}

/-- What stands in front of the parentheses or the block of an entry, or all of it. -/
def Entry.headChars (entry : Entry) : List Char :=
  entry.key.toList ++ ' ' :: star entry.required ++ entry.type.name.toList

theorem Entry.renderChars_eq (entry : Entry) :
    entry.renderChars = entry.headChars ++ match entry.type with
      | .map => '{' :: renderAllChars entry.children ++ ['}']
      | .array => '(' :: (entry.element.elim "" FieldType.name).toList ++ [')']
      | _ => [] := by
  obtain ⟨key, type, required, element, children⟩ := entry
  cases type <;> simp [renderChars, headChars]

/-- One star in front says that an entry is required, and no star that it is not. -/
theorem Entry.spellsField_canonical (key tag : List Char) (required : Bool) :
    SpellsField key required tag (key ++ ' ' :: star required ++ tag) := by
  have h := @SpellsField.typed key required tag [] [' '] [] (if required then 1 else 0) 0
    (by decide) (by decide) (by decide) (by decide) (by cases required <;> decide)
  cases required <;> simpa [starred, star] using h

/-- An entry that is not a map is written as a field. -/
theorem Entry.WellFormed.spells_leaf (h : entry.WellFormed) (hm : entry.type ≠ .map) :
    ∃ tag, LeafTag entry.type entry.element tag ∧
      SpellsField entry.key.toList entry.required tag entry.renderChars := by
  have helement := h.element
  by_cases harray : entry.type = .array
  · rw [if_pos harray] at helement
    obtain ⟨type, htype, -⟩ := helement
    refine ⟨"array".toList ++ '(' :: type.name.toList ++ [')'], ?_, ?_⟩
    · rw [harray, Option.mem_def.mp htype]
      exact .array (by decide) (by decide) (by decide) (by decide) (by decide) (names_name type)
    · have hs := spellsField_canonical entry.key.toList
        ("array".toList ++ '(' :: type.name.toList ++ [')']) entry.required
      rw [renderChars_eq, headChars, harray, Option.mem_def.mp htype]
      simpa [FieldType.name] using hs
  · rw [if_neg harray] at helement
    refine ⟨entry.type.name.toList, ?_, ?_⟩
    · rw [helement]
      exact .named harray (names_name entry.type)
    · have hs := spellsField_canonical entry.key.toList entry.type.name.toList entry.required
      rw [renderChars_eq, headChars]
      split
      · contradiction
      · contradiction
      · simpa using hs

/-- A map is written as a field with a block. -/
theorem Entry.spells_head (hm : entry.type = .map) :
    SpellsField entry.key.toList entry.required FieldType.map.name.toList entry.headChars := by
  rw [headChars, hm]
  exact spellsField_canonical entry.key.toList FieldType.map.name.toList entry.required

theorem Entry.renderChars_map (hm : entry.type = .map) :
    entry.renderChars = entry.headChars ++ '{' :: renderAllChars entry.children ++ ['}'] := by
  rw [renderChars_eq, hm]
  simp

theorem Entry.WellFormed.snug_renderChars (h : entry.WellFormed) : Snug entry.renderChars := by
  have hkey := h.key.blankFree.snug h.key.ne_nil
  have hname : Snug entry.type.name.toList :=
    (names_name entry.type).alphabetic.blankFree.snug (names_name entry.type).ne_nil
  rw [renderChars_eq, headChars]
  split
  · have hlast : Snug ['}'] := BlankFree.snug (by decide) (by simp)
    simpa using hkey.append hlast
      (' ' :: star entry.required ++ entry.type.name.toList ++ '{' :: renderAllChars entry.children)
  · have hlast : Snug [')'] := BlankFree.snug (by decide) (by simp)
    simpa using hkey.append hlast (' ' :: star entry.required ++ entry.type.name.toList ++
      '(' :: (entry.element.elim "" FieldType.name).toList)
  · simpa using hkey.append hname (' ' :: star entry.required)

end Entries

/-! ### Canonical declarations of schemas -/

@[simp] theorem Entry.renderAllChars_nil : renderAllChars [] = [] := by rw [renderAllChars]

theorem Entry.renderAllChars_singleton (entry : Entry) :
    renderAllChars [entry] = entry.renderChars := by rw [renderAllChars]

theorem Entry.renderAllChars_cons_cons (entry next : Entry) (entries : Schema) :
    renderAllChars (entry :: next :: entries) =
      entry.renderChars ++ ',' :: renderAllChars (next :: entries) := by
  rw [renderAllChars]
  simp

/-- The canonical declaration of a schema is one of its spellings. -/
theorem Schema.WellFormed.spells_render {schema : Schema} (hwf : schema.WellFormed) :
    Spells schema (Entry.renderAllChars schema) := by
  have hgap : Blank [] := by decide
  induction schema using Schema.induct with
  | nil => exact .nil hgap
  | cons entry entries ihChildren ihEntries =>
      obtain ⟨he, hchildren, hentries⟩ := Schema.wellFormed_cons.mp hwf
      have hrest := ihEntries hentries
      by_cases hm : entry.type = .map
      · have hblock : ∀ rest, Spells entries rest → Spells (entry :: entries)
            (entry.headChars ++ '{' :: Entry.renderAllChars entry.children ++ '}' :: rest) :=
          fun rest h => .block hm (.named (names_name .map)) (Entry.spells_head hm)
            (ihChildren hchildren) h
        cases entries with
        | nil =>
            rw [Entry.renderAllChars_singleton, Entry.renderChars_map hm]
            exact hblock [] (.nil hgap)
        | cons next entries =>
            -- the comma behind a block is an empty segment
            rw [Entry.renderAllChars_cons_cons, Entry.renderChars_map hm, List.append_assoc]
            exact hblock _ (.skip hgap hrest)
      · obtain ⟨tag, ht, hs⟩ := he.spells_leaf hm
        cases entries with
        | nil =>
            rw [Entry.renderAllChars_singleton]
            exact .last (he.children hm) ht hs
        | cons next entries =>
            rw [Entry.renderAllChars_cons_cons]
            exact .leaf (he.children hm) ht hs hrest

theorem Schema.WellFormed.snug_render {entry : Entry} {entries : Schema}
    (hwf : Schema.WellFormed (entry :: entries)) :
    Snug (Entry.renderAllChars (entry :: entries)) := by
  induction entries generalizing entry with
  | nil =>
      rw [Entry.renderAllChars_singleton]
      exact (Schema.wellFormed_cons.mp hwf).1.snug_renderChars
  | cons next entries ih =>
      obtain ⟨he, -, hentries⟩ := Schema.wellFormed_cons.mp hwf
      rw [Entry.renderAllChars_cons_cons]
      exact he.snug_renderChars.append (ih hentries) [',']

theorem Schema.WellFormed.trim_render {schema : Schema} (hwf : schema.WellFormed) :
    trim (Entry.renderAllChars schema) = Entry.renderAllChars schema := by
  cases schema with
  | nil =>
      rw [Entry.renderAllChars_nil]
      rfl
  | cons entry entries => exact hwf.snug_render.trim_eq_self

end RecordSchema

namespace RecordSchema.Declaration

open RecordSchema.Text

/-! ### Reading a canonical declaration -/

/-- The canonical declaration of a schema is read entry by entry, and the block of a map by
`nested`. -/
theorem readOutline_render_cons {nested : List Char → Except Fault Schema} {entry : Entry}
    {entries : Schema} (hwf : Schema.WellFormed (entry :: entries)) (whole : List Char) :
    readOutline nested whole (outline (Entry.renderAllChars (entry :: entries))) = (do
      let children ←
        if entry.type = .map then nested (Entry.renderAllChars entry.children) else .ok []
      let entries ← readOutline nested whole (outline (Entry.renderAllChars entries))
      .ok ({ entry with children } :: entries)) := by
  obtain ⟨he, hchildren, -⟩ := Schema.wellFormed_cons.mp hwf
  have hgap : Blank [] := by decide
  have hnil : readOutline nested whole (outline []) = .ok [] := readOutline_blank hgap
  by_cases hm : entry.type = .map
  · have hblock := fun rest => @readOutline_block nested entry _ _ whole rest he hm
      (.named (names_name .map)) (Entry.spells_head hm) _
      (hchildren.spells_render.balanced hchildren)
    rw [if_pos hm]
    cases entries with
    | nil => rw [Entry.renderAllChars_singleton, Entry.renderChars_map hm, hblock,
        Entry.renderAllChars_nil]
    | cons next entries =>
        have hskip : readOutline nested whole
            (outline (',' :: Entry.renderAllChars (next :: entries))) = _ := readOutline_skip hgap
        rw [Entry.renderAllChars_cons_cons, Entry.renderChars_map hm, List.append_assoc,
          List.singleton_append, hblock, hskip]
  · obtain ⟨tag, ht, hs⟩ := he.spells_leaf hm
    have hc := he.children hm
    rw [if_neg hm, ok_bind, ← hc]
    dsimp only
    rw [Entry.eta]
    cases entries with
    | nil => rw [Entry.renderAllChars_singleton, readOutline_last he hc ht hs,
        Entry.renderAllChars_nil, hnil, ok_bind]
    | cons next entries => rw [Entry.renderAllChars_cons_cons, readOutline_leaf he hc ht hs]

/-- Object to the first map among these nodes that lies in `limit` others. -/
def checkDepth (limit : Nat) (nodes : List (Nat × Entry)) : Except Fault Unit :=
  match nodes.find? (isMapInside limit) with
  | none => .ok ()
  | some node => .error (.tooDeep limit (Schema.render node.2.children))

@[simp] theorem checkDepth_nil (limit : Nat) : checkDepth limit [] = .ok () := rfl

theorem checkDepth_cons_of_isMapInside {limit : Nat} {node : Nat × Entry}
    (h : isMapInside limit node = true) (nodes : List (Nat × Entry)) :
    checkDepth limit (node :: nodes) = .error (.tooDeep limit (Schema.render node.2.children)) := by
  rw [checkDepth, List.find?_cons_of_pos h]

theorem checkDepth_cons_of_not {limit : Nat} {node : Nat × Entry}
    (h : isMapInside limit node = false) (nodes : List (Nat × Entry)) :
    checkDepth limit (node :: nodes) = checkDepth limit nodes := by
  rw [checkDepth, List.find?_cons_of_neg (by simp [h]), ← checkDepth]

theorem checkDepth_append (limit : Nat) (front back : List (Nat × Entry)) :
    checkDepth limit (front ++ back) = (do
      checkDepth limit front
      checkDepth limit back) := by
  rw [checkDepth, List.find?_append, checkDepth]
  cases front.find? (isMapInside limit) <;> rfl

/-- One induction over the schema follows both the maps and the levels: together they make up the
limit wherever it has come to. -/
theorem readOutline_render {limit levels depth : Nat} {schema : Schema}
    (hwf : schema.WellFormed) (hlevels : depth + levels = limit) (whole : List Char) :
    readOutline (parseWithin limit levels) whole (outline (Entry.renderAllChars schema)) = (do
      checkDepth limit (schema.nodesFrom depth)
      .ok schema) := by
  induction schema using Schema.induct generalizing depth levels whole with
  | nil =>
      rw [Entry.renderAllChars_nil, readOutline_blank (by decide), Schema.nodesFrom_nil,
        checkDepth_nil, ok_bind]
  | cons entry entries ihChildren ihEntries =>
      obtain ⟨he, hchildren, hentries⟩ := Schema.wellFormed_cons.mp hwf
      rw [readOutline_render_cons hwf, ihEntries hentries hlevels, Schema.nodesFrom_cons,
        Entry.nodesFrom_eq, checkDepth_append]
      by_cases hm : entry.type = .map
      · rw [if_pos hm, if_pos hm]
        cases levels with
        | zero =>
            -- no level is left for the block, whatever is in it
            have hhit : isMapInside limit (depth, entry) = true := by
              simp [isMapInside, hm, ← hlevels]
            rw [checkDepth_cons_of_isMapInside hhit, parseWithin, hchildren.trim_render]
            rfl
        | succ levels =>
            have hskip : isMapInside limit (depth, entry) = false := by
              simp [isMapInside, ← hlevels]
            -- the block has no blanks to lose, and its maps lie one deeper
            have hread : parseWithin limit (levels + 1) (Entry.renderAllChars entry.children) = (do
                checkDepth limit (Schema.nodesFrom (depth + 1) entry.children)
                .ok entry.children) := by
              have hhead := hchildren.spells_render.head?_trim_ne_brace hchildren
              rw [parseWithin_succ_of_head hhead]
              exact ihChildren hchildren (by omega) _
            rw [checkDepth_cons_of_not hskip, hread]
            simp only [bind_assoc, ok_bind, Entry.eta]
      · have hskip : isMapInside limit (depth, entry) = false := by simp [isMapInside, hm]
        have hc := he.children hm
        rw [if_neg hm, if_neg hm, checkDepth_cons_of_not hskip, hc, Schema.nodesFrom_nil,
          checkDepth_nil, ← hc]
        simp only [bind_assoc, ok_bind, Entry.eta]

/-- Reading a canonical declaration gives the schema back, unless a map lies too deep. -/
theorem parse_render {limit : Nat} {schema : Schema} (hwf : schema.WellFormed) :
    parse limit schema.render = match schema.firstMapInside limit with
      | none => .ok schema
      | some entry => .error (.tooDeep limit (Schema.render entry.children)) := by
  have hhead := hwf.spells_render.head?_trim_ne_brace hwf
  rw [parse, Schema.render, String.toList_ofList, parseWithin_succ_of_head hhead,
    readOutline_render hwf (Nat.zero_add limit), checkDepth, Schema.firstMapInside, Schema.nodes]
  cases (schema.nodesFrom 0).find? (isMapInside limit) <;> rfl

/-! ### Which schemas come back -/

/-- Exactly the well-formed schemas come back that are no higher than the limit. Of one that is
higher, the first map that has no level left for its block is reported. -/
theorem parse_render_eq_ok_iff (limit : Nat) (schema : Schema) :
    (parse limit schema.render = .ok schema ↔ schema.WellFormed ∧ schema.mapHeight ≤ limit) ∧
    (schema.WellFormed → limit < schema.mapHeight →
      ∃ entry, schema.firstMapInside limit = some entry ∧
        parse limit schema.render = .error (.tooDeep limit (Schema.render entry.children))) := by
  refine ⟨⟨?_, ?_⟩, ?_⟩
  · intro h
    have hwf := wellFormed_of_parse h
    refine ⟨hwf, Schema.mapHeight_le_iff.mpr ?_⟩
    rw [parse_render hwf] at h
    cases hfirst : schema.firstMapInside limit with
    | none => rfl
    | some entry =>
        rw [hfirst] at h
        cases h
  · rintro ⟨hwf, hheight⟩
    rw [parse_render hwf, Schema.mapHeight_le_iff.mp hheight]
  · intro hwf hheight
    cases hfirst : schema.firstMapInside limit with
    | none => exact absurd (Schema.mapHeight_le_iff.mpr hfirst) (Nat.not_le.mpr hheight)
    | some entry => exact ⟨entry, rfl, by rw [parse_render hwf, hfirst]⟩

/-- Two maps, one in the other, do not fit under a limit of one. -/
theorem parse_render_map_in_map :
    let schema : Schema :=
      [Entry.field "k" .date, Entry.map "a" [Entry.map "b" [Entry.field "x" .long]]]
    parse 2 schema.render = .ok schema ∧ parse 1 schema.render = .error (.tooDeep 1 "x long") := by
  intro schema
  have hwf : schema.WellFormed := by decide
  refine ⟨(parse_render_eq_ok_iff 2 schema).1.mpr ⟨hwf, by decide⟩, ?_⟩
  obtain ⟨entry, hfirst, hparse⟩ := (parse_render_eq_ok_iff 1 schema).2 hwf (by decide)
  obtain rfl : Entry.map "b" [Entry.field "x" .long] = entry := Option.some.inj hfirst
  exact hparse

/-! ### Reading, writing and reading again -/

/-- In a schema that was read, a map in `limit` others has no children: there was no block for
them. -/
theorem children_eq_nil_of_parse {limit : Nat} {text : String} {schema : Schema} {entry : Entry}
    (h : parse limit text = .ok schema) (hentry : schema.firstMapInside limit = some entry) :
    entry.children = [] := by
  obtain ⟨hmem, hmap⟩ := Schema.mem_nodes_of_firstMapInside hentry
  cases hchildren : entry.children with
  | nil => rfl
  | cons child children =>
      have hchild : (limit + 1, child) ∈ schema.nodes := by
        apply Schema.nodesFrom_children_subset hmem hmap
        rw [hchildren, Schema.nodesFrom_cons, Entry.nodesFrom_eq]
        exact List.mem_cons_self
      have hle : limit + 1 ≤ limit := (forall_nodes_of_parse h _ hchild).2
      omega

/-- The canonical declaration of a schema that was read is read as the same schema if the schema is
no higher than the limit. It may be one map higher, because a map without children needs no block to
be read, but gets one when it is written. -/
theorem parse_render_of_parse {limit : Nat} {text : String} {schema : Schema}
    (h : parse limit text = .ok schema) :
    parse limit schema.render =
      if schema.mapHeight ≤ limit then .ok schema else .error (.tooDeep limit "") := by
  rw [parse_render (wellFormed_of_parse h)]
  cases hfirst : schema.firstMapInside limit with
  | none => rw [if_pos (Schema.mapHeight_le_iff.mpr hfirst)]
  | some entry =>
      have hhigh : ¬schema.mapHeight ≤ limit := by simp [Schema.mapHeight_le_iff, hfirst]
      rw [if_neg hhigh]
      dsimp only
      rw [children_eq_nil_of_parse h hfirst, Schema.render, Entry.renderAllChars_nil]

theorem parse_render_of_parse_block :
    let schema : Schema := [Entry.map "a" [(Entry.field "b" .long).require]]
    parse 1 "a{b *l*}" = .ok schema ∧ parse 1 schema.render = .ok schema := by
  intro schema
  have h : parse 1 "a{b *l*}" = .ok schema := by decide +kernel
  exact ⟨h, parse_render_of_parse h⟩

/-- Not every schema that was read is read again from its canonical declaration. -/
theorem not_forall_parse_render_eq : ¬∀ (limit : Nat) (text : String) (schema : Schema),
    parse limit text = .ok schema → parse limit schema.render = .ok schema := by
  intro h
  have hread : parse 0 "m m" = .ok [Entry.map "m" []] := by decide +kernel
  have hagain : parse 0 (Schema.render [Entry.map "m" []]) = .error (.tooDeep 0 "") := by
    decide +kernel
  rw [h 0 "m m" _ hread] at hagain
  cases hagain

end RecordSchema.Declaration
