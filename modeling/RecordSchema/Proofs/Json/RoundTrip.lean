import RecordSchema.Proofs.Json.Values
import RecordSchema.Proofs.Schema.Height

/-!
# Schemas through JSON and back

The writer leaves out what is not there and the reader fills in what is missing; brackets may nest
only so deep. `decode_encode` says what comes of it in any layout: a schema is read back if its
brackets nest within the limit, and else the text is refused as malformed. Each entry opens one
bracket and the list of its children another, so the limit is one on the height of the schema.

The proof follows the reader: after the values of members come the members of an entry
(`MembersReadAs`), and then entries and lists of entries by induction over the schema. The invariant
of the induction is `EntriesReadBack`: it says at once when the entries are read and what happens
when they are not, since a fault in the children is a fault of the whole.
-/

namespace RecordSchema.Json

variable {layout : Layout} {steps levels : Nat} {nested : Reader Schema} {blanks rest : List Char}

/-! ### Names of members -/

/-- A member that was not there yet is known by its name, and its value is read. -/
theorem exists_readMember_eq {draft : Draft} {member : Member} {before value : List Char}
    (hnew : draft.has member = false)
    (hsteps : (before ++ (encodeMember layout member value ++ rest)).length < steps) :
    ∃ cs, encodeMember layout member value ++ rest = '"' :: cs ∧ rest.length ≤ cs.length ∧
      (layout.afterColon ++ (value ++ rest)).length < steps ∧
      draft.readMember steps levels nested cs =
        draft.readValue steps levels nested member (layout.afterColon ++ (value ++ rest)) := by
  have heq : encodeMember layout member value ++ rest =
      '"' :: (member.name.toList.flatMap escapeChar ++
        '"' :: ':' :: (layout.afterColon ++ (value ++ rest))) := by
    simp [encodeMember, encodeText]
  rw [heq, List.length_append, List.length_cons] at hsteps
  refine ⟨_, heq, ?_, ?_, ?_⟩
  · simp
    omega
  · simp at hsteps ⊢
    omega
  · rw [Draft.readMember, readText_escaped (by omega), ok_bind]
    simp only [Member.ofName?_name, hnew, Bool.false_eq_true, if_false]
    rfl

/-! ### Members -/

/-- What the members of an entry are gathered into, from here to its closing bracket. -/
def MembersReadAs (steps levels : Nat) (first : Bool) (draft : Draft) (cs : List Char)
    (result : Except Fault (Draft × List Char)) : Prop :=
  cs.length < steps →
    MembersGive (Draft.readMember steps levels (readSchema steps levels)) first draft cs result

section Members

variable {member : Member} {first : Bool} {draft draft' : Draft} {value : List Char}
  {result : Except Fault (Draft × List Char)}

theorem membersReadAs_close (h : JsonBlanks blanks) :
    MembersReadAs steps levels first draft (blanks ++ '}' :: rest) (.ok (draft, rest)) :=
  fun _ => membersGive_close h

/-- The member in front is read, and then those after it. -/
theorem membersReadAs_member (h : JsonBlanks blanks) (hnew : draft.has member = false)
    (hvalue : (layout.afterColon ++ (value ++ rest)).length < steps →
      draft.readValue steps levels (readSchema steps levels) member
        (layout.afterColon ++ (value ++ rest)) = .ok (draft', rest))
    (hrest : MembersReadAs steps levels false draft' rest result) :
    MembersReadAs steps levels first draft
      (lead first blanks ++ (encodeMember layout member value ++ rest)) result := by
  intro hsteps
  obtain ⟨cs, heq, hlength, hshort, hread⟩ := exists_readMember_eq hnew hsteps
  have hrest := hrest (by simp at hshort; omega)
  rw [hvalue hshort] at hread
  rw [heq]
  exact membersGive_item (h.gap_lead first) hread hlength hrest

/-- The member in front cannot be read. -/
theorem membersReadAs_fault (h : JsonBlanks blanks) (hnew : draft.has member = false)
    {fault : Fault}
    (hvalue : (layout.afterColon ++ (value ++ rest)).length < steps →
      draft.readValue steps levels (readSchema steps levels) member
        (layout.afterColon ++ (value ++ rest)) = .error fault) :
    MembersReadAs steps levels first draft
      (lead first blanks ++ (encodeMember layout member value ++ rest)) (.error fault) := by
  intro hsteps
  obtain ⟨cs, heq, -, hshort, hread⟩ := exists_readMember_eq hnew hsteps
  rw [hvalue hshort] at hread
  rw [heq]
  exact membersGive_fault (h.gap_lead first) hread

end Members

/-! ### Schemas, given their entries -/

/-- A schema on a level. -/
def encodeSchema (layout : Layout) (level : Nat) (schema : Schema) : List Char :=
  bracketed layout level '[' ']' (encodeEntries layout (level + 1) schema)

/-- The entries of a schema are read back, on every level and up to the bracket that closes their
list, as far as there are levels enough. An entry takes a level for itself and one for the list of
its children. -/
def EntriesReadBack (layout : Layout) (steps : Nat) (schema : Schema) : Prop :=
  ∀ (first : Bool) (level levels : Nat) (blanks rest : List Char), JsonBlanks blanks →
    (joined (layout.lineStart level) first (encodeEntries layout level schema) ++
      (blanks ++ ']' :: rest)).length < steps →
    ElementsGive (readEntry steps levels) first
      (joined (layout.lineStart level) first (encodeEntries layout level schema) ++
        (blanks ++ ']' :: rest))
      (if 2 * schema.height ≤ levels + 1 then .ok (schema, rest) else .error .malformed)

/-- The list of the entries takes one level more than they do. -/
theorem EntriesReadBack.readSchema (hlayout : layout.IsBlank) {schema : Schema}
    (hentries : EntriesReadBack layout steps schema) (levels : Nat) (h : JsonBlanks blanks)
    (level : Nat) (rest : List Char)
    (hsteps : (blanks ++ (encodeSchema layout level schema ++ rest)).length < steps) :
    readSchema steps levels (blanks ++ (encodeSchema layout level schema ++ rest)) =
      if 1 ≤ levels ∧ 2 * schema.height ≤ levels then .ok (schema, rest)
        else .error .malformed := by
  obtain ⟨closing, hclosing, heq⟩ := exists_bracketed_eq hlayout level '[' ']'
    (encodeEntries layout (level + 1) schema)
  rw [encodeSchema, heq] at hsteps ⊢
  rw [Json.readSchema, h.skip rfl]
  cases levels with
  | zero => rfl
  | succ levels =>
      have hinside : (joined (layout.lineStart (level + 1)) true
          (encodeEntries layout (level + 1) schema) ++ (closing ++ ']' :: rest)).length <
            steps := by
        simp at hsteps ⊢
        omega
      have hread := hentries true (level + 1) levels closing rest hclosing hinside steps hinside
      simp [hread]

/-! ### Entries, given their children -/

/-- The members that are written for an entry. An element type that is not there is left out, and
so is an empty list of children. -/
def Draft.written (entry : Entry) : Draft where
  key := some entry.key
  type := some entry.type
  required := some entry.required
  element := entry.element.map some
  children := if entry.children.isEmpty then none else some entry.children

/-- What is left out is what a missing member is taken to be. -/
theorem Draft.toEntry_written (entry : Entry) : (Draft.written entry).toEntry = .ok entry := by
  obtain ⟨key, type, required, element, children⟩ := entry
  cases element <;> cases children <;> rfl

/-- The part that is written for an element type, if there is one. -/
def elementParts (layout : Layout) : Option FieldType → List (List Char)
  | none => []
  | some element => [encodeMember layout .elemtype (encodeText element.name)]

/-- The part that is written for children, if there are any. -/
def childrenParts (layout : Layout) (level : Nat) : Schema → List (List Char)
  | [] => []
  | child :: children =>
    [encodeMember layout .schema (encodeSchema layout (level + 1) (child :: children))]

/-- The parts that are written for an entry. -/
def memberParts (layout : Layout) (level : Nat) (entry : Entry) : List (List Char) :=
  encodeMember layout .key (encodeText entry.key) ::
    encodeMember layout .valtype (encodeText entry.type.name) ::
    encodeMember layout .required (if entry.required then "true" else "false").toList ::
    (elementParts layout entry.element ++ childrenParts layout level entry.children)

theorem encodeEntry_eq (layout : Layout) (level : Nat) (entry : Entry) :
    encodeEntry layout level entry =
      bracketed layout level '{' '}' (memberParts layout level entry) := by
  obtain ⟨key, type, required, element, children⟩ := entry
  cases element <;> cases children <;> rw [encodeEntry] <;> rfl

theorem exists_encodeEntry_eq (layout : Layout) (level : Nat) (entry : Entry) :
    ∃ inside, encodeEntry layout level entry = '{' :: inside :=
  ⟨_, by rw [encodeEntry_eq]; rfl⟩

section Entry

variable {draft : Draft} {level : Nat} {result : Except Fault (Draft × List Char)}

theorem membersReadAs_element (hlayout : layout.IsBlank) {element : Option FieldType}
    (hnew : draft.element = none)
    (hrest : MembersReadAs steps levels false { draft with element := element.map some } rest
      result) :
    MembersReadAs steps levels false draft
      (joined (layout.lineStart level) false (elementParts layout element) ++ rest) result := by
  cases element with
  | none =>
      have hsame : { draft with element := none } = draft := by rw [← hnew]
      rwa [Option.map_none, hsame] at hrest
  | some element =>
      simp only [elementParts, joined, List.append_nil, List.append_assoc]
      have hhas : draft.has .elemtype = false := by simp [Draft.has, hnew]
      have hform : ElementForm levels (some element) (encodeText element.name) :=
        .name (quotedForm_encodeText element.name)
      exact membersReadAs_member (hlayout.lineStart level) hhas
        (Draft.readValue_elemtype hform hlayout.afterColon) hrest

theorem EntriesReadBack.membersReadAs_children (hlayout : layout.IsBlank) {children : Schema}
    (hchildren : EntriesReadBack layout steps children) (hnew : draft.children = none)
    (h : JsonBlanks blanks) :
    MembersReadAs steps levels false draft
      (joined (layout.lineStart (level + 1)) false (childrenParts layout level children) ++
        (blanks ++ '}' :: rest))
      (if 2 * children.height ≤ levels then
          .ok ({ draft with children := if children.isEmpty then none else some children }, rest)
        else .error .malformed) := by
  cases children with
  | nil =>
      have hsame : { draft with children := none } = draft := by rw [← hnew]
      rw [Schema.height_nil, if_pos (by omega), List.isEmpty_nil, if_pos rfl, hsame]
      exact membersReadAs_close h
  | cons child children =>
      have hvalue := fun hsteps => hchildren.readSchema hlayout levels hlayout.afterColon
        (level + 1) (blanks ++ '}' :: rest) hsteps
      -- with a child there is an entry below, so the level of the list need not be counted apart
      have hheight : 1 ≤ Schema.height (child :: children) :=
        Nat.zero_lt_of_lt (Schema.height_children_lt List.mem_cons_self)
      have hhas : draft.has .schema = false := by simp [Draft.has, hnew]
      simp only [childrenParts, joined, List.append_nil, List.append_assoc]
      by_cases hfits : 2 * Schema.height (child :: children) ≤ levels
      · rw [if_pos hfits]
        refine membersReadAs_member (hlayout.lineStart _) hhas ?_ (membersReadAs_close h)
        intro hsteps
        rw [Draft.readValue, hvalue hsteps, if_pos ⟨by omega, hfits⟩]
        rfl
      · rw [if_neg hfits]
        refine membersReadAs_fault (hlayout.lineStart _) hhas ?_
        intro hsteps
        rw [Draft.readValue, hvalue hsteps, if_neg (fun hlevels => hfits hlevels.2)]
        rfl

/-- All members of an entry are read back, or its children nest too deep. -/
theorem EntriesReadBack.membersReadAs (hlayout : layout.IsBlank) {entry : Entry}
    (hchildren : EntriesReadBack layout steps entry.children) (h : JsonBlanks blanks) :
    MembersReadAs steps levels true {}
      (joined (layout.lineStart (level + 1)) true (memberParts layout level entry) ++
        (blanks ++ '}' :: rest))
      (if 2 * Schema.height entry.children ≤ levels then .ok (Draft.written entry, rest)
        else .error .malformed) := by
  have hline := hlayout.lineStart (level + 1)
  simp only [memberParts, joined, joined_append, List.append_assoc]
  have hkey := quotedForm_encodeText entry.key
  have htype := quotedForm_encodeText entry.type.name
  exact membersReadAs_member hline rfl (Draft.readValue_key hkey hlayout.afterColon)
    (membersReadAs_member hline rfl (Draft.readValue_valtype (.name htype) hlayout.afterColon)
      (membersReadAs_member hline rfl (fun _ => Draft.readValue_required hlayout.afterColon _)
        (membersReadAs_element hlayout rfl (hchildren.membersReadAs_children hlayout rfl h))))

end Entry

theorem EntriesReadBack.readEntry (hlayout : layout.IsBlank) {entry : Entry} {level : Nat}
    (hchildren : EntriesReadBack layout steps entry.children)
    (hsteps : (encodeEntry layout level entry ++ rest).length < steps) :
    readEntry steps levels (encodeEntry layout level entry ++ rest) =
      if 2 * entry.height ≤ levels + 1 then .ok (entry, rest) else .error .malformed := by
  obtain ⟨closing, hclosing, heq⟩ := exists_bracketed_eq hlayout level '{' '}'
    (memberParts layout level entry)
  rw [encodeEntry_eq, heq] at hsteps ⊢
  have hinside := Nat.lt_of_succ_lt hsteps
  rw [Json.readEntry, skipBlanks_cons rfl, Entry.height_eq]
  cases levels with
  | zero =>
      rw [if_neg (by omega)]
      rfl
  | succ levels =>
      show readEntryObject steps levels _ _ = _
      rw [readEntryObject, hchildren.membersReadAs hlayout hclosing hinside steps hinside]
      by_cases hfits : 2 * Schema.height entry.children ≤ levels
      · rw [if_pos hfits, if_pos (by omega)]
        simp [Draft.toEntry_written]
      · rw [if_neg hfits, if_neg (by omega)]
        rfl

/-! ### Whole schemas -/

/-- The entries of every schema are read back, as far as there are levels enough. -/
theorem entriesReadBack (hlayout : layout.IsBlank) (steps : Nat) (schema : Schema) :
    EntriesReadBack layout steps schema := by
  induction schema using Schema.induct with
  | nil =>
      intro first level levels blanks rest h _
      rw [encodeEntries, Schema.height_nil, if_pos (by omega)]
      exact elementsGive_close h
  | cons entry entries ihChildren ihEntries =>
      intro first level levels blanks rest h hsteps
      rw [encodeEntries, joined, List.append_assoc, List.append_assoc] at hsteps ⊢
      obtain ⟨inside, hinside⟩ := exists_encodeEntry_eq layout level entry
      have hline := hlayout.lineStart level
      have htail := ihEntries false level levels blanks rest h (by simp at hsteps ⊢; omega)
      generalize joined _ false _ ++ _ = tail at hsteps htail ⊢
      have hentry : readEntry steps levels (encodeEntry layout level entry ++ tail) = _ :=
        ihChildren.readEntry hlayout (by simp at hsteps ⊢; omega)
      rw [hinside, List.cons_append] at hentry ⊢
      rw [Schema.height_cons]
      by_cases hfits : 2 * entry.height ≤ levels + 1
      · rw [if_pos hfits] at hentry
        by_cases hothers : 2 * entries.height ≤ levels + 1
        · rw [if_pos hothers] at htail
          rw [if_pos (by omega)]
          exact elementsGive_item (hline.gap_lead first) rfl (by decide) hentry (by simp) htail
        · rw [if_neg hothers] at htail
          rw [if_neg (by omega)]
          exact elementsGive_item (hline.gap_lead first) rfl (by decide) hentry (by simp) htail
      · rw [if_neg hfits] at hentry
        rw [if_neg (by omega)]
        exact elementsGive_fault (hline.gap_lead first) rfl (by decide) hentry

/-- What is written in any layout is read back, as far as brackets may nest, and refused beyond. -/
theorem decode_encode (hlayout : layout.IsBlank) (schema : Schema) :
    decode (encode layout schema) =
      if 2 * schema.height ≤ maxLevels then .ok schema else .error .malformed := by
  have hread := (entriesReadBack hlayout ((encodeSchema layout 0 schema).length + 1)
    schema).readSchema hlayout maxLevels jsonBlanks_nil 0 [] (by simp)
  rw [List.nil_append, List.append_nil] at hread
  have hchars : (encode layout schema).toList = encodeSchema layout 0 schema := String.toList_ofList
  have hpositive : 1 ≤ maxLevels := by decide
  rw [decode, decodeChars, hchars, hread]
  by_cases hfits : 2 * schema.height ≤ maxLevels
  · rw [if_pos ⟨hpositive, hfits⟩, if_pos hfits]
    rfl
  · rw [if_neg (fun hlevels => hfits hlevels.2), if_neg hfits]
    rfl

/-- The brackets of a schema nest within the limit if each entry lies inside at most 62 others. -/
theorem height_le_maxLevels_iff {schema : Schema} :
    2 * schema.height ≤ maxLevels ↔ schema.InsideAtMost 62 := by
  rw [Schema.insideAtMost_iff, maxLevels]
  omega

theorem decode_encode_of_insideAtMost (hlayout : layout.IsBlank) {schema : Schema}
    (h : schema.InsideAtMost 62) : decode (encode layout schema) = .ok schema := by
  rw [decode_encode hlayout, if_pos (height_le_maxLevels_iff.mpr h)]

/-- A schema is read back from its JSON text, compact or indented, if and only if each of its
entries lies inside at most 62 others. Otherwise the text is refused as malformed. -/
theorem decode_toJson (schema : Schema) {text : String}
    (htext : text = schema.toJson ∨ text = schema.toIndentedJson) :
    (decode text = .ok schema ↔ schema.InsideAtMost 62) ∧
      (¬ schema.InsideAtMost 62 → decode text = .error .malformed) := by
  have hdecode : decode text = if 2 * schema.height ≤ maxLevels then .ok schema
      else .error .malformed := by
    rcases htext with rfl | rfl
    · exact decode_encode Layout.isBlank_compact schema
    · exact decode_encode Layout.isBlank_indented schema
  rw [hdecode]
  by_cases hinside : schema.InsideAtMost 62
  · simp [height_le_maxLevels_iff, hinside]
  · simp [height_le_maxLevels_iff, hinside]

/-- Entries one inside the other, under a key that needs every kind of escape. -/
def tower : (above : Nat) → Schema
  | 0 => [Entry.array "\"\\\x01é" .array]
  | above + 1 => [Entry.map "\"\\\x01é" (tower above)]

theorem height_tower (above : Nat) : (tower above).height = above + 1 := by
  induction above with
  | zero => rfl
  | succ above ih =>
      rw [tower, Schema.height_cons, Entry.height_eq, Schema.height_nil]
      simp [Entry.map, ih]

theorem decode_toJson_tower :
    decode (tower 62).toIndentedJson = .ok (tower 62) ∧
      decode (tower 63).toJson = .error .malformed := by
  have hfits : (tower 62).InsideAtMost 62 := by
    rw [Schema.insideAtMost_iff, height_tower]
  have hdeep : ¬ (tower 63).InsideAtMost 62 := by
    rw [Schema.insideAtMost_iff, height_tower]
    omega
  exact ⟨(decode_toJson (tower 62) (.inr rfl)).1.mpr hfits,
    (decode_toJson (tower 63) (.inl rfl)).2 hdeep⟩

end RecordSchema.Json
