import RecordSchema.Proofs.Json.Skip
import RecordSchema.Proofs.Json.Values

/-!
# All the ways to give a schema in JSON

A schema can be given in JSON in many ways. An entry is an object with its members in any order and
with others in between, or the list of its values; a member that is left out has its default. Texts
and types have forms of their own, and blanks may stand between all parts. `Presents` gathers all
this, and `decode_of_presents` says that none of it matters to what is read.

The forms are built up like the readers, from the values of an entry to entries and schemas, and by
recursion over the number of brackets that may still be opened. What an entry has been given so far
is told by its members alone (`Draft.giving`), so that the order in which they come does not show.
-/

namespace RecordSchema.Json

/-! ### What may be left out -/

/-- Is this what the member of an entry is taken to be if it is left out? -/
def Member.IsDefault (entry : Entry) : Member → Prop
  | .key | .valtype => False
  | .required => entry.required = false
  | .elemtype => entry.element = none
  | .schema => entry.children = []

/-- The members of an entry that are among the given ones, and nothing for the others. -/
def Draft.giving (entry : Entry) (given : List Member) : Draft where
  key := if .key ∈ given then some entry.key else none
  type := if .valtype ∈ given then some entry.type else none
  required := if .required ∈ given then some entry.required else none
  element := if .elemtype ∈ given then some entry.element else none
  children := if .schema ∈ given then some entry.children else none

section Drafts

variable {entry : Entry} {given : List Member}

theorem Draft.giving_nil : Draft.giving entry [] = {} := by simp [giving]

/-- In which order members are given does not show. -/
theorem Draft.giving_congr {other : List Member} (h : ∀ member, member ∈ given ↔ member ∈ other) :
    Draft.giving entry given = Draft.giving entry other := by
  simp only [giving, h]

theorem Draft.has_giving (member : Member) :
    (Draft.giving entry given).has member = decide (member ∈ given) := by
  cases member <;> simp only [has, giving] <;> split <;> simp [*]

/-- An entry is known if all its members are given but those that have their default. -/
theorem Draft.toEntry_giving (h : ∀ member, member ∉ given → member.IsDefault entry) :
    (Draft.giving entry given).toEntry = .ok entry := by
  have hkey : .key ∈ given := Decidable.byContradiction (h .key)
  have htype : .valtype ∈ given := Decidable.byContradiction (h .valtype)
  have hrequired : (Draft.giving entry given).required.getD false = entry.required := by
    by_cases hmem : .required ∈ given
    · simp [giving, hmem]
    · simpa [giving, hmem] using (h .required hmem).symm
  have helement : (Draft.giving entry given).element.getD none = entry.element := by
    by_cases hmem : .elemtype ∈ given
    · simp [giving, hmem]
    · simpa [giving, hmem] using (h .elemtype hmem).symm
  have hchildren : (Draft.giving entry given).children.getD [] = entry.children := by
    by_cases hmem : .schema ∈ given
    · simp [giving, hmem]
    · simpa [giving, hmem] using (h .schema hmem).symm
  have hgiven : (Draft.giving entry given).key = some entry.key ∧
      (Draft.giving entry given).type = some entry.type := by
    simp [giving, hkey, htype]
  rw [toEntry, hgiven.1, hgiven.2, hrequired, helement, hchildren]
  cases entry
  rfl

theorem Draft.ofList_giving (h : ∀ member, member ∉ given → member.IsDefault entry) :
    (Draft.giving entry given).ofList = .ok entry := by
  have hkey : .key ∈ given := Decidable.byContradiction (h .key)
  have htype : .valtype ∈ given := Decidable.byContradiction (h .valtype)
  rw [← toEntry_giving h, ofList]
  simp [giving, hkey, htype]

end Drafts

/-! ### Forms of entries and schemas -/

/-- The value of a member of an entry, its children by `nested`. -/
def ValueForm (levels : Nat) (nested : Schema → List Char → Prop) (entry : Entry) :
    Member → List Char → Prop
  | .key, cs => QuotedForm entry.key cs
  | .valtype, cs => TypeForm levels entry.type cs
  | .required, cs => cs = truthWord entry.required
  | .elemtype, cs => ElementForm levels entry.element cs
  | .schema, cs => nested entry.children cs

/-- The value under a name in an entry. A name that entries do not have may have any value. -/
def NamedForm (levels : Nat) (nested : Schema → List Char → Prop) (entry : Entry) (name : String)
    (cs : List Char) : Prop :=
  match Member.ofName? name with
  | some member => ValueForm levels nested entry member cs
  | none => IsJson cs

/-- An entry in either form, its children by `nested`. -/
inductive EntryOver (levels : Nat) (nested : Schema → List Char → Prop) :
    Entry → List Char → Prop
  /-- An object that has no member of the entry twice, and all that do not have their default. -/
  | object {entry : Entry} {names : List String} {cs : List Char}
      (h : ObjectForm NameForm (NamedForm levels nested entry) true names cs)
      (honce : (names.filterMap Member.ofName?).Nodup)
      (hdefault : ∀ member, member ∉ names.filterMap Member.ofName? → member.IsDefault entry) :
      EntryOver levels nested entry ('{' :: cs)
  /-- The list of the values up to some member, all later ones having their default. -/
  | list {entry : Entry} {given : List Member} {cs : List Char}
      (h : ListForm (ValueForm levels nested entry) true given cs) (hgiven : given <+: Member.all)
      (hdefault : ∀ member, member ∉ given → member.IsDefault entry) :
      EntryOver levels nested entry ('[' :: cs)

mutual

/-- A list of entries with so many levels of brackets left, its own included. The brackets of values
that are passed over do not count. -/
def SchemaForm : (levels : Nat) → Schema → List Char → Prop
  | 0, _, _ => False
  | levels + 1, schema, cs =>
      ∃ inside, cs = '[' :: inside ∧ ListForm (EntryForm levels) true schema inside

/-- An entry with so many levels of brackets left, its own included. -/
def EntryForm : (levels : Nat) → Entry → List Char → Prop
  | 0, _, _ => False
  | levels + 1, entry, cs => EntryOver levels (SchemaForm levels) entry cs

end

/-- The text gives the schema in JSON, with brackets at most `levels` deep. -/
def Presents (levels : Nat) (schema : Schema) (text : String) : Prop :=
  ∃ before cs after, text.toList = before ++ (cs ++ after) ∧ JsonBlanks before ∧
    JsonBlanks after ∧ SchemaForm levels schema cs

/-! ### Reading the values of an entry -/

section Entries

variable {steps levels : Nat} {nested : Schema → List Char → Prop} {readNested : Reader Schema}
  {entry : Entry} {blanks cs rest : List Char}

theorem ValueForm.opens (hnested : ReadBy steps readNested nested) {member : Member}
    (h : ValueForm levels nested entry member cs) : Opens cs := by
  cases member with
  | key => exact QuotedForm.opens h
  | valtype => exact TypeForm.opens h
  | required =>
      obtain rfl : cs = truthWord entry.required := h
      exact opens_truthWord entry.required
  | elemtype => exact ElementForm.opens h
  | schema => exact hnested.opens h

/-- A value adds its member to what is given. -/
theorem ValueForm.readValue (hnested : ReadBy steps readNested nested) {member : Member}
    (h : ValueForm levels nested entry member cs) (hblanks : JsonBlanks blanks)
    (hrest : Delimited rest) (hsteps : (blanks ++ (cs ++ rest)).length < steps)
    (given : List Member) :
    (Draft.giving entry given).readValue steps levels readNested member (blanks ++ (cs ++ rest)) =
      .ok (Draft.giving entry (member :: given), rest) := by
  cases member with
  | key =>
      rw [Draft.readValue_key h hblanks hsteps]
      simp [Draft.giving]
  | valtype =>
      rw [Draft.readValue_valtype h hblanks hsteps]
      simp [Draft.giving]
  | required =>
      obtain rfl : cs = truthWord entry.required := h
      rw [Draft.readValue_required hblanks]
      simp [Draft.giving]
  | elemtype =>
      rw [Draft.readValue_elemtype h hblanks hsteps]
      simp [Draft.giving]
  | schema =>
      rw [Draft.readValue, hnested.read hblanks h hrest hsteps]
      simp [Draft.giving]

/-! ### Entries as objects -/

/-- A member is read from inside the quotes of its name, if it was not there before. -/
theorem readMember_of_memberForm (hnested : ReadBy steps readNested nested) {name : String}
    {given : List Member} (hnew : ∀ member ∈ Member.ofName? name, member ∉ given)
    (h : MemberForm NameForm (NamedForm levels nested entry) name cs) (hrest : Delimited rest)
    (hsteps : (cs ++ rest).length < steps) :
    (Draft.giving entry given).readMember steps levels readNested (cs ++ rest) =
      .ok (Draft.giving entry ((Member.ofName? name).toList ++ given), rest) := by
  obtain @⟨text, beforeColon, afterColon, value, hname, hbefore, hafter, hvalue⟩ := h
  simp only [List.append_assoc, List.cons_append, List.length_append, List.length_cons] at hsteps ⊢
  have hshort : (afterColon ++ (value ++ rest)).length < steps := by
    simp only [List.length_append]
    omega
  rw [Draft.readMember, hname.readText (by omega), ok_bind]
  unfold NamedForm at hvalue
  cases hmember : Member.ofName? name with
  | none =>
      -- the value under an unknown name is passed over and adds nothing
      rw [hmember] at hvalue
      have hskip := @ReadBy.read Unit steps _ _ readBy_skipValue () _ _ _ hafter hvalue hrest hshort
      simp [hmember, readColon_append hbefore, hskip]
  | some member =>
      rw [hmember] at hvalue
      have hhas : (Draft.giving entry given).has member = false := by
        rw [Draft.has_giving, decide_eq_false (hnew member hmember)]
      have hread := ValueForm.readValue hnested hvalue hafter hrest hshort given
      simp [hmember, hhas, readColon_append hbefore, hread]

/-- A name at which its member is known already would be the second of this member. -/
theorem not_mem_earlier_of_nodup {earlier later : List String} {name : String}
    (h : ((later.reverseAux (name :: earlier)).filterMap Member.ofName?).Nodup) :
    ∀ member ∈ Member.ofName? name, member ∉ earlier.filterMap Member.ofName? := by
  intro member hmember
  rw [List.reverseAux_eq, List.filterMap_append, List.filterMap_cons_some hmember,
    List.nodup_append] at h
  exact (List.nodup_cons.mp h.2.1).1

/-- The members of an object are read in the order in which they come, and which of them were met is
all that shows. -/
theorem readMembers_of_objectForm (hnested : ReadBy steps readNested nested) {names : List String}
    (h : ObjectForm NameForm (NamedForm levels nested entry) true names cs)
    (honce : (names.filterMap Member.ofName?).Nodup) (hsteps : (cs ++ rest).length < steps) :
    readMembers (Draft.readMember steps levels readNested) steps true {} (cs ++ rest) =
      .ok (Draft.giving entry (names.filterMap Member.ofName?), rest) := by
  -- names are gathered with the last one first, so that in the end they stand the other way round
  have hperm : ((names.reverseAux []).filterMap Member.ofName?).Perm
      (names.filterMap Member.ofName?) := by
    rw [List.reverseAux_eq, List.append_nil]
    exact (List.reverse_perm names).filterMap _
  have hread : ∀ {earlier later : List String} {name : String} {cs rest : List Char},
      later.reverseAux (name :: earlier) = names.reverseAux [] →
      MemberForm NameForm (NamedForm levels nested entry) name cs → Delimited rest →
      (cs ++ rest).length < steps →
      (Draft.giving entry (earlier.filterMap Member.ofName?)).readMember steps levels readNested
          (cs ++ rest) =
        .ok (Draft.giving entry ((name :: earlier).filterMap Member.ofName?), rest) := by
    intro earlier later name cs rest hall hmember hrest hsteps
    have hnew := not_mem_earlier_of_nodup (by rw [hall]; exact hperm.nodup_iff.mpr honce)
    rw [readMember_of_memberForm hnested hnew hmember hrest hsteps]
    cases hname : Member.ofName? name with
    | none => rw [List.filterMap_cons_none hname, Option.toList_none, List.nil_append]
    | some member =>
        rw [List.filterMap_cons_some hname, Option.toList_some, List.singleton_append]
  have hmembers := @ObjectForm.membersGive String Draft NameForm _ steps
    (Draft.readMember steps levels readNested)
    (fun names => Draft.giving entry (names.filterMap Member.ofName?)) _ hread
    true names [] cs h rfl rest hsteps steps hsteps
  rw [List.filterMap_nil, Draft.giving_nil] at hmembers
  rw [hmembers, Draft.giving_congr fun member => hperm.mem_iff]

/-! ### Entries as lists -/

/-- The values of a list are read up to its end, whatever members would come after. -/
theorem readValues_of_listForm (hnested : ReadBy steps readNested nested) {first : Bool}
    {members left : List Member} (h : ListForm (ValueForm levels nested entry) first members cs)
    (hsteps : (cs ++ rest).length < steps) (given : List Member) :
    readValues steps levels readNested (members ++ left) first (Draft.giving entry given)
        (cs ++ rest) =
      .ok (Draft.giving entry (members.reverseAux given), rest) := by
  induction h generalizing given with
  | @close first blanks h =>
      rw [List.append_assoc, List.nil_append]
      -- the reader knows when no member can follow, and asks for the bracket only then
      cases left with
      | nil =>
          have hclose : closeEntryList (blanks ++ ']' :: rest) = .ok rest := by
            rw [closeEntryList, h.skip rfl]
            rfl
          rw [readValues]
          simp [hclose]
      | cons member left =>
          have hclose : listStep first (blanks ++ ']' :: rest) = .ok (.close rest) :=
            listStep_close h
          rw [readValues]
          simp [hclose]
  | @item first gap cs more member members hgap hvalue hmore ih =>
      obtain ⟨c, inside, rfl, hc, hopen⟩ := hvalue.opens hnested
      simp only [List.append_assoc, List.length_append] at hsteps ⊢
      have hread := ValueForm.readValue hnested hvalue jsonBlanks_nil (hmore.delimited rest)
        (by simp only [List.nil_append, List.length_append]; omega) given
      have hrest := ih (by simp only [List.length_append]; omega) (member :: given)
      rw [List.nil_append] at hread
      rw [List.cons_append] at hread ⊢
      rw [List.cons_append, readValues, listStep_item hgap hc hopen, ok_bind]
      simp only [hread, ok_bind]
      exact hrest

theorem EntryOver.opens (h : EntryOver levels nested entry cs) : Opens cs := by
  cases h with
  | object h => exact ⟨'{', _, rfl, by decide, by decide⟩
  | list h => exact ⟨'[', _, rfl, by decide, by decide⟩

/-- In either form an entry takes one level of brackets. -/
theorem EntryOver.readEntry (hnested : ReadBy steps (readSchema steps levels) nested)
    (h : EntryOver levels nested entry cs) (hblanks : JsonBlanks blanks)
    (hsteps : (blanks ++ (cs ++ rest)).length < steps) :
    readEntry steps (levels + 1) (blanks ++ (cs ++ rest)) = .ok (entry, rest) := by
  cases h with
  | @object names cs h honce hdefault =>
      have hinside : (cs ++ rest).length < steps := by
        simp at hsteps ⊢
        omega
      have hmembers := readMembers_of_objectForm hnested h honce hinside
      rw [List.cons_append, Json.readEntry, hblanks.skip rfl]
      show readEntryObject steps levels (readSchema steps levels) (cs ++ rest) = _
      rw [readEntryObject, hmembers, ok_bind]
      dsimp only
      rw [Draft.toEntry_giving hdefault, ok_bind]
  | @list given cs h hgiven hdefault =>
      have hinside : (cs ++ rest).length < steps := by
        simp at hsteps ⊢
        omega
      obtain ⟨left, hleft⟩ := hgiven
      have hvalues := @readValues_of_listForm _ _ _ _ _ _ _ hnested _ given left h hinside []
      have hsame : Draft.giving entry (given.reverseAux []) = Draft.giving entry given :=
        Draft.giving_congr fun member => by simp
      rw [hleft, Draft.giving_nil, hsame] at hvalues
      rw [List.cons_append, Json.readEntry, hblanks.skip rfl]
      show readEntryList steps levels (readSchema steps levels) (cs ++ rest) = _
      rw [readEntryList, hvalues, ok_bind]
      dsimp only
      rw [Draft.ofList_giving hdefault, ok_bind]

end Entries

/-! ### Reading schemas -/

/-- Schemas and entries are read in whatever form, by induction over the levels of brackets: a list
of entries takes one and each entry in it the next. -/
theorem readBy_readSchema_readEntry (steps levels : Nat) :
    ReadBy steps (readSchema steps levels) (SchemaForm levels) ∧
      ReadBy steps (readEntry steps levels) (EntryForm levels) := by
  induction levels with
  | zero =>
      constructor
      · exact ⟨fun h => h.elim, fun _ h => h.elim⟩
      · exact ⟨fun h => h.elim, fun _ h => h.elim⟩
  | succ levels ih =>
      obtain ⟨hschema, hentry⟩ := ih
      constructor
      · constructor
        · rintro schema _ ⟨inside, rfl, -⟩
          exact ⟨'[', inside, rfl, by decide, by decide⟩
        · rintro schema blanks _ rest hblanks ⟨inside, rfl, hlist⟩ hrest hsteps
          have hinside : (inside ++ rest).length < steps := by
            simp at hsteps ⊢
            omega
          have hread := hlist.elementsGive hentry hinside steps hinside
          rw [List.cons_append, readSchema, hblanks.skip rfl]
          exact hread
      · constructor
        · intro entry cs h
          exact EntryOver.opens h
        · intro entry blanks cs rest hblanks h hrest hsteps
          exact EntryOver.readEntry hschema h hblanks hsteps

/-- However a schema is given in JSON, with brackets at most 127 deep, it is what is read. -/
theorem decode_of_presents {schema : Schema} {text : String} (h : Presents 127 schema text) :
    decode text = .ok schema := by
  obtain ⟨before, cs, after, htext, hbefore, hafter, hform⟩ := h
  have hrest : Delimited after := by
    have hnil : Delimited [] := by simp [Delimited]
    simpa using hafter.delimited hnil
  have hread : readSchema (text.toList.length + 1) 127 text.toList = .ok (schema, after) := by
    rw [htext]
    exact (readBy_readSchema_readEntry _ 127).1.read hbefore hform hrest (Nat.lt_succ_self _)
  have hend : skipBlanks after = [] := by
    have hskip := hafter.skip_append []
    rwa [List.append_nil] at hskip
  rw [decode, decodeChars, maxLevels, hread, ok_bind]
  simp [hend]

/-- An entry with its members out of order and one that is passed over, around an entry that is a
list of two values. -/
theorem decode_of_presents_mixed :
    decode (" [\x7b\"x\":[1e5,\x7b\"\\ud800\":null\x7d]," ++
      "\"schema\" : [ [\"k\",\x7b\"map\":null\x7d]]," ++
      "\"valtype\":\"m\\u0061p\",\"key\":\"\\ud83d\\uDE00\"\x7d ]\n") =
      .ok [Entry.map "😀" [Entry.field "k" .map]] := by
  have hnil := jsonBlanks_nil
  have hspace : JsonBlanks [' '] := by simp [JsonBlanks, isJsonBlank]
  have hline : JsonBlanks ['\n'] := by simp [JsonBlanks, isJsonBlank]
  have hname : ∀ name : String, NameForm name _ := fun name => textForm_escaped name.toList
  -- the value that is passed over: a list of a number and an object
  have hdigits : ∀ c : Char, c.isDigit = true → IsDigits [c] :=
    fun c h => ⟨List.cons_ne_nil c [], List.forall_mem_singleton.mpr h⟩
  have hnumber : IsNumeral ['1', 'e', '5'] :=
    @IsNumeral.mk [] ['1'] [] ['e', '5'] (.inl rfl) (hdigits '1' rfl) (by decide) .absent
      (@IsExponent.digits 'e' [] ['5'] (.inl rfl) (.inl rfl) (hdigits '5' rfl))
  have hhalf : IsQuoted ['\\', 'u', 'd', '8', '0', '0'] :=
    .cons (.codePoint (by decide : fourHex? ['d', '8', '0', '0'] = some (0xD800, []))) .nil
  have hobject := @IsJsonOver.object (IsJsonWithin 1) [()] _
    (.member (.first hnil) (.mk hhalf hnil hnil .null) (.close hnil))
  have hunknown : IsJsonWithin 3 _ := @IsJsonOver.list (IsJsonWithin 2) [(), ()] _
    (.item (.first hnil) (.number hnumber) (.item (.comma hnil hnil) hobject (.close hnil)))
  -- the child: a key, and a type as an object
  have hmap : TypeForm 123 .map _ :=
    .object (.member (.first hnil) (.mk (hname "map") hnil hnil rfl) (.close hnil))
  have hchild : EntryForm 124 (Entry.field "k" .map) _ :=
    @EntryOver.list _ _ _ [.key, .valtype] _ (.item (.first hnil) (quotedForm_encodeText "k")
      (.item (.comma hnil hnil) hmap (.close hnil))) ⟨[.required, .elemtype, .schema], rfl⟩
      (by rintro (_ | _ | _ | _ | _) <;> simp [Member.IsDefault, Entry.field])
  have hchildren : SchemaForm 125 [Entry.field "k" .map] _ :=
    ⟨_, rfl, .item (.first hspace) hchild (.close hnil)⟩
  -- the entry: its type and its key are escaped
  have hletter : fourHex? ['0', '0', '6', '1'] = some ('a'.toNat, []) := by decide
  have htype : TextForm ['m', 'a', 'p'] _ :=
    .cons (.plain (by decide) (by decide) (by decide)) (.cons (.codePoint hletter)
      (.cons (.plain (by decide) (by decide) (by decide)) .nil))
  have hhigh : fourHex? ['d', '8', '3', 'd'] = some (0xD83D, []) := by decide
  have hlow : fourHex? ['D', 'E', '0', '0'] = some (0xDE00, []) := by decide
  have hkey : TextForm ['😀'] _ := .cons (.pair (by decide) hhigh hlow) .nil
  have hgiven : ["x", "schema", "valtype", "key"].filterMap Member.ofName? =
    [.schema, .valtype, .key] := by decide
  have hentry : EntryForm 126 (Entry.map "😀" [Entry.field "k" .map]) _ :=
    .object (.member (.first hnil) (.mk (hname "x") hnil hnil ⟨3, hunknown⟩)
      (.member (.comma hnil hnil) (.mk (hname "schema") hspace hspace hchildren)
        (.member (.comma hnil hnil) (.mk (hname "valtype") hnil hnil (.name (.mk htype)))
          (.member (.comma hnil hnil) (.mk (hname "key") hnil hnil (.mk hkey)) (.close hnil)))))
      (by decide)
      (by rw [hgiven]; rintro (_ | _ | _ | _ | _) <;> simp [Member.IsDefault, Entry.map])
  refine decode_of_presents ⟨[' '], _, ['\n'], ?_, hspace, hline, _, rfl,
    .item (.first hnil) hentry (.close hspace)⟩
  decide +kernel

end RecordSchema.Json
