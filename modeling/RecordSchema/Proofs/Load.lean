import RecordSchema.Load
import RecordSchema.Proofs.Declaration.RoundTrip
import RecordSchema.Proofs.Schema.Acceptance

/-!
# Loading an accepted schema

Neither the check nor the writer looks at everything in a loose schema: both pass over the children
of an entry that is not a map and over the element type of one that is not an array. `Schema.strip`
takes these away. The two agree on what is left (`render_strip`, `acceptAll_strip`), an accepted
schema is well formed once it is stripped (`wellFormed_strip`), and so its canonical declaration is
loaded as the stripped schema: `load_render_of_accept`.
-/

namespace RecordSchema

open RecordSchema.Text RecordSchema.Declaration

/-! ### Without leftovers -/

mutual

/-- An entry without an element type unless it is an array, and without children unless it is a map,
at all levels that are reached through maps. -/
def Entry.strip : Entry → Entry
  | ⟨key, type, required, element, children⟩ =>
      ⟨key, type, required, if type = .array then element else none,
        if type = .map then Schema.strip children else []⟩

/-- A schema whose entries are all stripped. -/
def Schema.strip : Schema → Schema
  | [] => []
  | entry :: entries => entry.strip :: Schema.strip entries

end

mutual

/-- The greatest number of maps on a path that goes down from an entry through maps only. -/
def Entry.mapDepth : Entry → Nat
  | ⟨_, type, _, _, children⟩ => if type = .map then 1 + Schema.mapDepth children else 0

/-- The greatest number of maps on a path that goes down a schema through maps only. -/
def Schema.mapDepth : Schema → Nat
  | [] => 0
  | entry :: entries => max entry.mapDepth (Schema.mapDepth entries)

end

theorem Entry.strip_eq (entry : Entry) :
    entry.strip = ⟨entry.key, entry.type, entry.required,
      if entry.type = .array then entry.element else none,
      if entry.type = .map then Schema.strip entry.children else []⟩ := by
  cases entry
  rw [Entry.strip]

@[simp] theorem Schema.strip_nil : Schema.strip [] = [] := by rw [Schema.strip]

@[simp] theorem Schema.strip_cons (entry : Entry) (entries : Schema) :
    Schema.strip (entry :: entries) = entry.strip :: Schema.strip entries := by
  rw [Schema.strip]

theorem Entry.mapDepth_eq (entry : Entry) :
    entry.mapDepth = if entry.type = .map then 1 + Schema.mapDepth entry.children else 0 := by
  cases entry
  rw [Entry.mapDepth]

/-- Once a schema is stripped, all its maps lie in maps. -/
theorem mapHeight_strip (schema : Schema) : schema.strip.mapHeight = schema.mapDepth := by
  induction schema using Schema.induct with
  | nil => rw [Schema.strip_nil, Schema.mapHeight_nil, Schema.mapDepth]
  | cons entry entries ihChildren ihEntries =>
      rw [Schema.strip_cons, Schema.mapHeight_cons, Schema.mapDepth, ihEntries, Entry.mapHeight_eq,
        Entry.mapDepth_eq, Entry.strip_eq]
      by_cases hmap : entry.type = .map
      · simp [hmap, ihChildren]
      · simp [hmap]

/-! ### What is written and checked is not stripped -/

theorem Entry.renderChars_strip {entry : Entry}
    (hchildren : renderAllChars (Schema.strip entry.children) = renderAllChars entry.children) :
    entry.strip.renderChars = entry.renderChars := by
  rw [renderChars_eq, renderChars_eq, strip_eq]
  cases htype : entry.type <;> simp [headChars, htype, hchildren]

theorem renderAllChars_strip (schema : Schema) :
    Entry.renderAllChars schema.strip = Entry.renderAllChars schema := by
  induction schema using Schema.induct with
  | nil => rw [Schema.strip_nil]
  | cons entry entries ihChildren ihEntries =>
      have hentry := Entry.renderChars_strip ihChildren
      cases entries with
      | nil => simp [Entry.renderAllChars_singleton, hentry]
      | cons next entries =>
          rw [Schema.strip_cons] at ihEntries
          simp only [Schema.strip_cons, Entry.renderAllChars_cons_cons, ihEntries, hentry]

theorem render_strip (schema : Schema) : schema.strip.render = schema.render := by
  rw [Schema.render, renderAllChars_strip, ← Schema.render]

theorem Entry.check_strip (entry : Entry) : entry.strip.check = entry.check := by
  unfold check
  rw [strip_eq]
  by_cases harray : entry.type = .array <;> simp [harray]

theorem acceptAll_strip (schema : Schema) :
    Entry.acceptAll schema.strip = Entry.acceptAll schema := by
  induction schema using Schema.induct with
  | nil => rw [Schema.strip_nil]
  | cons entry entries ihChildren ihEntries =>
      rw [Schema.strip_cons, Entry.acceptAll, Entry.acceptAll, ihEntries, Entry.accept_eq,
        Entry.accept_eq, Entry.check_strip, Entry.strip_eq]
      by_cases hmap : entry.type = .map <;> simp [hmap, ihChildren]

theorem accept_strip (schema : Schema) : schema.strip.accept = schema.accept := by
  cases schema with
  | nil => rw [Schema.strip_nil]
  | cons entry entries => exact acceptAll_strip (entry :: entries)

/-! ### Accepted schemas are well formed without leftovers -/

theorem IsIdentifier.isKeyWord {key : List Char} (h : IsIdentifier key) : IsKeyWord key := by
  -- identifiers are ASCII, so a look at 128 characters is enough
  have table : ∀ n : Fin 128, isKeyChar (Char.ofNat n) = true →
      isBlank (Char.ofNat n) = false ∧ Char.ofNat n ≠ ',' ∧ Char.ofNat n ≠ '{' ∧
        Char.ofNat n ≠ '}' := by
    decide +kernel
  have hchar : ∀ c ∈ key, isBlank c = false ∧ c ≠ ',' ∧ c ≠ '{' ∧ c ≠ '}' := by
    intro c hc
    have hlt : c.toNat < 128 := by
      rcases h.chars c hc with (⟨-, hle⟩ | ⟨-, hle⟩ | rfl) | ⟨-, hle⟩
      · exact Nat.lt_of_le_of_lt hle (by decide)
      · exact Nat.lt_of_le_of_lt hle (by decide)
      · decide
      · exact Nat.lt_of_le_of_lt hle (by decide)
    have := table ⟨c.toNat, hlt⟩ (by simpa using isKeyChar_iff.mpr (h.chars c hc))
    simpa using this
  refine ⟨?_, fun c hc => (hchar c hc).1, fun c hc => (hchar c hc).2⟩
  rintro rfl
  exact absurd h.length_pos (by decide)

theorem Entry.wellFormed_strip {entry : Entry} (h : entry.check = .ok ()) :
    entry.strip.WellFormed := by
  have hnone := check_eq_ok_iff.mp h
  have hkey : IsIdentifier entry.key.toList := by
    by_contra hkey
    exact hnone _ (.key hkey)
  rw [strip_eq]
  refine ⟨hkey.isKeyWord, ?_, fun hmap => if_neg hmap⟩
  dsimp only
  split
  next harray =>
    cases helement : entry.element with
    | none => exact absurd (.element hkey harray (by simp [helement])) (hnone _)
    | some type =>
        refine ⟨type, rfl, ?_⟩
        rintro rfl
        exact hnone _ (.element hkey harray (by simp [helement]))
  · rfl

theorem wellFormed_strip {schema : Schema} (h : Entry.acceptAll schema = .ok ()) :
    schema.strip.WellFormed := by
  induction schema using Schema.induct with
  | nil => simp
  | cons entry entries ihChildren ihEntries =>
      rw [Entry.acceptAll, Entry.accept_eq] at h
      obtain ⟨_, hentry, hentries⟩ := bind_eq_ok h
      obtain ⟨_, hcheck, hchildren⟩ := bind_eq_ok hentry
      rw [Schema.strip_cons, Schema.wellFormed_cons]
      refine ⟨Entry.wellFormed_strip hcheck, ?_, ihEntries hentries⟩
      rw [Entry.strip_eq]
      dsimp only
      split at hchildren
      next hmap =>
        rw [if_pos hmap]
        exact ihChildren hchildren
      next hmap =>
        -- these children were never checked, but they are stripped
        rw [if_neg hmap]
        exact Schema.wellFormed_nil

/-! ### Loading -/

/-- With any limit, an accepted schema is loaded from its canonical declaration as far as maps may
lie in maps. -/
theorem loadWithin_render {limit : Nat} {schema : Schema} (h : schema.accept = .ok ()) :
    loadWithin limit schema.render = match schema.strip.firstMapInside limit with
      | none => .ok schema.strip
      | some entry => .error (.unreadable (.tooDeep limit (Schema.render entry.children))) := by
  have hwf : schema.strip.WellFormed := by
    cases schema with
    | nil => cases h
    | cons entry entries => exact wellFormed_strip h
  rw [loadWithin, ← render_strip, parse_render hwf]
  cases schema.strip.firstMapInside limit with
  | none =>
      show (schema.strip.accept.mapError LoadFault.refused >>= fun _ => Except.ok schema.strip) = _
      rw [accept_strip, h]
      rfl
  | some entry => rfl

/-- The canonical declaration of an accepted schema is loaded as the schema without leftovers,
unless maps lie too deep in maps. The leftovers make no difference to it. -/
theorem load_render_of_accept {schema : Schema} (h : schema.accept = .ok ()) :
    (schema.mapDepth ≤ defaultLimit → load schema.render = .ok schema.strip) ∧
    (defaultLimit < schema.mapDepth →
      ∃ text, load schema.render = .error (.unreadable (.tooDeep defaultLimit text))) ∧
    schema.strip.render = schema.render := by
  rw [load, loadWithin_render h, ← mapHeight_strip]
  refine ⟨?_, ?_, render_strip schema⟩
  · intro hfits
    rw [Schema.mapHeight_le_iff.mp hfits]
  · intro hdeep
    cases hfirst : schema.strip.firstMapInside defaultLimit with
    | none => exact absurd (Schema.mapHeight_le_iff.mpr hfirst) (Nat.not_le.mpr hdeep)
    | some entry => exact ⟨_, rfl⟩

/-- An element type of a map and children of a date are lost. Six maps in one another are one too
many. -/
theorem load_render_of_accept_leftovers :
    let schema : Schema := [{ Entry.map "a" [{ Entry.field "b" .date with
      children := [Entry.field "no key" .long] }] with element := some .array }]
    let stack : Schema := (List.range 6).foldl (fun inside _ => [Entry.map "m" inside]) []
    schema.accept = .ok () ∧
      load schema.render = .ok [Entry.map "a" [Entry.field "b" .date]] ∧
      stack.accept = .ok () ∧
      ∃ text, load stack.render = .error (.unreadable (.tooDeep defaultLimit text)) := by
  intro schema stack
  have hschema : schema.accept = .ok () := by decide
  have hstack : stack.accept = .ok () := by decide
  exact ⟨hschema, (load_render_of_accept hschema).1 (by decide), hstack,
    (load_render_of_accept hstack).2.1 (by decide)⟩

end RecordSchema
