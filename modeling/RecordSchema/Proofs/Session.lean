import RecordSchema.Session
import RecordSchema.Proofs.Declaration.RoundTrip

/-!
# Reading a session again

A session may take any steps and change its limit between them. As long as it gives no key and no
type that a declaration cannot express (`Step.IsExpressible`), every step keeps its entries well
formed (`step_wellFormed`), and so does every run of steps. Writing the entries and reading them
again then gives the same entries, or nothing: `reparse_after`.
-/

namespace RecordSchema

open RecordSchema.Text RecordSchema.Declaration

/-! ### Well-formed lists of entries -/

section Lists

variable {front back schema : Schema}

theorem Schema.wellFormed_append :
    Schema.WellFormed (front ++ back) ↔ front.WellFormed ∧ back.WellFormed := by
  rw [wellFormed_iff_forall_mem, List.forall_mem_append, ← wellFormed_iff_forall_mem,
    ← wellFormed_iff_forall_mem]

theorem Schema.WellFormed.of_subset (h : schema.WellFormed) (hsubset : front ⊆ schema) :
    front.WellFormed := by
  rw [Schema.wellFormed_iff_forall_mem] at h ⊢
  exact fun entry hentry => h entry (hsubset hentry)

theorem Schema.wellFormed_singleton {entry : Entry} :
    Schema.WellFormed [entry] ↔ entry.WellFormed ∧ Schema.WellFormed entry.children := by
  rw [wellFormed_iff_forall_mem, List.forall_mem_singleton]

end Lists

/-! ### Well-formed entries -/

section Entries

variable {key : String} {type : FieldType}

theorem Entry.wellFormed_field (hkey : IsKeyWord key.toList) (htype : type ≠ .array) :
    (Entry.field key type).WellFormed := by
  refine ⟨hkey, ?_, fun _ => rfl⟩
  show if type = .array then _ else none = none
  rw [if_neg htype]

theorem Entry.wellFormed_array (hkey : IsKeyWord key.toList) (htype : type ≠ .array) :
    (Entry.array key type).WellFormed :=
  ⟨hkey, ⟨type, rfl, htype⟩, fun _ => rfl⟩

theorem Entry.wellFormed_map (hkey : IsKeyWord key.toList) (children : Schema) :
    (Entry.map key children).WellFormed :=
  ⟨hkey, rfl, fun hmap => absurd rfl hmap⟩

theorem Entry.WellFormed.require {entry : Entry} (h : entry.WellFormed) :
    entry.require.WellFormed :=
  ⟨h.key, h.element, h.children⟩

end Entries

namespace Session

/-! ### Single steps -/

/-- A step that gives nothing but keys and types that a declaration can express. -/
def Step.IsExpressible : Step → Prop
  | .addField key typeName => IsKeyWord key.toList ∧ FieldType.ofName? typeName ≠ some .array
  | .addArray key elementName => IsKeyWord key.toList ∧ FieldType.ofName? elementName ≠ some .array
  | .group key _ => IsKeyWord key.toList
  | .setElement _ => False
  | _ => True

instance (step : Step) : Decidable step.IsExpressible :=
  match step with
  | .addField _ _ | .addArray _ _ => inferInstanceAs (Decidable (_ ∧ _))
  | .group key _ => inferInstanceAs (Decidable (IsKeyWord key.toList))
  | .setElement _ => isFalse id
  | .configure _ | .parse _ | .require | .pop | .clear | .accept | .reparse | .encode =>
    isTrue trivial

variable {session : Session}

theorem append_wellFormed (h : session.entries.WellFormed) {entry : Entry}
    (hentry : entry.WellFormed) (hchildren : Schema.WellFormed entry.children) :
    (session.append entry).1.entries.WellFormed := by
  unfold append
  rw [Schema.wellFormed_append, Schema.wellFormed_singleton]
  exact ⟨h, hentry, hchildren⟩

/-- A step that goes on with a type keeps the entries well formed if it does with every type that
can be meant. -/
theorem withType_wellFormed (h : session.entries.WellFormed) {name : String}
    {next : FieldType → Session × Answer}
    (hnext : ∀ type, FieldType.ofName? name = some type → (next type).1.entries.WellFormed) :
    (session.withType name next).1.entries.WellFormed := by
  unfold withType
  split
  next type htype => exact hnext type htype
  · exact h

theorem changeLast_wellFormed (h : session.entries.WellFormed) {change : Entry → Entry}
    (hchange : ∀ entry : Entry, entry.WellFormed → (change entry).WellFormed)
    (hchildren : ∀ entry : Entry, (change entry).children = entry.children) :
    (session.changeLast change).1.entries.WellFormed := by
  unfold changeLast
  split
  · exact h
  next last hlast =>
    have hmem := List.mem_of_getLast? hlast
    obtain ⟨hwf, hwfChildren⟩ := Schema.wellFormed_iff_forall_mem.mp h last hmem
    rw [Schema.wellFormed_append, Schema.wellFormed_singleton, hchildren]
    exact ⟨h.of_subset (List.dropLast_subset _), hchange last hwf, hwfChildren⟩

theorem groupLast_wellFormed (h : session.entries.WellFormed) {key : String}
    (hkey : IsKeyWord key.toList) (count : Nat) :
    (session.groupLast key count).1.entries.WellFormed := by
  unfold groupLast
  apply append_wellFormed
  · exact h.of_subset (List.take_subset _ _)
  · exact Entry.wellFormed_map hkey _
  · exact h.of_subset (List.drop_subset _ _)

/-- Every step keeps the entries well formed. -/
theorem step_wellFormed {step : Step} (hstep : step.IsExpressible)
    (h : session.entries.WellFormed) : (session.step step).1.entries.WellFormed := by
  cases step with
  | configure limit => exact h
  | parse text =>
      rw [Session.step]
      split
      next entries hentries =>
        exact Schema.wellFormed_append.mpr ⟨h, wellFormed_of_parse hentries⟩
      · exact h
  | addField key typeName =>
      obtain ⟨hkey, hname⟩ := hstep
      apply withType_wellFormed h
      intro type htype
      apply append_wellFormed h
      · apply Entry.wellFormed_field hkey
        rintro rfl
        exact hname htype
      · exact Schema.wellFormed_nil
  | addArray key elementName =>
      obtain ⟨hkey, hname⟩ := hstep
      apply withType_wellFormed h
      intro type htype
      apply append_wellFormed h
      · apply Entry.wellFormed_array hkey
        rintro rfl
        exact hname htype
      · exact Schema.wellFormed_nil
  | group key count => exact groupLast_wellFormed h hstep count
  | require => exact changeLast_wellFormed h (fun _ hentry => hentry.require) (fun _ => rfl)
  | setElement elementName => exact hstep.elim
  | pop =>
      rw [Session.step]
      split
      · exact h
      · exact h.of_subset (List.dropLast_subset _)
  | clear => exact Schema.wellFormed_nil
  | accept =>
      rw [Session.step]
      split <;> exact h
  | reparse =>
      rw [Session.step]
      split
      next entries same hread =>
        -- whatever was written, the entries come from a declaration now
        obtain ⟨again, hparse, heq⟩ := bind_eq_ok hread
        cases heq
        exact wellFormed_of_parse hparse
      · exact h
  | encode => exact h

/-! ### Runs -/

/-- The session after some steps. -/
def after (session : Session) (steps : List Step) : Session :=
  steps.foldl (fun session step => (session.step step).1) session

/-- The reports on a run go on where the session has come to. -/
theorem run_append (session : Session) (front back : List Step) :
    session.run (front ++ back) = session.run front ++ (session.after front).run back := by
  induction front generalizing session with
  | nil => rfl
  | cons first front ih => simp only [List.cons_append, run, ih, after, List.foldl_cons]

theorem after_wellFormed {steps : List Step} (hsteps : ∀ step ∈ steps, step.IsExpressible)
    (h : session.entries.WellFormed) : (session.after steps).entries.WellFormed := by
  induction steps generalizing session with
  | nil => exact h
  | cons first steps ih =>
      obtain ⟨hfirst, hsteps⟩ := List.forall_mem_cons.mp hsteps
      exact ih hsteps (step_wellFormed hfirst h)

/-! ### Reading again -/

/-- What is read again is what was written, unless a map lies too deep. -/
theorem step_reparse (h : session.entries.WellFormed) :
    session.step .reparse = match session.entries.firstMapInside session.limit with
      | none => (session, .same true)
      | some entry =>
        (session, .unreadable (.tooDeep session.limit (Schema.render entry.children))) := by
  unfold step Schema.reread
  rw [parse_render h]
  cases session.entries.firstMapInside session.limit <;> simp

/-- Whatever steps were taken, reading a session again does not change it, and the report on it
tells the same entries. They are read again, or there are more maps in one another than the limit allows,
and this is the fault. -/
theorem reparse_after (limit : Nat) {steps : List Step}
    (hsteps : ∀ step ∈ steps, step.IsExpressible) :
    let start : Session := ⟨limit, []⟩
    let session := start.after steps
    let answer := (session.step .reparse).2
    (session.step .reparse).1 = session ∧
    start.run (steps ++ [.reparse]) =
      start.run steps ++ [⟨answer, session.entries.length, session.entries.render⟩] ∧
    (session.entries.mapHeight ≤ session.limit → answer = .same true) ∧
    (session.limit < session.entries.mapHeight →
      ∃ text, answer = .unreadable (.tooDeep session.limit text)) := by
  intro start session answer
  have hwf : session.entries.WellFormed := after_wellFormed hsteps Schema.wellFormed_nil
  have hstep := step_reparse hwf
  have hrun : start.run (steps ++ [.reparse]) = start.run steps ++ session.run [.reparse] :=
    run_append start steps [.reparse]
  unfold answer
  rw [hrun, run, hstep]
  cases hfirst : session.entries.firstMapInside session.limit with
  | none =>
      refine ⟨rfl, rfl, fun _ => rfl, ?_⟩
      intro hdeep
      exact absurd (Schema.mapHeight_le_iff.mpr hfirst) (Nat.not_le.mpr hdeep)
  | some entry =>
      refine ⟨rfl, rfl, ?_, fun _ => ⟨_, rfl⟩⟩
      intro hfits
      rw [Schema.mapHeight_le_iff.mp hfits] at hfirst
      cases hfirst

/-- Entries that were read with one limit and grouped are too deep for it, but not for the next. -/
theorem reparse_after_group :
    let steps : List Step :=
      [.parse "a{b *l}", .addArray "t" "date", .addField "m" "map", .group "g" 3, .require]
    let grouped := after ⟨1, []⟩ steps
    let relaxed := after ⟨1, []⟩ (steps ++ [.reparse, .configure (some 2)])
    (∃ text, (grouped.step .reparse).2 = .unreadable (.tooDeep grouped.limit text)) ∧
      (relaxed.step .reparse).2 = .same true := by
  intro steps grouped relaxed
  have hsteps : ∀ step ∈ steps, step.IsExpressible := by decide +kernel
  have hmore : ∀ step ∈ steps ++ [.reparse, .configure (some 2)], step.IsExpressible := by
    decide +kernel
  have hdeep : grouped.limit < grouped.entries.mapHeight := by decide +kernel
  have hfits : relaxed.entries.mapHeight ≤ relaxed.limit := by decide +kernel
  exact ⟨(reparse_after 1 hsteps).2.2.2 hdeep, (reparse_after 1 hmore).2.2.1 hfits⟩

end Session

end RecordSchema
