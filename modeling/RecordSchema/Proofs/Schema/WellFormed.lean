import RecordSchema.Entry
import RecordSchema.Proofs.Declaration.Braces
import RecordSchema.Proofs.Text.Words

/-!
# Well-formed schemas

`Entry` is a loose type. A declaration can express less: keys are words, only arrays have an element
type, only maps have children. An entry is `WellFormed` if it keeps to this, and a schema is if all
its `nodes` are, at whatever level.

How deep maps lie in maps is measured in two ways that belong together (`mapHeight_le_iff`):
`Schema.mapHeight` is the greatest number of maps on a path down the schema, and
`Schema.firstMapInside` finds the first map that lies in a given number of others.
-/

namespace RecordSchema

open RecordSchema.Text RecordSchema.Declaration

/-- An entry is made of its fields. (`Entry` is recursive, so this does not hold by computation.) -/
theorem Entry.eta (entry : Entry) :
    (⟨entry.key, entry.type, entry.required, entry.element, entry.children⟩ : Entry) = entry := by
  cases entry
  rfl

/-- Induction over a schema: through the children of its first entry and through the others. -/
theorem Schema.induct {motive : Schema → Prop} (nil : motive [])
    (cons : ∀ (entry : Entry) (entries : Schema), motive entry.children → motive entries →
      motive (entry :: entries)) : ∀ schema, motive schema
  | [] => nil
  | ⟨_, _, _, _, children⟩ :: entries =>
      cons _ entries (induct nil cons children) (induct nil cons entries)

/-! ### The nodes of a schema -/

mutual

/-- An entry and all entries below it, each after the entries above it and to its left. Every one
stands with the number of maps it lies in, which is `depth` for the first. -/
def Entry.nodesFrom : (depth : Nat) → Entry → List (Nat × Entry)
  | depth, ⟨key, type, required, element, children⟩ =>
      (depth, ⟨key, type, required, element, children⟩) ::
        Schema.nodesFrom (if type = .map then depth + 1 else depth) children

/-- The nodes of the entries of a schema that lies in `depth` maps. -/
def Schema.nodesFrom : (depth : Nat) → Schema → List (Nat × Entry)
  | _, [] => []
  | depth, entry :: entries => entry.nodesFrom depth ++ Schema.nodesFrom depth entries

end

/-- All entries of a schema in preorder, with the number of maps that each lies in. -/
def Schema.nodes (schema : Schema) : List (Nat × Entry) := schema.nodesFrom 0

theorem Entry.nodesFrom_eq (depth : Nat) (entry : Entry) :
    entry.nodesFrom depth = (depth, entry) ::
      Schema.nodesFrom (if entry.type = .map then depth + 1 else depth) entry.children := by
  cases entry
  rw [Entry.nodesFrom]

@[simp] theorem Schema.nodesFrom_nil (depth : Nat) : Schema.nodesFrom depth [] = [] := by
  rw [Schema.nodesFrom]

theorem Schema.nodesFrom_cons (depth : Nat) (entry : Entry) (entries : Schema) :
    Schema.nodesFrom depth (entry :: entries) =
      entry.nodesFrom depth ++ Schema.nodesFrom depth entries := by
  rw [Schema.nodesFrom]

theorem Schema.nodesFrom_append (depth : Nat) (front back : Schema) :
    Schema.nodesFrom depth (front ++ back) =
      Schema.nodesFrom depth front ++ Schema.nodesFrom depth back := by
  induction front with
  | nil => simp
  | cons entry front ih =>
      rw [List.cons_append, nodesFrom_cons, nodesFrom_cons, ih, List.append_assoc]

/-! ### Well-formedness -/

/-- A key that a declaration can express: a word without commas and braces. -/
structure IsKeyWord (key : List Char) : Prop where
  ne_nil : key ≠ []
  blankFree : BlankFree key
  plain : Plain key

/-- An entry, apart from its children, that a declaration can express. -/
structure Entry.WellFormed (entry : Entry) : Prop where
  key : IsKeyWord entry.key.toList
  /-- An array, and nothing else, has an element type, which is not itself `array`. -/
  element : if entry.type = .array then ∃ type ∈ entry.element, type ≠ .array
    else entry.element = none
  /-- Only a map has children. -/
  children : entry.type ≠ .map → entry.children = []

/-- A schema that a declaration can express: all its entries are well formed, at every level. -/
def Schema.WellFormed (schema : Schema) : Prop := ∀ node ∈ schema.nodes, node.2.WellFormed

theorem isKeyWord_iff {key : List Char} : IsKeyWord key ↔ key ≠ [] ∧ BlankFree key ∧ Plain key :=
  ⟨fun h => ⟨h.ne_nil, h.blankFree, h.plain⟩, fun h => ⟨h.1, h.2.1, h.2.2⟩⟩

instance (key : List Char) : Decidable (IsKeyWord key) := decidable_of_iff _ isKeyWord_iff.symm

theorem Entry.wellFormed_iff {entry : Entry} :
    entry.WellFormed ↔ IsKeyWord entry.key.toList ∧
      (if entry.type = .array then ∃ type ∈ entry.element, type ≠ .array
        else entry.element = none) ∧
      (entry.type ≠ .map → entry.children = []) :=
  ⟨fun h => ⟨h.key, h.element, h.children⟩, fun h => ⟨h.1, h.2.1, h.2.2⟩⟩

instance (entry : Entry) : Decidable entry.WellFormed := decidable_of_iff _ Entry.wellFormed_iff.symm

instance (schema : Schema) : Decidable schema.WellFormed := List.decidableBAll _ schema.nodes

theorem Entry.WellFormed.element_ne {entry : Entry} (h : entry.WellFormed) :
    entry.element ≠ some .array := by
  have helement := h.element
  split at helement
  · obtain ⟨type, htype, hne⟩ := helement
    rw [Option.mem_def.mp htype]
    simpa using hne
  · rw [helement]
    simp

/-- Where the numbering starts does not matter to what holds of all entries. -/
theorem Schema.forall_mem_nodesFrom {p : Entry → Prop} (schema : Schema) (i j : Nat) :
    (∀ node ∈ schema.nodesFrom i, p node.2) ↔ ∀ node ∈ schema.nodesFrom j, p node.2 := by
  induction schema using Schema.induct generalizing i j with
  | nil => simp
  | cons entry entries ihChildren ihEntries =>
      simp only [nodesFrom_cons, Entry.nodesFrom_eq, List.forall_mem_append, List.forall_mem_cons]
      rw [ihChildren _ (if entry.type = .map then j + 1 else j), ihEntries i j]

@[simp] theorem Schema.wellFormed_nil : Schema.WellFormed [] := by
  simp [WellFormed, nodes]

theorem Schema.wellFormed_cons {entry : Entry} {entries : Schema} :
    Schema.WellFormed (entry :: entries) ↔
      entry.WellFormed ∧ Schema.WellFormed entry.children ∧ Schema.WellFormed entries := by
  rw [WellFormed, nodes, nodesFrom_cons, Entry.nodesFrom_eq, List.forall_mem_append,
    List.forall_mem_cons, forall_mem_nodesFrom entry.children _ 0, and_assoc]
  rfl

/-- A schema is well formed if its entries are, together with what is in them. -/
theorem Schema.wellFormed_iff_forall_mem {schema : Schema} :
    schema.WellFormed ↔
      ∀ entry ∈ schema, entry.WellFormed ∧ Schema.WellFormed entry.children := by
  induction schema with
  | nil => simp
  | cons entry entries ih => rw [wellFormed_cons, List.forall_mem_cons, ih, and_assoc]

/-! ### Maps in maps -/

mutual

/-- The greatest number of maps on a path from an entry down. -/
def Entry.mapHeight : Entry → Nat
  | ⟨_, type, _, _, children⟩ => (if type = .map then 1 else 0) + Schema.mapHeight children

/-- The greatest number of maps on a path down a schema. -/
def Schema.mapHeight : Schema → Nat
  | [] => 0
  | entry :: entries => max entry.mapHeight (Schema.mapHeight entries)

end

theorem Entry.mapHeight_eq (entry : Entry) :
    entry.mapHeight = (if entry.type = .map then 1 else 0) + Schema.mapHeight entry.children := by
  cases entry
  rw [Entry.mapHeight]

@[simp] theorem Schema.mapHeight_nil : Schema.mapHeight [] = 0 := by rw [Schema.mapHeight]

theorem Schema.mapHeight_cons (entry : Entry) (entries : Schema) :
    Schema.mapHeight (entry :: entries) = max entry.mapHeight (Schema.mapHeight entries) := by
  rw [Schema.mapHeight]

/-- Is this node a map that lies in exactly so many others? -/
def isMapInside (depth : Nat) (node : Nat × Entry) : Bool := node.1 = depth ∧ node.2.type = .map

/-- The first map, in preorder, that lies in exactly `depth` others. -/
def Schema.firstMapInside (depth : Nat) (schema : Schema) : Option Entry :=
  (schema.nodes.find? (isMapInside depth)).map Prod.snd

theorem Schema.find?_nodesFrom_eq_none_iff {schema : Schema} {i depth : Nat} (hi : i ≤ depth) :
    (schema.nodesFrom i).find? (isMapInside depth) = none ↔ i + schema.mapHeight ≤ depth := by
  induction schema using Schema.induct generalizing i with
  | nil => simpa using hi
  | cons entry entries ihChildren ihEntries =>
      rw [nodesFrom_cons, Entry.nodesFrom_eq, List.find?_append, List.find?_cons, mapHeight_cons,
        Entry.mapHeight_eq]
      by_cases hmap : entry.type = .map
      · -- a map that lies deep enough is found at once, another only counts for those below
        rcases Nat.lt_or_eq_of_le hi with hlt | rfl
        · have hskip : isMapInside depth (i, entry) = false := by
            simp [isMapInside, Nat.ne_of_lt hlt]
          simp only [hskip, hmap, if_true, Option.or_eq_none_iff, ihChildren hlt, ihEntries hi]
          omega
        · have hhit : isMapInside i (i, entry) = true := by simp [isMapInside, hmap]
          simp only [hhit, hmap, if_true, Option.or_eq_none_iff, reduceCtorEq, false_and, false_iff]
          omega
      · have hskip : isMapInside depth (i, entry) = false := by simp [isMapInside, hmap]
        simp only [hskip, hmap, if_false, Option.or_eq_none_iff, ihChildren hi, ihEntries hi]
        omega

/-- Maps are stacked no higher than `depth` if none lies in as many others. -/
theorem Schema.mapHeight_le_iff {schema : Schema} {depth : Nat} :
    schema.mapHeight ≤ depth ↔ schema.firstMapInside depth = none := by
  rw [firstMapInside, Option.map_eq_none_iff, nodes, find?_nodesFrom_eq_none_iff (Nat.zero_le _),
    Nat.zero_add]

theorem Schema.mem_nodes_of_firstMapInside {schema : Schema} {depth : Nat} {entry : Entry}
    (h : schema.firstMapInside depth = some entry) :
    (depth, entry) ∈ schema.nodes ∧ entry.type = .map := by
  obtain ⟨⟨i, found⟩, hfound, rfl⟩ := Option.map_eq_some_iff.mp h
  have hmap := List.find?_some hfound
  obtain ⟨rfl, htype⟩ : i = depth ∧ found.type = .map := by simpa [isMapInside] using hmap
  exact ⟨List.mem_of_find?_eq_some hfound, htype⟩

/-- What lies below a map of a schema lies below the schema, one map deeper than the map. -/
theorem Schema.nodesFrom_children_subset {schema : Schema} {i depth : Nat} {entry : Entry}
    (h : (depth, entry) ∈ schema.nodesFrom i) (hmap : entry.type = .map) :
    Schema.nodesFrom (depth + 1) entry.children ⊆ schema.nodesFrom i := by
  induction schema using Schema.induct generalizing i with
  | nil => simp at h
  | cons first entries ihChildren ihEntries =>
      rw [nodesFrom_cons, Entry.nodesFrom_eq] at h ⊢
      rcases List.mem_append.mp h with h | h
      · apply List.subset_append_of_subset_left
        rcases List.mem_cons.mp h with heq | h
        · obtain ⟨rfl, rfl⟩ := Prod.mk.inj heq
          rw [if_pos hmap]
          exact List.subset_cons_self _ _
        · exact List.subset_cons_of_subset _ (ihChildren h)
      · exact List.subset_append_of_subset_right _ (ihEntries h)

end RecordSchema
