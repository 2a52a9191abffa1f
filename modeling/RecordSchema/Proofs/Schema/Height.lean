import RecordSchema.Proofs.Schema.WellFormed

/-!
# Entries in entries

In a loose schema every entry may have children, whatever its type. `Schema.LiesInside` says in how
many others an entry lies, and `Schema.height` is the greatest number of entries on a path down the
schema. The two belong together (`Schema.insideAtMost_iff`): a bound on the one is a bound on the
other.
-/

namespace RecordSchema

/-- The entry lies in the schema, inside exactly so many others. -/
inductive Schema.LiesInside : Schema → Nat → Entry → Prop
  | top {schema : Schema} {entry : Entry} (h : entry ∈ schema) : LiesInside schema 0 entry
  | under {schema : Schema} {parent entry : Entry} {n : Nat} (h : parent ∈ schema)
      (hunder : LiesInside parent.children n entry) : LiesInside schema (n + 1) entry

/-- Every entry of the schema lies inside at most so many others. -/
def Schema.InsideAtMost (schema : Schema) (k : Nat) : Prop :=
  ∀ n entry, schema.LiesInside n entry → n ≤ k

mutual

/-- The greatest number of entries on a path from an entry down, itself included. -/
def Entry.height : Entry → Nat
  | ⟨_, _, _, _, children⟩ => Schema.height children + 1

/-- The greatest number of entries on a path down a schema. -/
def Schema.height : Schema → Nat
  | [] => 0
  | entry :: entries => max entry.height (Schema.height entries)

end

theorem Entry.height_eq (entry : Entry) : entry.height = Schema.height entry.children + 1 := by
  cases entry
  rw [Entry.height]

@[simp] theorem Schema.height_nil : Schema.height [] = 0 := by rw [Schema.height]

theorem Schema.height_cons (entry : Entry) (entries : Schema) :
    Schema.height (entry :: entries) = max entry.height (Schema.height entries) := by
  rw [Schema.height]

theorem Schema.height_children_lt {schema : Schema} {entry : Entry} (h : entry ∈ schema) :
    Schema.height entry.children < schema.height := by
  induction h with
  | head entries =>
      rw [height_cons, Entry.height_eq]
      omega
  | tail first _ ih =>
      rw [height_cons]
      omega

theorem Schema.LiesInside.lt_height {schema : Schema} {entry : Entry} {n : Nat}
    (h : schema.LiesInside n entry) : n < schema.height := by
  induction h with
  | top hmem => exact Nat.zero_lt_of_lt (height_children_lt hmem)
  | under hmem _ ih => exact Nat.lt_of_le_of_lt ih (height_children_lt hmem)

/-- On the way to the height of a schema every depth is reached. -/
theorem Schema.exists_liesInside {schema : Schema} {n : Nat} (h : n < schema.height) :
    ∃ entry, schema.LiesInside n entry := by
  induction schema using Schema.induct generalizing n with
  | nil => simp at h
  | cons entry entries ihChildren ihEntries =>
      rw [height_cons, Entry.height_eq] at h
      by_cases hentries : n < entries.height
      · obtain ⟨found, hfound⟩ := ihEntries hentries
        cases hfound with
        | top hmem => exact ⟨found, .top (List.mem_cons_of_mem _ hmem)⟩
        | under hmem hunder => exact ⟨found, .under (List.mem_cons_of_mem _ hmem) hunder⟩
      · cases n with
        | zero => exact ⟨entry, .top List.mem_cons_self⟩
        | succ n =>
            obtain ⟨found, hfound⟩ := ihChildren (n := n) (by omega)
            exact ⟨found, .under List.mem_cons_self hfound⟩

/-- How deep entries lie inside others is bounded by the height. -/
theorem Schema.insideAtMost_iff {schema : Schema} {k : Nat} :
    schema.InsideAtMost k ↔ schema.height ≤ k + 1 := by
  constructor
  · intro hall
    by_contra hheight
    obtain ⟨entry, h⟩ := exists_liesInside (Nat.lt_of_not_le hheight)
    exact Nat.lt_irrefl k (hall (k + 1) entry h)
  · intro hheight n entry h
    exact Nat.le_of_lt_succ (Nat.lt_of_lt_of_le h.lt_height hheight)

/-- Where only maps have children, entries nest no deeper than maps do. -/
theorem Schema.height_le_of_forall_nodes {schema : Schema} {depth bound : Nat}
    (hdepth : depth ≤ bound + 1)
    (h : ∀ node ∈ schema.nodesFrom depth, node.2.WellFormed ∧ node.1 ≤ bound) :
    depth + schema.height ≤ bound + 1 := by
  induction schema using Schema.induct generalizing depth with
  | nil => simpa using hdepth
  | cons entry entries ihChildren ihEntries =>
      rw [nodesFrom_cons, Entry.nodesFrom_eq, List.forall_mem_append, List.forall_mem_cons] at h
      obtain ⟨⟨⟨hwf, hbound⟩, hchildren⟩, hentries⟩ := h
      have hheight : depth + entries.height ≤ bound + 1 := ihEntries hdepth hentries
      rw [height_cons, Entry.height_eq]
      by_cases hmap : entry.type = .map
      · rw [if_pos hmap] at hchildren
        have hbelow := ihChildren (Nat.succ_le_succ hbound) hchildren
        omega
      · rw [hwf.children hmap, height_nil]
        omega

end RecordSchema
