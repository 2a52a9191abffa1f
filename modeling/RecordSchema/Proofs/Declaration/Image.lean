import RecordSchema.Proofs.Declaration.Field
import RecordSchema.Proofs.Schema.Height

/-!
# What can be read

Every schema that comes from a declaration is well formed, and no entry of it lies in more maps than
the limit allows (`forall_nodes_of_parse`). The reason is in the outline: where it cuts, commas and
braces disappear, so that none is left in a key.
-/

namespace RecordSchema.Declaration

open RecordSchema.Text

/-- Is the text that the fields of a piece are read from without commas and braces? -/
def Piece.IsPlain : Piece → Prop
  | .field w => Plain w
  | .block head _ => Plain head

theorem isPlain_of_mem_outline {text : List Char} :
    ∀ piece ∈ (outline text).pieces, piece.IsPlain := by
  induction text using pieceInduction with
  | plain w hw =>
      rw [outline_plain hw]
      exact List.forall_mem_singleton.mpr hw
  | field w text hw ih =>
      rw [outline_field hw]
      exact List.forall_mem_cons.mpr ⟨hw, ih⟩
  | block head body text hh hb ih =>
      rw [outline_block hh hb]
      exact List.forall_mem_cons.mpr ⟨hh, ih⟩
  | closing w text hw => simp [outline_closing hw]
  | unclosed w text hw hun => simp [outline_unclosed hw hun]

section

variable {nested : List Char → Except Fault Schema} {depth bound : Nat}

/-- A node that is well formed and not too deep. -/
def IsSoundNode (bound : Nat) (node : Nat × Entry) : Prop := node.2.WellFormed ∧ node.1 ≤ bound

theorem readBlock_sound {head body : List Char} {children : Schema} {entry : Entry}
    (hp : Plain head) (hd : depth ≤ bound)
    (hchildren : ∀ node ∈ children.nodesFrom (depth + 1), IsSoundNode bound node)
    (h : readBlock head body children = .ok (some entry)) :
    ∀ node ∈ entry.nodesFrom depth, IsSoundNode bound node := by
  obtain ⟨field, hf, rfl⟩ := readBlock_eq_some h
  rw [Entry.nodesFrom_eq, List.forall_mem_cons]
  exact ⟨⟨⟨Field.isKeyWord_of_read hp hf, rfl, fun hne => absurd rfl hne⟩, hd⟩, hchildren⟩

theorem readPiece_sound {piece : Piece} {entry : Entry} (hp : piece.IsPlain) (hd : depth ≤ bound)
    (hnested : ∀ body children, nested body = .ok children →
      ∀ node ∈ children.nodesFrom (depth + 1), IsSoundNode bound node)
    (h : readPiece nested piece = .ok (some entry)) :
    ∀ node ∈ entry.nodesFrom depth, IsSoundNode bound node := by
  cases piece with
  | field w =>
      obtain ⟨field, hf, h⟩ := bind_eq_ok h
      cases field with
      | none => cases h
      | some field =>
          cases h
          rw [Entry.nodesFrom_eq, List.forall_mem_cons]
          exact ⟨⟨Field.wellFormed_toLeaf hp hf, hd⟩, by simp [Field.toLeaf]⟩
  | block head body =>
      obtain ⟨children, hc, h⟩ := bind_eq_ok h
      exact readBlock_sound hp hd (hnested body children hc) h

theorem readPieces_sound {pieces : List Piece} {entries : Schema}
    (hp : ∀ piece ∈ pieces, piece.IsPlain) (hd : depth ≤ bound)
    (hnested : ∀ body children, nested body = .ok children →
      ∀ node ∈ children.nodesFrom (depth + 1), IsSoundNode bound node)
    (h : readPieces nested pieces = .ok entries) :
    ∀ node ∈ entries.nodesFrom depth, IsSoundNode bound node := by
  induction pieces generalizing entries with
  | nil =>
      cases h
      simp
  | cons piece pieces ih =>
      obtain ⟨hpiece, hpieces⟩ := List.forall_mem_cons.mp hp
      obtain ⟨entry, he, h⟩ := bind_eq_ok h
      obtain ⟨rest, hr, h⟩ := bind_eq_ok h
      cases h
      rw [Schema.nodesFrom_append, List.forall_mem_append]
      refine ⟨?_, ih hpieces hr⟩
      cases entry with
      | none => simp
      | some entry =>
          rw [Option.toList_some, Schema.nodesFrom_cons, Schema.nodesFrom_nil, List.append_nil]
          exact readPiece_sound hpiece hd hnested he

end

/-- One more level of reading, one more level of maps. -/
theorem parseWithin_sound {limit levels : Nat} {text : List Char} {schema : Schema}
    (h : parseWithin limit (levels + 1) text = .ok schema) (depth : Nat) :
    ∀ node ∈ schema.nodesFrom depth, IsSoundNode (depth + levels) node := by
  induction levels generalizing text schema depth with
  | zero =>
      refine readPieces_sound isPlain_of_mem_outline (Nat.le_refl _) ?_ (readPieces_eq_ok h)
      -- no level is left, so no block has been read
      intro body children hb
      cases hb
  | succ levels ih =>
      refine readPieces_sound isPlain_of_mem_outline (Nat.le_add_right _ _) ?_ (readPieces_eq_ok h)
      intro body children hb
      have hdeeper := ih hb (depth + 1)
      rwa [Nat.add_assoc, Nat.add_comm 1] at hdeeper

/-- Every entry of a schema that was read is well formed and lies in at most `limit` maps. -/
theorem forall_nodes_of_parse {limit : Nat} {text : String} {schema : Schema}
    (h : parse limit text = .ok schema) :
    ∀ node ∈ schema.nodes, node.2.WellFormed ∧ node.1 ≤ limit := by
  have hsound := parseWithin_sound h 0
  rw [Nat.zero_add] at hsound
  exact hsound

theorem wellFormed_of_parse {limit : Nat} {text : String} {schema : Schema}
    (h : parse limit text = .ok schema) : schema.WellFormed := by
  intro node hnode
  exact (forall_nodes_of_parse h node hnode).1

/-- No entry of a schema that was read lies inside more others than the limit allows. -/
theorem insideAtMost_of_parse {limit : Nat} {text : String} {schema : Schema}
    (h : parse limit text = .ok schema) : schema.InsideAtMost limit := by
  have hheight : 0 + schema.height ≤ limit + 1 :=
    Schema.height_le_of_forall_nodes (Nat.zero_le _) (forall_nodes_of_parse h)
  rwa [Nat.zero_add, ← Schema.insideAtMost_iff] at hheight

end RecordSchema.Declaration
