import RecordSchema.Proofs.Declaration.RoundTrip

/-!
# Which schemas can be declared

The canonical declaration gives every map a block and is therefore too deep for some schemas that
can be read. A sparing one leaves out the blocks that hold nothing. Its braces nest only as deep as
there are entries inside maps (`exists_spells_of_forall_nodes`), which makes what is known about the
schemas that were read an exact description of them: `exists_parse_eq_ok_iff`.
-/

namespace RecordSchema.Declaration

open RecordSchema.Text

/-- Apart from its children, an entry can be spelled without a block, even if it is a map. -/
theorem exists_leafTag {entry : Entry} (h : entry.WellFormed) :
    ∃ tag text, LeafTag entry.type entry.element tag ∧
      SpellsField entry.key.toList entry.required tag text := by
  by_cases hm : entry.type = .map
  · refine ⟨FieldType.map.name.toList, entry.headChars, ?_, Entry.spells_head hm⟩
    have helement := h.element
    rw [if_neg (by simp [hm])] at helement
    rw [hm, helement]
    exact .named (by decide) (names_name .map)
  · obtain ⟨tag, ht, hs⟩ := h.spells_leaf hm
    exact ⟨tag, _, ht, hs⟩

/-- If the entries of a schema inside `depth` maps lie in no more than `bound` maps, it has a
spelling whose braces make up for the difference at most. -/
theorem exists_spells_of_forall_nodes {depth bound : Nat} {schema : Schema} (hd : depth ≤ bound)
    (h : ∀ node ∈ schema.nodesFrom depth, IsSoundNode bound node) :
    ∃ text, Spells schema text ∧ depth + nesting text ≤ bound := by
  induction schema using Schema.induct generalizing depth with
  | nil => exact ⟨[], .nil (by decide), hd⟩
  | cons entry entries ihChildren ihEntries =>
      rw [Schema.nodesFrom_cons, Entry.nodesFrom_eq, List.forall_mem_append,
        List.forall_mem_cons] at h
      obtain ⟨⟨⟨hwf, -⟩, hchildren⟩, hentries⟩ := h
      obtain ⟨rest, hrest, hnest⟩ := ihEntries hd hentries
      by_cases hc : entry.children = []
      · obtain ⟨tag, text, ht, hs⟩ := exists_leafTag hwf
        refine ⟨text ++ ',' :: rest, .leaf hc ht hs hrest, ?_⟩
        rwa [nesting_field (hs.plain hwf.key.plain ht.isTagWord)]
      · have hm : entry.type = .map := by
          by_contra hne
          exact hc (hwf.children hne)
        rw [if_pos hm] at hchildren
        -- there is a child, and it lies one map deeper
        have hdeeper : depth + 1 ≤ bound := by
          obtain ⟨child, children, heq⟩ := List.exists_cons_of_ne_nil hc
          rw [heq, Schema.nodesFrom_cons, Entry.nodesFrom_eq] at hchildren
          exact (hchildren _ List.mem_cons_self).2
        obtain ⟨body, hbody, hnest'⟩ := ihChildren hdeeper hchildren
        have hwfChildren : Schema.WellFormed entry.children :=
          (Schema.forall_mem_nodesFrom entry.children _ 0).mp fun node hnode =>
            (hchildren node hnode).1
        have hs := Entry.spells_head hm
        have ht : BlockTag FieldType.map.name.toList := .named (names_name .map)
        refine ⟨entry.headChars ++ '{' :: body ++ '}' :: rest, .block hm ht hs hbody hrest, ?_⟩
        rw [nesting_block (hs.plain hwf.key.plain ht.isTagWord) (hbody.balanced hwfChildren)]
        omega

/-- Exactly those schemas are read from some text in which every entry is well formed and lies in no
more maps than the limit allows. -/
theorem exists_parse_eq_ok_iff (limit : Nat) (schema : Schema) :
    (∃ text, parse limit text = .ok schema) ↔
      ∀ depth entry, (depth, entry) ∈ schema.nodes → depth ≤ limit ∧ entry.WellFormed := by
  constructor
  · rintro ⟨text, h⟩ depth entry hnode
    exact (forall_nodes_of_parse h _ hnode).symm
  · intro h
    have hsound : ∀ node ∈ schema.nodesFrom 0, IsSoundNode limit node :=
      fun node hnode => (h node.1 node.2 hnode).symm
    have hwf : schema.WellFormed := fun node hnode => (hsound node hnode).1
    obtain ⟨text, htext, hnest⟩ := exists_spells_of_forall_nodes (Nat.zero_le limit) hsound
    rw [Nat.zero_add] at hnest
    have hhead := htext.head?_trim_ne_brace hwf
    refine ⟨String.ofList text, ?_⟩
    rw [parse, String.toList_ofList, parseWithin_succ_of_head hhead]
    exact htext.readOutline_eq hwf hnest (trim text)

end RecordSchema.Declaration
