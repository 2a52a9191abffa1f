import RecordSchema.Proofs.Declaration.Fault
import RecordSchema.Proofs.Declaration.Spelling

/-!
# What the limit does

Reading recurses over the levels that are left, and the limit itself is only written into a fault.
Two runs on one text are compared here.

* With the same levels and another limit, only that number in the fault is another
  (`parseWithin_relimit`). So the body of a block is read as it would be on its own:
  `parse_map_block`.
* With fewer levels, the result is the same or the run was cut short (`parseWithin_cutAt`). If the
  text can be read at all, it is cut short exactly if its braces nest deeper than the levels, and
  then at the first block that lies in as many others: `parse_eq_or_tooDeep`.
-/

namespace RecordSchema.Declaration

open RecordSchema.Text

/-! ### Another limit, the same levels -/

/-- The same fault under another limit. -/
def Fault.relimit (limit : Nat) : Fault → Fault
  | .tooDeep _ text => .tooDeep limit text
  | fault => fault

theorem sparesLocal_relimit (limit : Nat) : SparesLocal (.relimit limit) := by
  intro fault h
  cases h <;> rfl

theorem parseWithin_relimit (limit limit' levels : Nat) (text : List Char) :
    parseWithin limit' levels text =
      (parseWithin limit levels text).mapError (.relimit limit') := by
  induction levels generalizing text with
  | zero => rfl
  | succ levels ih =>
      rw [parseWithin_succ, parseWithin_succ]
      apply readOutline_mapError (sparesLocal_relimit limit')
      · intro head body _
        exact ih body
      · cases (outline (trim text)).ending <;> rfl

/-! ### A block by itself -/

/-- What may stand between the key of a map and its block: nothing, or blanks and a tag in stars. -/
inductive IsMapMark : List Char → Prop
  | none : IsMapMark []
  | tagged {gap tag} (before after : Nat) : Blank gap → gap ≠ [] → BlockTag tag →
      IsMapMark (gap ++ starred before tag after)

theorem BlockTag.star_not_mem {tag : List Char} (h : BlockTag tag) : '*' ∉ tag := by
  cases h with
  | omitted => simp
  | named hn => exact hn.alphabetic.not_mem (by decide)

theorem IsMapMark.spellsField {mark : List Char} (h : IsMapMark mark) (key : List Char) :
    ∃ tag, BlockTag tag ∧ SpellsField key (decide ('*' ∈ mark)) tag (key ++ mark) := by
  have hnil : Blank [] := by decide
  cases h with
  | none =>
      refine ⟨[], .omitted, ?_⟩
      have hs : SpellsField key false [] ([] ++ key ++ []) := .bare hnil hnil rfl rfl
      simpa using hs
  | @tagged gap tag before after hg hgap ht =>
      refine ⟨tag, ht, ?_⟩
      have hstar : '*' ∉ gap := by
        intro hmem
        exact absurd (hg _ hmem) (by decide)
      have hcount : '*' ∈ gap ++ starred before tag after ↔ 0 < before + after := by
        simp [starred, hstar, ht.star_not_mem]
        omega
      have hs := @SpellsField.typed key (decide ('*' ∈ gap ++ starred before tag after)) tag
        [] gap [] before after hnil hg hgap hnil (by simp [hcount])
      simpa using hs

/-- A block is read as its body would be read alone with one level less, and becomes the only entry.
A fault of the body is the fault of the block, with the limit of the block. -/
theorem parse_map_block {key mark body : List Char} (limit : Nat) (hk : IsKeyWord key)
    (hm : IsMapMark mark) (hb : Balanced body) :
    parse (limit + 1) (String.ofList (key ++ mark ++ '{' :: body ++ ['}'])) =
      match parse limit (String.ofList body) with
      | .ok children => .ok [⟨String.ofList key, .map, decide ('*' ∈ mark), none, children⟩]
      | .error fault => .error (fault.relimit (limit + 1)) := by
  obtain ⟨tag, ht, hs⟩ := hm.spellsField key
  let entry : Entry := ⟨String.ofList key, .map, decide ('*' ∈ mark), none, []⟩
  have hkey : entry.key.toList = key := String.toList_ofList
  have hwf : entry.WellFormed := ⟨hkey.symm ▸ hk, rfl, fun _ => rfl⟩
  have hhead := hs.head?_trim_ne_brace hk ('{' :: body ++ ['}'])
  rw [← List.append_assoc] at hhead
  have hspells : SpellsField entry.key.toList entry.required tag (key ++ mark) := by
    rw [hkey]
    exact hs
  have hread := fun nested whole =>
    @readOutline_block nested entry tag _ whole [] hwf rfl ht hspells _ hb
  rw [parse, parse, String.toList_ofList, String.toList_ofList, parseWithin_succ_of_head hhead,
    hread, parseWithin_relimit limit]
  -- behind the block nothing is left
  have hnil : ∀ whole,
      readOutline (parseWithin (limit + 1) (limit + 1)) whole (outline []) = .ok [] :=
    fun whole => readOutline_blank (by decide)
  cases parseWithin limit (limit + 1) body with
  | error fault => rfl
  | ok children => simp [Except.mapError, hnil, entry]

/-- A body that is read, and one with a block that is one level too deep. -/
theorem parse_map_block_starred :
    parse 1 "k *M*{x l, y}" = .ok [(Entry.map "k" [Entry.field "x" .long,
      Entry.field "y" .string]).require] ∧
    parse 1 "k *M*{x{y}}" = .error (.tooDeep 1 "y") := by
  have hk : IsKeyWord ['k'] := by decide
  have hm : IsMapMark " *M*".toList :=
    @IsMapMark.tagged [' '] ['M'] 1 1 (by decide) (by decide) (.named (by decide))
  have hfields : Balanced "x l, y".toList :=
    @Plain.balanced_append "x l".toList ", y".toList (by decide)
      (.char (by decide) (by decide) (Plain.balanced (by decide)))
  have hblock : Balanced "x{y}".toList :=
    @Plain.balanced_append ['x'] "{y}".toList (by decide)
      (@Balanced.block ['y'] [] (Plain.balanced (by decide)) .nil)
  have hread : parse 0 (String.ofList "x l, y".toList) =
      .ok [Entry.field "x" .long, Entry.field "y" .string] := by decide +kernel
  have hdeep : parse 0 (String.ofList "x{y}".toList) = .error (.tooDeep 0 "y") := by
    decide +kernel
  have h := parse_map_block 0 hk hm hfields
  have h' := parse_map_block 0 hk hm hblock
  rw [hread] at h
  rw [hdeep] at h'
  exact ⟨h, h'⟩

/-! ### Fewer levels -/

/-- `CutAt limit x y`: the run with result `x` went as the one with result `y`, unless it was cut
short for lack of levels. -/
def CutAt {α : Type} (limit : Nat) (x y : Except Fault α) : Prop :=
  x = y ∨ ∃ text, x = .error (.tooDeep limit text)

section Cut

variable {limit : Nat} {nested nested' : List Char → Except Fault Schema}

theorem CutAt.refl {α : Type} (x : Except Fault α) : CutAt limit x x := .inl rfl

theorem CutAt.bind {α β : Type} {x y : Except Fault α} {f g : α → Except Fault β}
    (h : CutAt limit x y) (hnext : ∀ a, CutAt limit (f a) (g a)) :
    CutAt limit (x >>= f) (y >>= g) := by
  rcases h with rfl | ⟨text, rfl⟩
  · cases x with
    | error fault => exact .refl _
    | ok a => exact hnext a
  · exact .inr ⟨text, rfl⟩

theorem CutAt.readPiece (h : ∀ body, CutAt limit (nested body) (nested' body)) (piece : Piece) :
    CutAt limit (readPiece nested piece) (readPiece nested' piece) := by
  cases piece with
  | field w => exact .refl _
  | block head body => exact (h body).bind fun children => .refl _

theorem CutAt.readPieces (h : ∀ body, CutAt limit (nested body) (nested' body))
    (pieces : List Piece) :
    CutAt limit (readPieces nested pieces) (readPieces nested' pieces) := by
  induction pieces with
  | nil => exact .refl _
  | cons piece pieces ih =>
      exact (CutAt.readPiece h piece).bind fun entry => ih.bind fun entries => .refl _

theorem parseWithin_cutAt (limit limit' : Nat) {levels levels' : Nat} (h : levels ≤ levels')
    (text : List Char) :
    CutAt limit (parseWithin limit levels text) (parseWithin limit' levels' text) := by
  induction levels generalizing levels' text with
  | zero => exact .inr ⟨_, rfl⟩
  | succ levels ih =>
      obtain ⟨levels', rfl⟩ : ∃ n, levels' = n + 1 := ⟨levels' - 1, by omega⟩
      have hnested : ∀ body,
          CutAt limit (parseWithin limit levels body) (parseWithin limit' levels' body) :=
        fun body => ih (by omega) body
      exact (CutAt.readPieces hnested _).bind fun entries => .refl _

end Cut

/-! ### The first block that lies too deep -/

/-- `FirstBlockInside depth text body`: of the blocks that lie in `depth` others, this is the body
of the one that opens first. -/
def FirstBlockInside (depth : Nat) (text body : List Char) : Prop :=
  ∃ before after, text = before ++ '{' :: body ++ '}' :: after ∧ Balanced body ∧
    before.count '{' = before.count '}' + depth ∧ nesting before ≤ depth

theorem firstBlockInside_zero {head body : List Char} (hh : Plain head) (hb : Balanced body)
    (text : List Char) : FirstBlockInside 0 (head ++ '{' :: body ++ '}' :: text) body := by
  refine ⟨head, text, rfl, hb, by simp [hh.count_eq], ?_⟩
  exact Nat.le_of_eq (nesting_plain hh)

/-- What is balanced and does not nest so deep may stand in front. -/
theorem FirstBlockInside.append_left {depth : Nat} {front text body : List Char}
    (h : FirstBlockInside depth text body) (hf : Balanced front) (hn : nesting front ≤ depth) :
    FirstBlockInside depth (front ++ text) body := by
  obtain ⟨before, after, rfl, hb, hcount, hnest⟩ := h
  refine ⟨front ++ before, after, by simp, hb, ?_, ?_⟩
  · have := hf.wellNested.total
    simp only [List.count_append]
    omega
  · rw [nesting_append hf]
    exact Nat.max_le.mpr ⟨hn, hnest⟩

/-- In the body of a block, all blocks lie one deeper. -/
theorem FirstBlockInside.inside {depth : Nat} {head text body : List Char}
    (h : FirstBlockInside depth text body) (hh : Plain head) (rest : List Char) :
    FirstBlockInside (depth + 1) (head ++ '{' :: text ++ '}' :: rest) body := by
  obtain ⟨before, after, rfl, hb, hcount, hnest⟩ := h
  refine ⟨head ++ '{' :: before, after ++ '}' :: rest, by simp, hb, ?_, ?_⟩
  · simp [hh.count_eq, hcount]
    omega
  · rw [nesting, nestingFrom_plain hh, nestingFrom_open]
    exact Nat.le_trans (nestingFrom_succ_le 0 before) (Nat.succ_le_succ hnest)

theorem lt_nesting_append_open {depth : Nat} {before : List Char}
    (h : before.count '{' = before.count '}' + depth) (more : List Char) :
    depth < nesting (before ++ '{' :: more) := by
  have hcount := count_le_nestingFrom 0 (before ++ ['{'])
  have hle := nestingFrom_le_append 0 (before ++ ['{']) more
  rw [← List.append_cons] at hle
  simp at hcount
  rw [nesting]
  omega

/-- Of two braces that open a block inside `depth` others, only the first has none in front. -/
theorem eq_of_prefix_of_nesting {depth : Nat} {before before' rest rest' : List Char}
    (h : before ++ '{' :: rest = before' ++ '{' :: rest')
    (hcount : before.count '{' = before.count '}' + depth) (hnest : nesting before' ≤ depth)
    (hpre : before <+: before') : before = before' := by
  obtain ⟨more, rfl⟩ := hpre
  cases more with
  | nil => rw [List.append_nil]
  | cons c more =>
      simp only [List.append_assoc, List.append_cancel_left_eq, List.cons_append] at h
      obtain ⟨rfl, -⟩ := List.cons.inj h
      exact absurd hnest (Nat.not_le.mpr (lt_nesting_append_open hcount more))

theorem FirstBlockInside.unique {depth : Nat} {text body body' : List Char}
    (h : FirstBlockInside depth text body) (h' : FirstBlockInside depth text body') :
    body = body' := by
  obtain ⟨before, after, rfl, hb, hcount, hnest⟩ := h
  obtain ⟨before', after', heq, hb', hcount', hnest'⟩ := h'
  simp only [List.append_assoc, List.cons_append] at heq
  have hsame : before = before' := by
    have hpre : before <+: before' ++ '{' :: (body' ++ '}' :: after') :=
      heq ▸ List.prefix_append before _
    rcases List.prefix_or_prefix_of_prefix hpre (List.prefix_append before' _) with hpre | hpre
    · exact eq_of_prefix_of_nesting heq hcount hnest' hpre
    · exact (eq_of_prefix_of_nesting heq.symm hcount' hnest hpre).symm
  subst hsame
  exact hb.append_closing_inj hb' (List.cons.inj (List.append_cancel_left heq)).2

/-! ### Where a text is cut short -/

/-- `FitsOrCut limit levels text schema result`: the result is the schema, or the fault of the first
block that has no level left, according to how deep the text nests. -/
def FitsOrCut (limit levels : Nat) (text : List Char) (schema : Schema)
    (result : Except Fault Schema) : Prop :=
  nesting text ≤ levels ∧ result = .ok schema ∨
    levels < nesting text ∧ ∃ body, FirstBlockInside levels text body ∧
      result = .error (.tooDeep limit (String.ofList (trim body)))

section Cutting

variable {limit levels : Nat} {text : List Char} {schema : Schema} {result : Except Fault Schema}

theorem FitsOrCut.append_left {front : List Char} (h : FitsOrCut limit levels text schema result)
    (hf : Balanced front) (hn : nesting front ≤ levels) :
    FitsOrCut limit levels (front ++ text) schema result := by
  rw [FitsOrCut, nesting_append hf]
  rcases h with ⟨hfits, hr⟩ | ⟨hdeep, body, hbody, hr⟩
  · exact .inl ⟨Nat.max_le.mpr ⟨hn, hfits⟩, hr⟩
  · exact .inr ⟨by omega, body, hbody.append_left hf hn, hr⟩

theorem FitsOrCut.bind (h : FitsOrCut limit levels text schema result) (entries : Schema) :
    FitsOrCut limit levels text (entries ++ schema) (do
      let more ← result
      .ok (entries ++ more)) := by
  rcases h with ⟨hfits, rfl⟩ | ⟨hdeep, body, hbody, rfl⟩
  · exact .inl ⟨hfits, rfl⟩
  · exact .inr ⟨hdeep, body, hbody, rfl⟩

/-- The step from the bodies of blocks to a text, piece by piece. -/
theorem readOutline_fitsOrCut {nested : List Char → Except Fault Schema}
    (hnested : ∀ body children, nested body = .ok children → ∀ levels,
      FitsOrCut limit levels body children (parseWithin limit (levels + 1) body))
    {whole : List Char} (whole' : List Char)
    (h : readOutline nested whole (outline text) = .ok schema) :
    FitsOrCut limit levels text schema
      (readOutline (parseWithin limit levels) whole' (outline text)) := by
  induction text using pieceInduction generalizing schema with
  | plain w hw =>
      rw [outline_plain hw, readOutline_cons] at h ⊢
      refine .inl ⟨?_, h⟩
      rw [nesting_plain hw]
      exact Nat.zero_le levels
  | field w text hw ih =>
      rw [outline_field hw, readOutline_cons] at h ⊢
      obtain ⟨entry, hentry, h⟩ := bind_eq_ok h
      obtain ⟨entries, hentries, h⟩ := bind_eq_ok h
      cases h
      -- a field is read without looking into blocks
      have hentry : readPiece (parseWithin limit levels) (.field w) = .ok entry := hentry
      have hfront : nesting (w ++ [',']) ≤ levels := by
        rw [nesting_field hw]
        exact Nat.zero_le levels
      rw [hentry, ok_bind, List.append_cons]
      exact ((ih hentries).bind entry.toList).append_left hw.balanced_field hfront
  | block head body text hh hb ih =>
      rw [outline_block hh hb, readOutline_cons, readPiece] at h ⊢
      obtain ⟨entry, hentry, h⟩ := bind_eq_ok h
      obtain ⟨children, hchildren, hentry⟩ := bind_eq_ok hentry
      obtain ⟨entries, hentries, h⟩ := bind_eq_ok h
      cases h
      have hnesting := nesting_block hh hb text
      cases levels with
      | zero => exact .inr ⟨by omega, body, firstBlockInside_zero hh hb text, rfl⟩
      | succ levels =>
          rcases hnested body children hchildren levels with
            ⟨hfits, hr⟩ | ⟨hdeep, inner, hinner, hr⟩
          · -- the body is read, so all depends on what follows the block
            have hfront : nesting (head ++ '{' :: body ++ ['}']) ≤ levels + 1 := by
              rw [nesting_block hh hb]
              exact Nat.max_le.mpr ⟨Nat.succ_le_succ hfits, Nat.zero_le _⟩
            rw [hr, ok_bind, hentry, ok_bind, List.append_cons]
            exact ((ih hentries).bind entry.toList).append_left (hh.balanced_block hb) hfront
          · exact .inr ⟨by omega, inner, hinner.inside hh text, by rw [hr, error_bind, error_bind]⟩
  | closing w text hw =>
      rw [outline_closing hw] at h
      cases h
  | unclosed w text hw hun =>
      rw [outline_unclosed hw hun] at h
      cases h

/-- A text that can be read with some number of levels is read the same with any other, or is cut
short at its first block that lies too deep. -/
theorem parseWithin_fitsOrCut {limit' levels' : Nat}
    (h : parseWithin limit' levels' text = .ok schema) (limit levels : Nat) :
    FitsOrCut limit levels text schema (parseWithin limit (levels + 1) text) := by
  induction levels' generalizing text schema levels with
  | zero => cases h
  | succ levels' ih =>
      have hlead : Plain (text.takeWhile isBlank) := plain_of_blank (blank_takeWhile text)
      have hnest : nesting (text.takeWhile isBlank) ≤ levels := by
        rw [nesting_plain hlead]
        exact Nat.zero_le levels
      rw [parseWithin_succ_dropWhile] at h ⊢
      have hcut : FitsOrCut limit levels (text.dropWhile isBlank) schema _ :=
        readOutline_fitsOrCut (fun body children hbody => ih hbody) (trim text) h
      have hwhole := hcut.append_left hlead.balanced hnest
      rwa [List.takeWhile_append_dropWhile] at hwhole

end Cutting

/-- With a smaller limit a text is read as with a larger one, or found to be too deep. If it can be
read with some limit, it can be read with those that its braces do not nest deeper than, always to
the same schema; with the others, the first block inside as many blocks as the limit allows is
reported. -/
theorem parse_eq_or_tooDeep (text : String) :
    (∀ limit limit', limit < limit' →
      parse limit text = parse limit' text ∨
        ∃ body, parse limit text = .error (.tooDeep limit body)) ∧
    (∀ limit schema, parse limit text = .ok schema → ∀ limit',
      (nesting text.toList ≤ limit' → parse limit' text = .ok schema) ∧
      (limit' < nesting text.toList → ∃ body,
        (∀ other, FirstBlockInside limit' text.toList other ↔ other = body) ∧
        parse limit' text = .error (.tooDeep limit' (String.ofList (trim body))))) := by
  constructor
  · intro limit limit' h
    exact parseWithin_cutAt limit limit' (by omega) text.toList
  · intro limit schema h limit'
    rcases parseWithin_fitsOrCut h limit' limit' with ⟨hn, hr⟩ | ⟨hn, body, hbody, hr⟩
    · exact ⟨fun _ => hr, fun hdeep => absurd hn (Nat.not_le.mpr hdeep)⟩
    · refine ⟨fun hfits => absurd hfits (Nat.not_le.mpr hn), fun _ => ⟨body, ?_, hr⟩⟩
      intro other
      constructor
      · intro hother
        exact hother.unique hbody
      · rintro rfl
        exact hbody

/-- A block that is dropped takes part in the nesting. -/
theorem parse_eq_or_tooDeep_dropped_block :
    let text := "k,a{x l, {b { y l }},z}"
    let schema : Schema := [Entry.field "k" .string,
      Entry.map "a" [Entry.field "x" .long, Entry.field "z" .string]]
    parse 3 text = .ok schema ∧ parse 7 text = .ok schema ∧
      parse 2 text = .error (.tooDeep 2 "y l") ∧
      (parse 1 text = parse 2 text ∨ ∃ body, parse 1 text = .error (.tooDeep 1 body)) := by
  intro text schema
  have h : parse 3 text = .ok schema := by decide +kernel
  have hnesting : nesting text.toList = 3 := by decide
  have hfirst : FirstBlockInside 2 text.toList " y l ".toList :=
    ⟨text.toList.take 12, text.toList.drop 19, by decide, Plain.balanced (by decide), by decide,
      by decide⟩
  obtain ⟨hless, hread⟩ := parse_eq_or_tooDeep text
  refine ⟨h, (hread 3 schema h 7).1 (by omega), ?_, hless 1 2 (by omega)⟩
  obtain ⟨body, hbody, hdeep⟩ := (hread 3 schema h 2).2 (by omega)
  rw [hdeep, ← (hbody _).mp hfirst]
  decide

end RecordSchema.Declaration
