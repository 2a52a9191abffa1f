import RecordSchema.Proofs.Declaration.Reading

/-!
# Reading by descent

A declaration can be explained without a scan. Its text, trimmed and with a comma added, falls into
pieces from left to right, each of them `w,` or `head{body}`:

    "name s,meta{x l}"   falls into   "name s,"   "meta{x l}"   ","

`Decomposes` says which pieces these are and what remains if the braces do not match. A piece
contributes an entry, nothing, or a fault (`Contributes`), and the first fault is the result
(`Gathers`). The body of a block is a text of its own and is read in the same way with one level less
(`Descends`).

No position occurs in this account, and nothing in it is computed by the scan. Still both agree on
every text, in the schema and in the fault: `parse_eq_iff_descends`.
-/

namespace RecordSchema.Declaration

open RecordSchema.Text

/-! ### The pieces of a text -/

/-- A text that has no further piece at its front: nothing is left, or a closing brace comes that
nothing opened, or an opening brace that nothing closes. -/
inductive Remainder : List Char → Prop
  | empty : Remainder []
  | closing {w text} : Plain w → Remainder (w ++ '}' :: text)
  | opening {w text} : Plain w → Unclosed text → Remainder (w ++ '{' :: text)

/-- `Decomposes text pieces rest`: the text consists of these pieces, in this order, and then of
`rest`, which has no further piece at its front. -/
inductive Decomposes : List Char → List Piece → List Char → Prop
  | stop {rest} : Remainder rest → Decomposes rest [] rest
  | field {w text pieces rest} : Plain w → Decomposes text pieces rest →
      Decomposes (w ++ ',' :: text) (.field w :: pieces) rest
  | block {head body text pieces rest} : Plain head → Balanced body →
      Decomposes text pieces rest →
      Decomposes (head ++ '{' :: body ++ '}' :: text) (.block head body :: pieces) rest

/-! ### What pieces contribute -/

/-- `Contributes nested piece result`: what a piece adds to a schema, if `nested` relates the bodies
of blocks to their schemas. A block is read inside out: the fault of its body comes first, then that
of its head. -/
inductive Contributes (nested : List Char → Except Fault Schema → Prop) :
    Piece → Except Fault (Option Entry) → Prop
  | blankField {w} : Blank w → Contributes nested (.field w) (.ok none)
  | badField {w fault} : Field.read w = .error fault → Contributes nested (.field w) (.error fault)
  | leaf {w field} : Field.read w = .ok (some field) →
      Contributes nested (.field w) (.ok (some
        ⟨field.key, field.type.getD .string, field.required, field.element, []⟩))
  | badBody {head body fault} : nested body (.error fault) →
      Contributes nested (.block head body) (.error fault)
  | unnamed {body children} : nested body (.ok children) →
      Contributes nested (.block [] body)
        (.error (.unnamedBlock (String.ofList (trim ('{' :: body ++ ['}'])))))
  | dropped {head body children} : nested body (.ok children) → head ≠ [] → Blank head →
      Contributes nested (.block head body) (.ok none)
  | badHead {head body children fault} : nested body (.ok children) → head ≠ [] →
      Field.read head = .error fault → Contributes nested (.block head body) (.error fault)
  | notMap {head body children field} : nested body (.ok children) → head ≠ [] →
      Field.read head = .ok (some field) → field.type.getD .map ≠ .map →
      Contributes nested (.block head body) (.error
        (.inField (String.ofList (trim (head ++ '{' :: body ++ ['}']))) field.key field.tag
          (.unknownTag field.tag)))
  | map {head body children field} : nested body (.ok children) → head ≠ [] →
      Field.read head = .ok (some field) → field.type.getD .map = .map →
      Contributes nested (.block head body) (.ok (some
        ⟨field.key, .map, field.required, none, children⟩))

/-- `Gathers nested whole rest pieces result`: the contributions of the pieces up to the first fault.
A remainder of the text comes last, as a fault of the whole text. -/
inductive Gathers (nested : List Char → Except Fault Schema → Prop) (whole rest : List Char) :
    List Piece → Except Fault Schema → Prop
  | done : rest = [] → Gathers nested whole rest [] (.ok [])
  | unbalanced : rest ≠ [] →
      Gathers nested whole rest [] (.error (.unbalanced (String.ofList whole)))
  | fault {piece pieces fault} : Contributes nested piece (.error fault) →
      Gathers nested whole rest (piece :: pieces) (.error fault)
  | later {piece pieces entry fault} : Contributes nested piece (.ok entry) →
      Gathers nested whole rest pieces (.error fault) →
      Gathers nested whole rest (piece :: pieces) (.error fault)
  | entry {piece pieces entry entries} : Contributes nested piece (.ok entry) →
      Gathers nested whole rest pieces (.ok entries) →
      Gathers nested whole rest (piece :: pieces) (.ok (entry.toList ++ entries))

/-- `Descends limit levels text result`: the text is read into the result with so many levels left,
out of `limit` and the outermost one. -/
def Descends (limit : Nat) : (levels : Nat) → List Char → Except Fault Schema → Prop
  | 0, text, result => result = .error (.tooDeep limit (String.ofList (trim text)))
  | levels + 1, text, result =>
      ∃ pieces rest, Decomposes (trim text ++ [',']) pieces rest ∧
        Gathers (Descends limit levels) (trim text) rest pieces result

/-! ### The scan finds the decomposition -/

/-- The end of a scan that left this remainder. -/
def endingOf (rest : List Char) : Ending := if rest = [] then .complete else .unbalanced

theorem Remainder.scan_eq {rest : List Char} (h : Remainder rest) :
    scan rest = ⟨[], endingOf rest⟩ := by
  cases h with
  | empty => rfl
  | closing hw => rw [scan_closing hw, endingOf, if_neg (by simp)]
  | opening hw hun => rw [scan_unclosed hw hun, endingOf, if_neg (by simp)]

theorem Decomposes.scan_eq {text rest : List Char} {pieces : List Piece}
    (h : Decomposes text pieces rest) : scan text = ⟨pieces, endingOf rest⟩ := by
  induction h with
  | stop hr => exact hr.scan_eq
  | field hw _ ih => rw [scan_field hw, ih]
  | block hh hb _ ih => rw [scan_block hh hb, ih]

/-- Every text with a comma added to it decomposes. -/
theorem exists_decomposes (text : List Char) :
    ∃ pieces rest, Decomposes (text ++ [',']) pieces rest := by
  induction text using pieceInduction with
  | plain w hw => exact ⟨_, _, .field hw (.stop .empty)⟩
  | field w text hw ih =>
      obtain ⟨pieces, rest, h⟩ := ih
      rw [List.append_assoc, List.cons_append]
      exact ⟨_, _, .field hw h⟩
  | block head body text hh hb ih =>
      obtain ⟨pieces, rest, h⟩ := ih
      rw [List.append_assoc, List.cons_append]
      exact ⟨_, _, .block hh hb h⟩
  | closing w text hw =>
      rw [List.append_assoc, List.cons_append]
      exact ⟨_, _, .stop (.closing hw)⟩
  | unclosed w text hw hun =>
      rw [List.append_assoc, List.cons_append]
      exact ⟨_, _, .stop (.opening hw (hun.append (by decide)))⟩

/-! ### Reading finds the contributions -/

/-- Only a blank text is no field at all. -/
theorem Field.read_eq_none_iff {text : List Char} : Field.read text = .ok none ↔ Blank text := by
  rw [← trim_eq_nil_iff, Field.read]
  constructor
  · intro h
    split at h
    · assumption
    · -- what is not blank gives a field or a fault
      obtain ⟨⟨key, typeWord⟩, -, h⟩ := bind_eq_ok h
      dsimp only at h
      split at h
      · cases h
      · obtain ⟨types, -, h⟩ := bind_eq_ok h
        cases h
  · intro h
    rw [h]

section Gathering

variable {nested : List Char → Except Fault Schema} {Nested : List Char → Except Fault Schema → Prop}

/-- The reader contributes what the rules say. -/
theorem contributes_readPiece (h : ∀ body, Nested body (nested body)) (piece : Piece) :
    Contributes Nested piece (readPiece nested piece) := by
  cases piece with
  | field w =>
      rw [readPiece]
      cases hw : Field.read w with
      | error fault => exact .badField hw
      | ok field =>
          cases field with
          | none => exact .blankField (Field.read_eq_none_iff.mp hw)
          | some field => exact .leaf hw
  | block head body =>
      have hbody := h body
      rw [readPiece]
      cases hn : nested body with
      | error fault => exact .badBody (hn ▸ hbody)
      | ok children =>
          rw [hn] at hbody
          rw [ok_bind, readBlock]
          split
          · next hempty =>
              rw [List.isEmpty_iff.mp hempty]
              exact .unnamed hbody
          · next hempty =>
              have hne : head ≠ [] := by simpa using hempty
              cases hf : Field.read head with
              | error fault => exact .badHead hbody hne hf
              | ok field =>
                  cases field with
                  | none => exact .dropped hbody hne (Field.read_eq_none_iff.mp hf)
                  | some field =>
                      rw [ok_bind]
                      dsimp only
                      rw [Field.toMap]
                      split
                      · next hmap => exact .map hbody hne hf hmap
                      · next hmap => exact .notMap hbody hne hf hmap

/-- The rules leave no choice. -/
theorem Contributes.readPiece_eq (h : ∀ body result, Nested body result → nested body = result)
    {piece : Piece} {result : Except Fault (Option Entry)} (hc : Contributes Nested piece result) :
    readPiece nested piece = result := by
  cases hc with
  | blankField hw => rw [readPiece, Field.read_eq_none_iff.mpr hw]; rfl
  | badField hw => rw [readPiece, hw]; rfl
  | leaf hw => rw [readPiece, hw]; rfl
  | badBody hb => rw [readPiece, h _ _ hb]; rfl
  | unnamed hb => rw [readPiece, h _ _ hb]; rfl
  | dropped hb hne hh =>
      rw [readPiece, h _ _ hb, ok_bind, readBlock, if_neg (by simpa using hne),
        Field.read_eq_none_iff.mpr hh]
      rfl
  | badHead hb hne hh =>
      rw [readPiece, h _ _ hb, ok_bind, readBlock, if_neg (by simpa using hne), hh]
      rfl
  | notMap hb hne hh hmap =>
      rw [readPiece, h _ _ hb, ok_bind, readBlock, if_neg (by simpa using hne), hh, ok_bind]
      dsimp only
      rw [Field.toMap]
      split
      · next heq => exact absurd heq hmap
      · rfl
  | map hb hne hh hmap =>
      rw [readPiece, h _ _ hb, ok_bind, readBlock, if_neg (by simpa using hne), hh, ok_bind]
      dsimp only
      rw [Field.toMap, hmap]
      rfl

theorem gathers_readOutline (h : ∀ body, Nested body (nested body)) (whole rest : List Char)
    (pieces : List Piece) :
    Gathers Nested whole rest pieces (readOutline nested whole ⟨pieces, endingOf rest⟩) := by
  induction pieces with
  | nil =>
      by_cases hr : rest = []
      · rw [endingOf, if_pos hr, readOutline_complete]
        exact .done hr
      · rw [endingOf, if_neg hr, readOutline_unbalanced]
        exact .unbalanced hr
  | cons piece pieces ih =>
      have hp := contributes_readPiece h piece
      rw [readOutline_cons]
      cases hpiece : readPiece nested piece with
      | error fault => exact .fault (hpiece ▸ hp)
      | ok entry =>
          cases hrest : readOutline nested whole ⟨pieces, endingOf rest⟩ with
          | error fault => exact .later (hpiece ▸ hp) (hrest ▸ ih)
          | ok entries => exact .entry (hpiece ▸ hp) (hrest ▸ ih)

theorem Gathers.readOutline_eq (h : ∀ body result, Nested body result → nested body = result)
    {whole rest : List Char} {pieces : List Piece} {result : Except Fault Schema}
    (hg : Gathers Nested whole rest pieces result) :
    readOutline nested whole ⟨pieces, endingOf rest⟩ = result := by
  induction hg with
  | done hr => rw [endingOf, if_pos hr, readOutline_complete]
  | unbalanced hr => rw [endingOf, if_neg hr, readOutline_unbalanced]
  | fault hp => rw [readOutline_cons, hp.readPiece_eq h, error_bind]
  | later hp _ ih => rw [readOutline_cons, hp.readPiece_eq h, ok_bind, ih, error_bind]
  | entry hp _ ih => rw [readOutline_cons, hp.readPiece_eq h, ok_bind, ih, ok_bind]

end Gathering

/-! ### The two accounts agree -/

theorem descends_parseWithin (limit levels : Nat) (text : List Char) :
    Descends limit levels text (parseWithin limit levels text) := by
  induction levels generalizing text with
  | zero => rfl
  | succ levels ih =>
      obtain ⟨pieces, rest, hd⟩ := exists_decomposes (trim text)
      refine ⟨pieces, rest, hd, ?_⟩
      rw [parseWithin_succ, outline_eq_scan, hd.scan_eq]
      exact gathers_readOutline ih (trim text) rest pieces

theorem Descends.parseWithin_eq {limit levels : Nat} {text : List Char}
    {result : Except Fault Schema} (h : Descends limit levels text result) :
    parseWithin limit levels text = result := by
  induction levels generalizing text result with
  | zero => exact h.symm
  | succ levels ih =>
      obtain ⟨pieces, rest, hd, hg⟩ := h
      rw [parseWithin_succ, outline_eq_scan, hd.scan_eq]
      exact hg.readOutline_eq fun _ _ hbody => ih hbody

/-- Reading a declaration by one scan and reading it by descent give the same result on every text
and with every limit: the same schema, or the same fault. -/
theorem parse_eq_iff_descends (limit : Nat) (text : String) (result : Except Fault Schema) :
    parse limit text = result ↔ Descends limit (limit + 1) text.toList result := by
  constructor
  · rintro rfl
    exact descends_parseWithin limit (limit + 1) text.toList
  · intro h
    exact h.parseWithin_eq

end RecordSchema.Declaration
