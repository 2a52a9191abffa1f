import RecordSchema.Declaration.Outline
import RecordSchema.Proofs.Declaration.Braces

/-!
# The outline without positions

The scan for an outline runs through a text once and keeps positions in it. Here its result is
described by the shape of the text alone. What the scan does

* inside a block: nothing, until the block is closed (`scanFrom_balanced`, `scanFrom_unclosed`);
* outside of blocks: at a comma or behind a block it starts afresh on what is left, whatever it has
  read before (`scanAfter_field`, `scanAfter_block`).

Hence `scan`, the scan of a whole text, obeys one equation for each case of `pieceInduction`, and so
does `outline`, which scans a text with a comma added to it.
-/

namespace RecordSchema.Declaration

/-! ### Single steps -/

@[simp] theorem Outline.cons?_none (found : Outline) : found.cons? none = found := rfl

@[simp] theorem Outline.cons?_some (piece : Piece) (found : Outline) :
    found.cons? (some piece) = ⟨piece :: found.pieces, found.ending⟩ := rfl

theorem scanFrom_cons_go {text rest : List Char} {pos : Nat} {c : Char} {cur next : Cursor}
    {piece : Option Piece} (h : cur.move text pos c = .go piece next) :
    scanFrom text pos cur (c :: rest) = (scanFrom text (pos + 1) next rest).cons? piece := by
  rw [scanFrom, h]

theorem scanFrom_cons_stop {text rest : List Char} {pos : Nat} {c : Char} {cur : Cursor}
    {ending : Ending} (h : cur.move text pos c = .stop ending) :
    scanFrom text pos cur (c :: rest) = ⟨[], ending⟩ := by
  rw [scanFrom, h]

/-- A character that is no brace does nothing, except for a comma outside of blocks. -/
theorem move_inert {text : List Char} {pos : Nat} {c : Char} {cur : Cursor} (ho : c ≠ '{')
    (hc : c ≠ '}') (h : c ≠ ',' ∨ cur.depth ≠ 0) : cur.move text pos c = .go none cur := by
  rw [Cursor.move, if_neg ho, if_neg hc, if_neg]
  rintro ⟨rfl, hd⟩
  rcases h with h | h
  · exact h rfl
  · exact h hd

/-- A brace inside a block is only counted. -/
theorem move_open {text : List Char} {pos : Nat} {cur : Cursor} (hd : cur.depth ≠ 0) :
    cur.move text pos '{' = .go none { cur with depth := cur.depth + 1 } := by
  rw [Cursor.move, if_pos rfl, if_neg hd]

theorem move_close {text : List Char} {pos depth : Nat} {cur : Cursor}
    (hd : cur.depth = depth + 2) :
    cur.move text pos '}' = .go none { cur with depth := depth + 1 } := by
  rw [Cursor.move, if_neg (by decide), if_pos rfl, hd]
  exact if_pos (Nat.succ_pos depth)

/-! ### Inside a block -/

/-- Plain text is passed over, inside and outside of blocks. -/
theorem scanFrom_plain {w : List Char} (hw : Plain w) (text rest : List Char) (pos : Nat)
    (cur : Cursor) :
    scanFrom text pos cur (w ++ rest) = scanFrom text (pos + w.length) cur rest := by
  induction w generalizing pos with
  | nil => rfl
  | cons c w ih =>
      obtain ⟨⟨hcomma, ho, hc⟩, hw⟩ := plain_cons.mp hw
      rw [List.cons_append, scanFrom_cons_go (move_inert ho hc (.inl hcomma)), Outline.cons?_none,
        ih hw, List.length_cons, Nat.add_right_comm, Nat.add_assoc]

/-- Inside a block, balanced text is passed over: the cursor behind it is the cursor before it. -/
theorem scanFrom_balanced {b : List Char} (hb : Balanced b) (text rest : List Char) (pos : Nat)
    {cur : Cursor} (hd : cur.depth ≠ 0) :
    scanFrom text pos cur (b ++ rest) = scanFrom text (pos + b.length) cur rest := by
  induction hb generalizing pos rest cur with
  | nil => rfl
  | @char c cs ho hc _ ih =>
      rw [List.cons_append, scanFrom_cons_go (move_inert ho hc (.inr hd)), Outline.cons?_none,
        ih rest (pos + 1) hd, List.length_cons, Nat.add_right_comm, Nat.add_assoc]
  | @block inner cs _ _ ihIn ihCs =>
      obtain ⟨depth, hdepth⟩ := Nat.exists_eq_succ_of_ne_zero hd
      -- through the brace, the block behind it, and the brace that restores the cursor
      have hclose : ({ cur with depth := cur.depth + 1 } : Cursor).depth = depth + 2 := by
        simp [hdepth]
      have hback : ({ cur with depth := depth + 1 } : Cursor) = cur := by
        rw [show depth + 1 = cur.depth from hdepth.symm]
      have heq : '{' :: inner ++ '}' :: cs ++ rest = '{' :: (inner ++ '}' :: (cs ++ rest)) := by simp
      rw [heq, scanFrom_cons_go (move_open hd), Outline.cons?_none,
        ihIn ('}' :: (cs ++ rest)) (pos + 1) (Nat.succ_ne_zero _),
        scanFrom_cons_go (move_close hclose), Outline.cons?_none, hback, ihCs rest _ hd]
      congr 1
      simp only [List.length_cons, List.length_append]
      omega

/-- Inside a block that stays open, the scan runs to the end of the text. -/
theorem scanFrom_unclosed (text : List Char) {rest : List Char} (h : Unclosed rest) (pos : Nat)
    {cur : Cursor} (hd : cur.depth ≠ 0) : scanFrom text pos cur rest = ⟨[], .unbalanced⟩ := by
  -- on the length, because a block that is closed is passed over at once
  induction hn : rest.length using Nat.strongRecOn generalizing rest pos cur with
  | ind n ih =>
    cases rest with
    | nil => rw [scanFrom, if_neg hd]
    | cons c rest =>
      have hc : c ≠ '}' := h.ne_closing
      by_cases ho : c = '{'
      · subst ho
        rw [scanFrom_cons_go (move_open hd), Outline.cons?_none]
        by_cases hun : Unclosed rest
        · exact ih rest.length (by simp at hn; omega) hun (pos + 1) (Nat.succ_ne_zero _) rfl
        · -- this block is closed, so the brace in question stays open behind it
          obtain ⟨body, after, hb, rfl⟩ := exists_of_not_unclosed hun
          obtain ⟨depth, hdepth⟩ := Nat.exists_eq_succ_of_ne_zero hd
          rw [scanFrom_balanced hb _ _ _ (Nat.succ_ne_zero _),
            scanFrom_cons_go (move_close (show _ = depth + 2 by simp [hdepth])), Outline.cons?_none]
          exact ih after.length (by simp at hn; omega) (h.of_block hb) _ (Nat.succ_ne_zero _) rfl
      · rw [scanFrom_cons_go (move_inert ho hc (.inr hd)), Outline.cons?_none]
        exact ih rest.length (by simp at hn; omega) (h.of_cons ho hc) (pos + 1) hd rfl

/-! ### Outside of blocks -/

/-- The scan of `rest` behind `done`, with no block open. A block was opened last at `opened`. -/
def scanAfter (done : List Char) (opened : Nat) (rest : List Char) : Outline :=
  scanFrom (done ++ rest) done.length ⟨done.length, opened, 0⟩ rest

theorem extract_append (done w rest : List Char) :
    (done ++ (w ++ rest)).extract done.length (done.length + w.length) = w := by
  simp [List.extract_eq_take_drop]

theorem scanAfter_plain {w : List Char} (hw : Plain w) (done : List Char) (opened : Nat) :
    scanAfter done opened w = ⟨[], .complete⟩ := by
  have h := scanFrom_plain hw (done ++ w) [] done.length ⟨done.length, opened, 0⟩
  rw [List.append_nil] at h
  rw [scanAfter, h]
  rfl

theorem scanAfter_field {w : List Char} (hw : Plain w) (done : List Char) (opened : Nat)
    (rest : List Char) :
    scanAfter done opened (w ++ ',' :: rest) =
      (scanAfter (done ++ w ++ [',']) opened rest).cons? (some (.field w)) := by
  have hdone : done ++ w ++ [','] ++ rest = done ++ (w ++ ',' :: rest) := by simp
  have hlen : (done ++ w ++ [',']).length = done.length + w.length + 1 := by
    simp [Nat.add_assoc]
  rw [scanAfter, scanFrom_plain hw, scanFrom, Cursor.move, if_neg (by decide), if_neg (by decide),
    if_pos ⟨rfl, rfl⟩, scanAfter, hdone, hlen]
  simp only [extract_append]

theorem scanAfter_closing {w : List Char} (hw : Plain w) (done : List Char) (opened : Nat)
    (rest : List Char) : scanAfter done opened (w ++ '}' :: rest) = ⟨[], .unbalanced⟩ := by
  rw [scanAfter, scanFrom_plain hw]
  exact scanFrom_cons_stop rfl

/-- The brace that opens a block is remembered by its position. -/
theorem scanAfter_open {w : List Char} (hw : Plain w) (done : List Char) (opened : Nat)
    (rest : List Char) :
    scanAfter done opened (w ++ '{' :: rest) =
      scanFrom (done ++ (w ++ '{' :: rest)) (done.length + w.length + 1)
        ⟨done.length, done.length + w.length, 1⟩ rest := by
  rw [scanAfter, scanFrom_plain hw, scanFrom, Cursor.move, if_pos rfl, if_pos rfl]
  rfl

theorem scanAfter_unclosed {w rest : List Char} (hw : Plain w) (h : Unclosed rest)
    (done : List Char) (opened : Nat) :
    scanAfter done opened (w ++ '{' :: rest) = ⟨[], .unbalanced⟩ := by
  rw [scanAfter_open hw]
  exact scanFrom_unclosed _ h _ Nat.one_ne_zero

theorem scanAfter_block {head body : List Char} (hh : Plain head) (hb : Balanced body)
    (done : List Char) (opened : Nat) (rest : List Char) :
    scanAfter done opened (head ++ '{' :: body ++ '}' :: rest) =
      (scanAfter (done ++ head ++ '{' :: body ++ ['}']) (done.length + head.length) rest).cons?
        (some (.block head body)) := by
  have hdone : done ++ head ++ '{' :: body ++ ['}'] ++ rest =
      done ++ (head ++ '{' :: (body ++ '}' :: rest)) := by simp
  have hlen : (done ++ head ++ '{' :: body ++ ['}']).length =
      done.length + head.length + 1 + body.length + 1 := by
    simp only [List.length_append, List.length_cons, List.length_nil]
    omega
  have hbody : (done ++ (head ++ '{' :: (body ++ '}' :: rest))).extract
      (done.length + head.length + 1) (done.length + head.length + 1 + body.length) = body := by
    have h := extract_append (done ++ head ++ ['{']) body ('}' :: rest)
    simpa [Nat.add_assoc] using h
  rw [List.append_assoc, List.cons_append, scanAfter_open hh,
    scanFrom_balanced hb _ _ _ Nat.one_ne_zero, scanFrom, Cursor.move, if_neg (by decide),
    if_pos rfl]
  -- the block was opened before its body, so the scan does not stop here
  have hpos : ¬ done.length + head.length + 1 + body.length ≤ done.length + head.length := by omega
  simp only [Nat.lt_irrefl, if_false, if_neg hpos, scanAfter, hdone, hlen, extract_append, hbody]

/-- What was read before does not matter. -/
theorem scanAfter_eq (done : List Char) (opened : Nat) (rest : List Char) :
    scanAfter done opened rest = scanAfter [] 0 rest := by
  induction rest using pieceInduction generalizing done opened with
  | plain w hw => rw [scanAfter_plain hw, scanAfter_plain hw]
  | field w text hw ih => rw [scanAfter_field hw, scanAfter_field hw, ih, ih (_ ++ _)]
  | block head body text hh hb ih =>
      rw [scanAfter_block hh hb, scanAfter_block hh hb, ih, ih (_ ++ _)]
  | closing w text hw => rw [scanAfter_closing hw, scanAfter_closing hw]
  | unclosed w text hw hun => rw [scanAfter_unclosed hw hun, scanAfter_unclosed hw hun]

/-! ### The scan of a text -/

/-- The scan of a text as it stands. -/
def scan (text : List Char) : Outline := scanFrom text 0 {} text

theorem scanAfter_eq_scan (done : List Char) (opened : Nat) (rest : List Char) :
    scanAfter done opened rest = scan rest := scanAfter_eq done opened rest

theorem scan_plain {w : List Char} (hw : Plain w) : scan w = ⟨[], .complete⟩ := by
  rw [← scanAfter_eq_scan [] 0, scanAfter_plain hw]

theorem scan_field {w : List Char} (hw : Plain w) (rest : List Char) :
    scan (w ++ ',' :: rest) = ⟨.field w :: (scan rest).pieces, (scan rest).ending⟩ := by
  rw [← scanAfter_eq_scan [] 0, scanAfter_field hw, scanAfter_eq_scan, Outline.cons?_some]

theorem scan_block {head body : List Char} (hh : Plain head) (hb : Balanced body)
    (rest : List Char) :
    scan (head ++ '{' :: body ++ '}' :: rest) =
      ⟨.block head body :: (scan rest).pieces, (scan rest).ending⟩ := by
  rw [← scanAfter_eq_scan [] 0, scanAfter_block hh hb, scanAfter_eq_scan, Outline.cons?_some]

theorem scan_closing {w : List Char} (hw : Plain w) (rest : List Char) :
    scan (w ++ '}' :: rest) = ⟨[], .unbalanced⟩ := by
  rw [← scanAfter_eq_scan [] 0, scanAfter_closing hw]

theorem scan_unclosed {w rest : List Char} (hw : Plain w) (h : Unclosed rest) :
    scan (w ++ '{' :: rest) = ⟨[], .unbalanced⟩ := by
  rw [← scanAfter_eq_scan [] 0, scanAfter_unclosed hw h]

/-! ### The outline of a text -/

theorem outline_eq_scan (text : List Char) : outline text = scan (text ++ [',']) := rfl

theorem outline_plain {w : List Char} (hw : Plain w) : outline w = ⟨[.field w], .complete⟩ := by
  rw [outline_eq_scan, scan_field hw, scan_plain plain_nil]

theorem outline_field {w : List Char} (hw : Plain w) (text : List Char) :
    outline (w ++ ',' :: text) = ⟨.field w :: (outline text).pieces, (outline text).ending⟩ := by
  rw [outline_eq_scan, List.append_assoc, List.cons_append, scan_field hw, outline_eq_scan]

theorem outline_block {head body : List Char} (hh : Plain head) (hb : Balanced body)
    (text : List Char) :
    outline (head ++ '{' :: body ++ '}' :: text) =
      ⟨.block head body :: (outline text).pieces, (outline text).ending⟩ := by
  rw [outline_eq_scan, List.append_assoc, List.cons_append, scan_block hh hb, outline_eq_scan]

theorem outline_closing {w : List Char} (hw : Plain w) (text : List Char) :
    outline (w ++ '}' :: text) = ⟨[], .unbalanced⟩ := by
  rw [outline_eq_scan, List.append_assoc, List.cons_append, scan_closing hw]

theorem outline_unclosed {w text : List Char} (hw : Plain w) (h : Unclosed text) :
    outline (w ++ '{' :: text) = ⟨[], .unbalanced⟩ := by
  rw [outline_eq_scan, List.append_assoc, List.cons_append,
    scan_unclosed hw (h.append (by decide))]

theorem ending_outline (text : List Char) :
    (outline text).ending = .complete ∨ (outline text).ending = .unbalanced := by
  induction text using pieceInduction with
  | plain w hw => simp [outline_plain hw]
  | field w text hw ih => simpa [outline_field hw] using ih
  | block head body text hh hb ih =>
      rw [outline_block hh hb]
      exact ih
  | closing w text hw => simp [outline_closing hw]
  | unclosed w text hw hun => simp [outline_unclosed hw hun]

/-- A block ends where its own brace is closed. -/
theorem balanced_of_mem_outline {text head body : List Char}
    (h : .block head body ∈ (outline text).pieces) : Balanced body := by
  induction text using pieceInduction with
  | plain w hw => simp [outline_plain hw] at h
  | field w text hw ih =>
      rw [outline_field hw] at h
      exact ih (by simpa using h)
  | block front inner text hf hi ih =>
      rw [outline_block hf hi] at h
      rcases List.mem_cons.mp h with heq | h
      · cases heq
        exact hi
      · exact ih h
  | closing w text hw => simp [outline_closing hw] at h
  | unclosed w text hw hun => simp [outline_unclosed hw hun] at h

/-- A balanced text is scanned to its end. -/
theorem ending_outline_of_balanced {text : List Char} (h : Balanced text) :
    (outline text).ending = .complete := by
  induction text using pieceInduction with
  | plain w hw => rw [outline_plain hw]
  | field w text hw ih =>
      rw [List.append_cons] at h
      rw [outline_field hw]
      exact ih (hw.balanced_field.of_append h)
  | block head body text hh hb ih =>
      rw [List.append_cons] at h
      rw [outline_block hh hb]
      exact ih ((hh.balanced_block hb).of_append h)
  | closing w text hw => exact absurd h.wellNested (not_wellNested_closing hw text)
  | unclosed w text hw hun => exact absurd h.wellNested (not_wellNested_unclosed hw hun)

end RecordSchema.Declaration
