import RecordSchema.Proofs.Declaration.Origin

/-!
# The positions of the scan

The scan keeps three numbers, and cuts a text at them. Nothing in `Cursor.move` says that they are in
order: that a block is closed behind the brace that opened it, say, or that a piece does not start
behind its end. It follows from the way the scan has come, and that is told by the text alone:
`Tracks` gives the cursor behind every front of a text, `Tracks.step` is what one character does to
it, and `Scanning.tracks` what a whole scan does.

Where a character stands can be counted in characters or in bytes. The scan only compares positions
and steps over commas and braces, so for it this makes no difference as long as these take one unit
of room. A `Measure` is such a way of counting, and everything is shown for each of them: in bytes
too, the positions of the scan are those at which characters begin.
-/

namespace RecordSchema.Declaration

open RecordSchema.Text

/-! ### Counting positions -/

/-- A way of counting positions: how much room a character takes. Commas and braces take one unit. -/
structure Measure where
  width : Char → Nat
  width_comma : width ',' = 1
  width_open : width '{' = 1
  width_close : width '}' = 1

namespace Measure

/-- Positions count characters, as in `scanFrom`. -/
def characters : Measure := ⟨fun _ => 1, rfl, rfl, rfl⟩

/-- Positions count the bytes of UTF-8. -/
def bytes : Measure := ⟨Char.utf8Size, by decide, by decide, by decide⟩

/-- The room that a text takes, and so the position behind it. -/
def size (m : Measure) : List Char → Nat
  | [] => 0
  | c :: cs => m.width c + m.size cs

variable (m : Measure)

@[simp] theorem size_nil : m.size [] = 0 := rfl

@[simp] theorem size_cons (c : Char) (cs : List Char) : m.size (c :: cs) = m.width c + m.size cs :=
  rfl

@[simp] theorem size_append (cs ds : List Char) : m.size (cs ++ ds) = m.size cs + m.size ds := by
  induction cs with
  | nil => simp
  | cons c cs ih => simp [ih, Nat.add_assoc]

theorem size_characters (cs : List Char) : characters.size cs = cs.length := by
  induction cs with
  | nil => rfl
  | cons c cs ih =>
      rw [size_cons, ih, List.length_cons, Nat.add_comm]
      rfl

theorem size_bytes (cs : List Char) : bytes.size cs = (String.ofList cs).utf8ByteSize := by
  induction cs with
  | nil => rfl
  | cons c cs ih =>
      rw [size_cons, ih, String.ofList_cons, String.utf8ByteSize_append,
        String.utf8ByteSize_singleton]
      rfl

end Measure

/-- `IsSlice m text lo hi part`: the positions `lo` and `hi` both stand between two characters of
the text, or at an end of it, and `part` is what stands between them. -/
def IsSlice (m : Measure) (text : List Char) (lo hi : Nat) (part : List Char) : Prop :=
  ∃ front back, text = front ++ part ++ back ∧ lo = m.size front ∧ hi = m.size (front ++ part)

theorem IsSlice.le {m : Measure} {text part : List Char} {lo hi : Nat}
    (h : IsSlice m text lo hi part) : lo ≤ hi ∧ hi ≤ m.size text := by
  obtain ⟨front, back, rfl, rfl, rfl⟩ := h
  simp

theorem isValid_size_bytes (front back : List Char) :
    (⟨Measure.bytes.size front⟩ : String.Pos.Raw).IsValid (String.ofList (front ++ back)) := by
  refine String.Pos.Raw.isValid_iff_exists_append.mpr
    ⟨String.ofList front, String.ofList back, String.ofList_append, ?_⟩
  rw [Measure.size_bytes]
  rfl

/-- A slice by bytes begins and ends at boundaries of characters. -/
theorem IsSlice.isValid {text part : List Char} {lo hi : Nat}
    (h : IsSlice .bytes text lo hi part) :
    (⟨lo⟩ : String.Pos.Raw).IsValid (String.ofList text) ∧
      (⟨hi⟩ : String.Pos.Raw).IsValid (String.ofList text) := by
  obtain ⟨front, back, rfl, rfl, rfl⟩ := h
  refine ⟨?_, isValid_size_bytes _ _⟩
  rw [List.append_assoc]
  exact isValid_size_bytes _ _

/-! ### The run of a scan -/

/-- `Scanning m text done cur`: the scan of `text` has come past `done`, one character after
another, and its cursor is `cur`. Positions are those of the measure; the pieces that are completed
on the way do not matter here. -/
inductive Scanning (m : Measure) (text : List Char) : List Char → Cursor → Prop
  | start : Scanning m text [] {}
  | step {done c rest cur piece next} : Scanning m text done cur → text = done ++ c :: rest →
      cur.move text (m.size done) c = .go piece next → Scanning m text (done ++ [c]) next

/-- Counted in characters, this is the way that `scanFrom` goes: what it finds from here on is the
end of the outline. -/
theorem Scanning.scanFrom_suffix {text done rest : List Char} {cur : Cursor}
    (h : Scanning .characters text done cur) (htext : text = done ++ rest) :
    (scanFrom text done.length cur rest).pieces <:+ (scan text).pieces ∧
      (scanFrom text done.length cur rest).ending = (scan text).ending := by
  induction h generalizing rest with
  | start =>
      rw [List.nil_append] at htext
      rw [← htext]
      exact ⟨List.suffix_refl _, rfl⟩
  | @step done c rest' cur piece next _ htext' hmove ih =>
      obtain rfl : rest' = rest := by simpa [htext'] using htext
      rw [Measure.size_characters] at hmove
      obtain ⟨hpieces, hending⟩ := ih htext'
      rw [scanFrom_cons_go hmove] at hpieces hending
      rw [List.length_append, List.length_singleton]
      exact ⟨(List.suffix_append _ _).trans hpieces, hending⟩

/-- `LeavesOpen n text`: of the braces that a text opens, `n` are not closed in it. -/
inductive LeavesOpen : Nat → List Char → Prop
  | none {b} : Balanced b → LeavesOpen 0 b
  | brace {n front b} : LeavesOpen n front → Balanced b → LeavesOpen (n + 1) (front ++ '{' :: b)

theorem LeavesOpen.append {n : Nat} {front b : List Char} (h : LeavesOpen n front)
    (hb : Balanced b) : LeavesOpen n (front ++ b) := by
  cases h with
  | none hf => exact .none (hf.append hb)
  | brace hf hc =>
      rw [List.append_assoc]
      exact .brace hf (hc.append hb)

theorem LeavesOpen.close {n : Nat} {text : List Char} (h : LeavesOpen (n + 1) text) :
    LeavesOpen n (text ++ ['}']) := by
  cases h with
  | brace hf hb =>
      rw [List.append_assoc]
      exact hf.append (.block hb .nil)

/-- A brace in front that is not closed counts for one more. -/
theorem LeavesOpen.behind {n : Nat} {front inner : List Char} (h : LeavesOpen n inner)
    (hf : Balanced front) : LeavesOpen (n + 1) (front ++ '{' :: inner) := by
  induction h with
  | none hb => exact .brace (.none hf) hb
  | @brace n inner b _ hb ih =>
      have happend := LeavesOpen.brace ih hb
      simpa using happend

/-- A front of a text behind which the scan starts afresh: complete pieces only. -/
inductive Passed : List Char → Prop
  | nil : Passed []
  | field {before w} : Passed before → Plain w → Passed (before ++ (w ++ [',']))
  | block {before head body} : Passed before → Plain head → Balanced body →
      Passed (before ++ blockText head body)

theorem Passed.balanced {before : List Char} (h : Passed before) : Balanced before := by
  induction h with
  | nil => exact .nil
  | field _ hw ih => exact ih.append hw.balanced_field
  | block _ hh hb ih => exact ih.append (hh.balanced_block hb)

/-- The pieces of what follows are pieces of the whole. -/
theorem Passed.pieces_subset {before : List Char} (h : Passed before) (rest : List Char) :
    (scan rest).pieces ⊆ (scan (before ++ rest)).pieces := by
  induction h generalizing rest with
  | nil => exact List.Subset.refl _
  | @field before w _ hw ih =>
      have hsub := ih (w ++ ',' :: rest)
      rw [scan_field hw] at hsub
      simpa using List.Subset.trans (List.subset_cons_self _ _) hsub
  | @block before head body _ hh hb ih =>
      have hsub := ih (head ++ '{' :: body ++ '}' :: rest)
      rw [scan_block hh hb] at hsub
      simpa [blockText] using List.Subset.trans (List.subset_cons_self _ _) hsub

/-! ### The cursor behind a front -/

/-- `Tracks m done cur`: the cursor is where it should be behind `done`. Outside of blocks, the
current piece is plain so far. Inside of a block, it is a plain head, the brace that opened the block,
and a text that leaves some more braces open. -/
inductive Tracks (m : Measure) : List Char → Cursor → Prop
  | outside {before w} (opened : Nat) : Passed before → Plain w →
      Tracks m (before ++ w) ⟨m.size before, opened, 0⟩
  | inside {before head inner depth} : Passed before → Plain head → LeavesOpen depth inner →
      Tracks m (before ++ head ++ '{' :: inner)
        ⟨m.size before, m.size (before ++ head), depth + 1⟩

section Step

variable {m : Measure} {text done before head inner w : List Char} {c : Char} {cur next : Cursor}
  {piece : Option Piece} {opened depth : Nat}

/-- Outside of blocks, a comma completes a piece and a brace opens a block. -/
theorem Tracks.step_outside (hb : Passed before) (hw : Plain w)
    (h : Cursor.move text (m.size (before ++ w)) c ⟨m.size before, opened, 0⟩ = .go piece next) :
    Tracks m (before ++ w ++ [c]) next := by
  by_cases ho : c = '{'
  · subst ho
    cases h
    exact .inside hb hw (.none .nil)
  by_cases hc : c = '}'
  · subst hc
    cases h
  by_cases hcomma : c = ','
  · subst hcomma
    cases h
    have hstart : m.size (before ++ w) + 1 = m.size (before ++ (w ++ [','])) := by
      simp [m.width_comma, Nat.add_assoc]
    have hnext := Tracks.outside (m := m) opened (hb.field hw) plain_nil
    rw [hstart]
    simpa using hnext
  · rw [move_inert ho hc (.inl hcomma)] at h
    cases h
    rw [List.append_assoc]
    exact .outside opened hb (plain_append.mpr ⟨hw, by simp [ho, hc, hcomma]⟩)

/-- Inside of a block, only the brace that closes it is more than counted. -/
theorem Tracks.step_inside (hb : Passed before) (hh : Plain head) (hi : LeavesOpen depth inner)
    (h : Cursor.move text (m.size (before ++ head ++ '{' :: inner)) c
      ⟨m.size before, m.size (before ++ head), depth + 1⟩ = .go piece next) :
    Tracks m (before ++ head ++ '{' :: inner ++ [c]) next := by
  have hstill : ∀ more, before ++ head ++ '{' :: inner ++ more =
      before ++ head ++ '{' :: (inner ++ more) := by simp
  by_cases ho : c = '{'
  · subst ho
    rw [move_open (Nat.succ_ne_zero depth)] at h
    cases h
    rw [hstill]
    exact .inside hb hh (.brace hi .nil)
  by_cases hc : c = '}'
  · subst hc
    cases depth with
    | succ depth =>
        rw [move_close rfl] at h
        cases h
        rw [hstill]
        exact .inside hb hh hi.close
    | zero =>
        obtain ⟨hbody⟩ := hi
        have hpos : ¬ m.size (before ++ head ++ '{' :: inner) ≤ m.size (before ++ head) := by
          simp only [m.size_append, m.size_cons, m.width_open]
          omega
        have hstart : m.size (before ++ head ++ '{' :: inner) + 1 =
            m.size (before ++ blockText head inner) := by
          simp [blockText, m.width_open, m.width_close]
          omega
        rw [Cursor.move, if_neg ho, if_pos rfl] at h
        simp only [Nat.lt_irrefl, if_false, if_neg hpos, hstart] at h
        cases h
        have hnext := Tracks.outside (m := m) (m.size (before ++ head)) (hb.block hh hbody) plain_nil
        simpa [blockText] using hnext
  · rw [move_inert ho hc (.inr (Nat.succ_ne_zero depth))] at h
    cases h
    rw [hstill]
    exact .inside hb hh (hi.append (.char ho hc .nil))

/-- One character keeps the cursor where it should be. -/
theorem Tracks.step (ht : Tracks m done cur)
    (h : cur.move text (m.size done) c = .go piece next) : Tracks m (done ++ [c]) next := by
  cases ht with
  | outside opened hb hw => exact Tracks.step_outside hb hw h
  | inside hb hh hi => exact Tracks.step_inside hb hh hi h

/-- Wherever the scan has come, its cursor is where it should be. -/
theorem Scanning.tracks (h : Scanning m text done cur) : Tracks m done cur := by
  induction h with
  | start => exact .outside 0 .nil plain_nil
  | step _ _ hmove ih => exact ih.step hmove

end Step

/-! ### What is cut out -/

/-- What is to be said about a cursor behind `done`: its positions are in order, it counts the braces
that are open, and at a comma or brace that completes a piece, the parts that are cut out of the text
are slices of it. They are the parts of a piece of the outline. -/
structure IsSafe (m : Measure) (text done : List Char) (cur : Cursor) : Prop where
  start_le : cur.start ≤ m.size done
  opened_lt : cur.depth ≠ 0 → cur.start ≤ cur.opened ∧ cur.opened < m.size done
  leavesOpen : LeavesOpen cur.depth done
  field : ∀ rest, text = done ++ ',' :: rest → cur.depth = 0 →
    ∃ w, .field w ∈ (scan text).pieces ∧ IsSlice m text cur.start (m.size done) w
  block : ∀ rest, text = done ++ '}' :: rest → cur.depth = 1 →
    ∃ head body, .block head body ∈ (scan text).pieces ∧
      IsSlice m text cur.start cur.opened head ∧
      IsSlice m text (cur.opened + 1) (m.size done) body ∧
      IsSlice m text cur.start (m.size done + 1) (blockText head body)

section Safe

variable {m : Measure} {text before head inner w : List Char} {depth : Nat}

theorem isSafe_outside (hb : Passed before) (hw : Plain w) (opened : Nat) :
    IsSafe m text (before ++ w) ⟨m.size before, opened, 0⟩ where
  start_le := by simp
  opened_lt := fun h => absurd rfl h
  leavesOpen := .none (hb.balanced.append hw.balanced)
  field := by
    intro rest htext _
    refine ⟨w, ?_, before, ',' :: rest, htext, rfl, rfl⟩
    rw [htext, List.append_assoc]
    apply hb.pieces_subset
    rw [scan_field hw]
    exact List.mem_cons_self
  block := fun rest _ h => absurd h (by simp)

theorem isSafe_inside (hb : Passed before) (hh : Plain head) (hi : LeavesOpen depth inner) :
    IsSafe m text (before ++ head ++ '{' :: inner)
      ⟨m.size before, m.size (before ++ head), depth + 1⟩ where
  start_le := by
    show m.size before ≤ _
    simp only [m.size_append]
    omega
  opened_lt := by
    intro _
    show m.size before ≤ m.size (before ++ head) ∧ m.size (before ++ head) < _
    simp only [m.size_append, m.size_cons, m.width_open]
    omega
  leavesOpen := hi.behind (hb.balanced.append hh.balanced)
  field := fun rest _ h => absurd h (by simp)
  block := by
    intro rest htext hdepth
    obtain rfl : depth = 0 := by simpa using hdepth
    obtain ⟨hbody⟩ := hi
    refine ⟨head, inner, ?_, ⟨before, '{' :: inner ++ '}' :: rest, ?_, rfl, rfl⟩,
      ⟨before ++ head ++ ['{'], '}' :: rest, ?_, ?_, ?_⟩, ⟨before, rest, ?_, rfl, ?_⟩⟩
    · have htext' : text = before ++ (head ++ '{' :: inner ++ '}' :: rest) := by simp [htext]
      rw [htext']
      apply hb.pieces_subset
      rw [scan_block hh hbody]
      exact List.mem_cons_self
    · simp [htext]
    · simp [htext]
    · simp [m.width_open, Nat.add_assoc]
    · simp [m.width_open]
    · simp [htext, blockText]
    · simp only [blockText, m.size_append, m.size_cons, m.size_nil, m.width_close]
      omega

theorem Scanning.isSafe {done : List Char} {cur : Cursor} (h : Scanning m text done cur) :
    IsSafe m text done cur := by
  cases h.tracks with
  | outside opened hb hw => exact isSafe_outside hb hw opened
  | inside hb hh hi => exact isSafe_inside hb hh hi

end Safe

/-! ### Which faults are reported -/

/-- The faults that can stand beneath the context of a field, or by themselves. A key is never
missing, and the scan does not contradict itself. -/
inductive Fault.IsRoot : Fault → Prop
  | wordCount (segment : String) : IsRoot (.wrongWordCount segment)
  | tag (tag : String) : IsRoot (.unknownTag tag)
  | element (segment : String) : IsRoot (.missingElement segment)
  | unnamed (block : String) : IsRoot (.unnamedBlock block)
  | unbalanced (text : String) : IsRoot (.unbalanced text)
  | tooDeep (limit : Nat) (text : String) : IsRoot (.tooDeep limit text)

/-- A fault without context, or in the context of one field whose type is at fault. -/
inductive Fault.InOneField : Fault → Prop
  | bare {fault : Fault} : fault.rootCause = fault → InOneField fault
  | tag (segment key tag word : String) : InOneField (.inField segment key tag (.unknownTag word))
  | element (segment key tag word : String) :
      InOneField (.inField segment key tag (.missingElement word))

theorem Fault.IsLocal.isRoot {fault : Fault} (h : fault.IsLocal) :
    fault.rootCause.IsRoot ∧ fault.InOneField := by
  cases h with
  | wordCount segment => exact ⟨.wordCount segment, .bare rfl⟩
  | element segment => exact ⟨.element segment, .bare rfl⟩
  | tag segment key tag word => exact ⟨.tag word, .tag segment key tag word⟩
  | arrayTag segment key tag word => exact ⟨.element word, .element segment key tag word⟩
  | unnamed block => exact ⟨.unnamed block, .bare rfl⟩

theorem Origin.isRoot {limit levels : Nat} {text : List Char} {fault : Fault}
    (h : Origin limit levels text fault) : fault.rootCause.IsRoot ∧ fault.InOneField := by
  cases h with
  | tooDeep text => exact ⟨.tooDeep _ _, .bare rfl⟩
  | unbalanced _ => exact ⟨.unbalanced _, .bare rfl⟩
  | field _ hread => exact (Field.isLocal_of_read hread).isRoot
  | unnamed _ => exact (Fault.IsLocal.unnamed _).isRoot
  | head _ hread => exact (Field.isLocal_of_read hread).isRoot
  | notMap _ _ _ => exact (Fault.IsLocal.tag _ _ _ _).isRoot

/-- The scan of every text that is visited is safe at each of its steps, whether positions count
characters, as `scanFrom` does, or bytes. What is cut out by bytes lies in order between boundaries of
characters. So the scan reports no fault of its own: what is reported is one of six faults, and only
that of a tag or of a missing element may stand in the context of a field. -/
theorem parse_safe (limit : Nat) (text : String) :
    (∀ levels inner, Visits (limit + 1) text.toList (levels + 1) inner →
      (∀ m done cur, Scanning m (trim inner ++ [',']) done cur →
        IsSafe m (trim inner ++ [',']) done cur) ∧
      (∀ done rest cur, Scanning .characters (trim inner ++ [',']) done cur →
        trim inner ++ [','] = done ++ rest →
        (scanFrom (trim inner ++ [',']) done.length cur rest).pieces <:+
            (outline (trim inner)).pieces ∧
          (scanFrom (trim inner ++ [',']) done.length cur rest).ending =
            (outline (trim inner)).ending)) ∧
    (∀ scanned lo hi part, IsSlice .bytes scanned lo hi part →
      lo ≤ hi ∧ hi ≤ (String.ofList scanned).utf8ByteSize ∧
      (⟨lo⟩ : String.Pos.Raw).IsValid (String.ofList scanned) ∧
      (⟨hi⟩ : String.Pos.Raw).IsValid (String.ofList scanned)) ∧
    (∀ fault, parse limit text = .error fault →
      fault.rootCause.IsRoot ∧ fault.InOneField) := by
  refine ⟨?_, ?_, ?_⟩
  · intro levels inner _
    exact ⟨fun m done cur h => h.isSafe, fun done rest cur h htext => h.scanFrom_suffix htext⟩
  · intro scanned lo hi part h
    obtain ⟨hle, hend⟩ := h.le
    rw [Measure.size_bytes] at hend
    exact ⟨hle, hend, h.isValid⟩
  · intro fault h
    obtain ⟨levels, inner, -, ho⟩ := exists_origin h
    exact ho.isRoot

/-- A block behind a head of two bytes, at the brace that closes it, and the fault of its body. -/
theorem parse_safe_two_byte_head :
    let text := "ü{a},".toList
    Scanning .bytes text ['ü', '{', 'a'] ⟨0, 2, 1⟩ ∧
    (∃ head body, .block head body ∈ (scan text).pieces ∧ IsSlice .bytes text 0 2 head ∧
      (IsSlice .bytes text 3 4 body ∧ (⟨3⟩ : String.Pos.Raw).IsValid (String.ofList text)) ∧
      IsSlice .bytes text 0 5 (blockText head body)) ∧
    parse 0 "ü{a}" = .error (.tooDeep 0 "a") ∧ (Fault.tooDeep 0 "a").rootCause.IsRoot := by
  intro text
  have htext : trim "ü{a}".toList ++ [','] = text := by decide
  have hhead : Scanning .bytes text ['ü'] {} :=
    @Scanning.step .bytes text [] 'ü' _ {} none {} .start rfl rfl
  have hopen : Scanning .bytes text ['ü', '{'] ⟨0, 2, 1⟩ :=
    @Scanning.step .bytes text ['ü'] '{' _ {} none ⟨0, 2, 1⟩ hhead rfl rfl
  have hbody : Scanning .bytes text ['ü', '{', 'a'] ⟨0, 2, 1⟩ :=
    @Scanning.step .bytes text ['ü', '{'] 'a' _ _ none ⟨0, 2, 1⟩ hopen rfl rfl
  have hdeep : parse 0 "ü{a}" = .error (.tooDeep 0 "a") := by decide +kernel
  obtain ⟨hscan, hslice, hfault⟩ := parse_safe 0 "ü{a}"
  have hsafe := (hscan 0 _ (.self 1 _)).1 .bytes
  rw [htext] at hsafe
  obtain ⟨head, body, hmem, hslices⟩ := (hsafe _ _ hbody).block [','] rfl rfl
  refine ⟨hbody, ⟨head, body, hmem, hslices.1, ⟨hslices.2.1, ?_⟩, hslices.2.2⟩, hdeep, ?_⟩
  · exact (hslice text _ _ _ hslices.2.1).2.2.1
  · exact (hfault _ hdeep).1

end RecordSchema.Declaration
