import Mathlib.Data.List.DropRight
import RecordSchema.Text.Blank

/-!
# Laws of trimming and of words

`trimBy` and `words` are computed by dropping and splitting. Their users need laws instead:

* trimming ignores what may be dropped at either end (`trimBy_append_append`), and leaves a text
  alone that has nothing to drop there (`trimBy_eq_self`);
* a blank between two texts separates their words (`words_append_cons`), which gives the words of
  every text that is put together from words and blanks;
* every text is put together in this way, from its words (`words_eq_iff`).
-/

namespace RecordSchema.Text

/-- A text of blanks only, possibly empty. -/
def Blank (cs : List Char) : Prop := ∀ c ∈ cs, isBlank c = true

/-- A text without any blank. -/
def BlankFree (cs : List Char) : Prop := ∀ c ∈ cs, isBlank c = false

instance (cs : List Char) : Decidable (Blank cs) := List.decidableBAll _ cs

instance (cs : List Char) : Decidable (BlankFree cs) := List.decidableBAll _ cs

theorem Blank.append {g h : List Char} (hg : Blank g) (hh : Blank h) : Blank (g ++ h) := by
  intro c hc
  rcases List.mem_append.mp hc with hc | hc
  · exact hg c hc
  · exact hh c hc

theorem Blank.of_cons {c : Char} {g : List Char} (h : Blank (c :: g)) :
    isBlank c = true ∧ Blank g :=
  ⟨h c (by simp), fun d hd => h d (by simp [hd])⟩

theorem blank_takeWhile (cs : List Char) : Blank (cs.takeWhile isBlank) :=
  fun _ hc => List.mem_takeWhile_imp hc

/-! ### Trimming -/

section TrimBy

variable {p : Char → Bool}

theorem trimBy_eq_rdropWhile (cs : List Char) : trimBy p cs = (cs.dropWhile p).rdropWhile p := rfl

theorem trimBy_append_left {lead : List Char} (h : ∀ c ∈ lead, p c = true) (cs : List Char) :
    trimBy p (lead ++ cs) = trimBy p cs := by
  rw [trimBy, trimBy, List.dropWhile_append_of_pos h]

theorem trimBy_append_right {trail : List Char} (h : ∀ c ∈ trail, p c = true) (cs : List Char) :
    trimBy p (cs ++ trail) = trimBy p cs := by
  have htrail : trail.dropWhile p = [] := List.dropWhile_eq_nil_iff.mpr h
  rw [trimBy, trimBy, List.dropWhile_append]
  -- the trail is dropped from the front, if all of `cs` is, and from the back otherwise
  split
  · next hcs =>
      rw [htrail, List.isEmpty_iff.mp hcs]
  · rw [List.reverse_append, List.dropWhile_append_of_pos (by simpa using h)]

/-- Trimming does not see what it may drop at the ends. -/
theorem trimBy_append_append {lead trail : List Char} (hl : ∀ c ∈ lead, p c = true)
    (ht : ∀ c ∈ trail, p c = true) (cs : List Char) :
    trimBy p (lead ++ cs ++ trail) = trimBy p cs := by
  rw [trimBy_append_right ht, trimBy_append_left hl]

theorem trimBy_eq_nil_iff {cs : List Char} : trimBy p cs = [] ↔ ∀ c ∈ cs, p c = true := by
  rw [trimBy_eq_rdropWhile, List.rdropWhile_eq_nil_iff]
  constructor
  · intro h
    have hnil : cs.dropWhile p = [] := by
      cases hd : cs.dropWhile p with
      | nil => rfl
      | cons c rest =>
          have hnot := List.head?_dropWhile_not p cs
          rw [hd] at hnot h
          simp [h c (by simp)] at hnot
    exact List.dropWhile_eq_nil_iff.mp hnil
  · intro h
    rw [List.dropWhile_eq_nil_iff.mpr h]
    simp

/-- A text that has nothing to drop at its ends is its own trimming. -/
theorem trimBy_eq_self {cs : List Char} (hh : ∀ c, cs.head? = some c → p c = false)
    (hl : ∀ c, cs.getLast? = some c → p c = false) : trimBy p cs = cs := by
  have hdrop : cs.dropWhile p = cs := by
    cases cs with
    | nil => rfl
    | cons c rest => rw [List.dropWhile_cons_of_neg (by simp [hh c rfl])]
  rw [trimBy_eq_rdropWhile, hdrop, List.rdropWhile_eq_self_iff]
  intro hne
  simp [hl _ (List.getLast?_eq_some_getLast hne)]

/-- A text is its trimming with something droppable on both sides. -/
theorem exists_eq_append_trimBy (p : Char → Bool) (cs : List Char) :
    ∃ lead trail, (∀ c ∈ lead, p c = true) ∧ (∀ c ∈ trail, p c = true) ∧
      cs = lead ++ trimBy p cs ++ trail := by
  refine ⟨cs.takeWhile p, (cs.dropWhile p).rtakeWhile p, fun c hc => List.mem_takeWhile_imp hc,
    fun c hc => List.mem_rtakeWhile_imp hc, ?_⟩
  rw [trimBy_eq_rdropWhile, List.append_assoc, List.rdropWhile_append_rtakeWhile,
    List.takeWhile_append_dropWhile]

theorem trimBy_isInfix (p : Char → Bool) (cs : List Char) : trimBy p cs <:+: cs := by
  obtain ⟨lead, trail, -, -, hcs⟩ := exists_eq_append_trimBy p cs
  exact ⟨lead, trail, hcs.symm⟩

theorem eq_false_of_mem_head?_trimBy {cs : List Char} {c : Char} (h : c ∈ (trimBy p cs).head?) :
    p c = false := by
  obtain ⟨rest, hrest⟩ := List.head?_eq_some_iff.mp h
  -- what is left begins like the text behind its droppable front
  have hpre : c :: rest <+: cs.dropWhile p := by
    rw [← hrest, trimBy_eq_rdropWhile]
    exact List.rdropWhile_prefix _ _
  obtain ⟨more, hmore⟩ := hpre
  have hnot := List.head?_dropWhile_not p cs
  rw [← hmore] at hnot
  simpa using hnot

theorem eq_false_of_mem_getLast?_trimBy {cs : List Char} {c : Char}
    (h : c ∈ (trimBy p cs).getLast?) : p c = false := by
  obtain ⟨hne, rfl⟩ := List.mem_getLast?_eq_getLast h
  exact Bool.eq_false_iff.mpr (List.rdropWhile_last_not p (cs.dropWhile p) hne)

end TrimBy

theorem trim_append_left {lead : List Char} (h : Blank lead) (cs : List Char) :
    trim (lead ++ cs) = trim cs := trimBy_append_left h cs

theorem trim_append_right {trail : List Char} (h : Blank trail) (cs : List Char) :
    trim (cs ++ trail) = trim cs := trimBy_append_right h cs

theorem trim_eq_nil_iff {cs : List Char} : trim cs = [] ↔ Blank cs := trimBy_eq_nil_iff

/-- A text without blanks at its ends is its own trimming. -/
theorem trim_eq_self {cs : List Char} (hh : ∀ c, cs.head? = some c → isBlank c = false)
    (hl : ∀ c, cs.getLast? = some c → isBlank c = false) : trim cs = cs := trimBy_eq_self hh hl

theorem BlankFree.trim_eq_self {cs : List Char} (h : BlankFree cs) : trim cs = cs :=
  Text.trim_eq_self (fun c hc => h c (List.mem_of_mem_head? hc))
    (fun c hc => h c (List.mem_of_getLast? hc))

/-- A text that begins and ends with something other than a blank. -/
structure Snug (cs : List Char) : Prop where
  head : ∃ c ∈ cs.head?, isBlank c = false
  last : ∃ c ∈ cs.getLast?, isBlank c = false

theorem Snug.trim_eq_self {cs : List Char} (h : Snug cs) : trim cs = cs := by
  obtain ⟨c, hc, hcb⟩ := h.head
  obtain ⟨d, hd, hdb⟩ := h.last
  apply Text.trim_eq_self
  · intro c' hc'
    obtain rfl := Option.mem_unique hc hc'
    exact hcb
  · intro d' hd'
    obtain rfl := Option.mem_unique hd hd'
    exact hdb

theorem BlankFree.snug {w : List Char} (h : BlankFree w) (hne : w ≠ []) : Snug w :=
  ⟨⟨w.head hne, List.head?_eq_some_head hne, h _ (List.head_mem hne)⟩,
    ⟨w.getLast hne, List.getLast?_eq_some_getLast hne, h _ (List.getLast_mem hne)⟩⟩

/-- Only the two ends matter. -/
theorem Snug.append {front back : List Char} (hf : Snug front) (hb : Snug back)
    (middle : List Char) : Snug (front ++ (middle ++ back)) := by
  obtain ⟨c, hc, hcb⟩ := hf.head
  obtain ⟨d, hd, hdb⟩ := hb.last
  exact ⟨⟨c, by simp_all, hcb⟩, ⟨d, by simp_all [List.getLast?_append], hdb⟩⟩

/-- What stands behind the blanks in front also stands in front after trimming. -/
theorem head?_trim {lead : List Char} (h : Blank lead) {c : Char} (hc : isBlank c = false)
    (rest : List Char) : (trim (lead ++ c :: rest)).head? = some c := by
  have hdrop : (c :: rest).dropWhile isBlank = c :: rest :=
    List.dropWhile_cons_of_neg (by simp [hc])
  have hpre : trim (c :: rest) <+: c :: rest := by
    rw [trim, trimBy_eq_rdropWhile, hdrop]
    exact List.rdropWhile_prefix _ _
  have hne : trim (c :: rest) ≠ [] := by
    rw [ne_eq, trim_eq_nil_iff]
    intro hblank
    rw [hblank.of_cons.1] at hc
    cases hc
  rw [trim_append_left h]
  -- what is left is the beginning of `c :: rest`, and more than nothing
  obtain ⟨d, ds, hd⟩ := List.exists_cons_of_ne_nil hne
  obtain ⟨more, hmore⟩ := hpre
  rw [hd, List.cons_append] at hmore
  rw [hd, (List.cons.inj hmore).1]
  rfl

/-! ### Words -/

@[simp] theorem words_nil : words [] = [] := rfl

theorem BlankFree.words_eq {w : List Char} (h : BlankFree w) (hne : w ≠ []) : words w = [w] := by
  rw [words, List.splitOnP_eq_singleton h]
  simp [hne]

/-- A blank separates the words before it from the words after it. -/
theorem words_append_cons (xs ys : List Char) {b : Char} (hb : isBlank b = true) :
    words (xs ++ b :: ys) = words xs ++ words ys := by
  rw [words, List.splitOnP_append_cons xs ys hb, List.filter_append]
  rfl

/-- Blanks in front hold no words. -/
theorem words_append_left {g : List Char} (hg : Blank g) (cs : List Char) :
    words (g ++ cs) = words cs := by
  induction g with
  | nil => rfl
  | cons b g ih =>
      obtain ⟨hb, hg⟩ := hg.of_cons
      rw [List.cons_append, ← List.nil_append (b :: (g ++ cs)), words_append_cons _ _ hb, ih hg]
      rfl

/-- Nor do blanks at the end. -/
theorem words_append_right {g : List Char} (hg : Blank g) (cs : List Char) :
    words (cs ++ g) = words cs := by
  cases g with
  | nil => rw [List.append_nil]
  | cons b g =>
      obtain ⟨hb, hg⟩ := hg.of_cons
      have hnil : words g = [] := by simpa using words_append_left hg []
      rw [words_append_cons _ _ hb, hnil, List.append_nil]

theorem words_trim (cs : List Char) : words (trim cs) = words cs := by
  obtain ⟨lead, trail, hl, ht, hcs⟩ := exists_eq_append_trimBy isBlank cs
  have h : words (lead ++ trim cs ++ trail) = words (trim cs) := by
    rw [words_append_right ht, words_append_left hl]
  rw [← h]
  exact congrArg words hcs.symm

/-- Two words with blanks between and around them. -/
theorem words_pair {lead gap trail v w : List Char} (hl : Blank lead) (hg : Blank gap)
    (ht : Blank trail) (hgap : gap ≠ []) (hv : BlankFree v) (hv' : v ≠ []) (hw : BlankFree w)
    (hw' : w ≠ []) : words (lead ++ v ++ gap ++ w ++ trail) = [v, w] := by
  obtain ⟨b, gap, rfl⟩ := List.exists_cons_of_ne_nil hgap
  obtain ⟨hb, hg⟩ := hg.of_cons
  -- one blank of the gap separates the words, the others stand in front of the second
  rw [words_append_right ht, List.append_assoc, List.append_assoc, words_append_left hl,
    List.cons_append, words_append_cons _ _ hb, words_append_left hg, hv.words_eq hv',
    hw.words_eq hw']
  rfl

/-- One word with blanks around it. -/
theorem words_single {lead trail w : List Char} (hl : Blank lead) (ht : Blank trail)
    (hw : BlankFree w) (hw' : w ≠ []) : words (lead ++ w ++ trail) = [w] := by
  rw [words_append_right ht, words_append_left hl, hw.words_eq hw']

/-- What a split yields holds no separator, and nothing that was not there. -/
theorem mem_of_mem_splitOnP {p : Char → Bool} {cs w : List Char} (h : w ∈ cs.splitOnP p) :
    ∀ c ∈ w, p c = false ∧ c ∈ cs := by
  induction cs generalizing w with
  | nil => simp_all
  | cons x xs ih =>
      -- `x` either separates, or belongs to the first part of the rest
      rw [List.splitOnP_cons_eq_if_modifyHead] at h
      split at h
      · rcases List.mem_cons.mp h with rfl | h
        · simp
        · intro c hc
          exact ⟨(ih h c hc).1, List.mem_cons_of_mem _ (ih h c hc).2⟩
      · next hx =>
          obtain ⟨first, rest, hsplit⟩ := List.exists_cons_of_ne_nil (List.splitOnP_ne_nil p xs)
          rw [hsplit, List.modifyHead_cons] at h
          intro c hc
          rcases List.mem_cons.mp h with rfl | h
          · rcases List.mem_cons.mp hc with rfl | hc
            · exact ⟨by simpa using hx, List.mem_cons_self⟩
            · have hmem : first ∈ xs.splitOnP p := hsplit ▸ List.mem_cons_self
              exact ⟨(ih hmem c hc).1, List.mem_cons_of_mem _ (ih hmem c hc).2⟩
          · have hmem : w ∈ xs.splitOnP p := hsplit ▸ List.mem_cons_of_mem _ h
            exact ⟨(ih hmem c hc).1, List.mem_cons_of_mem _ (ih hmem c hc).2⟩

/-- A word is not empty, has no blank, and consists of characters of the text. -/
theorem mem_words {cs w : List Char} (h : w ∈ words cs) :
    w ≠ [] ∧ BlankFree w ∧ ∀ c ∈ w, c ∈ cs := by
  obtain ⟨hmem, hne⟩ := List.mem_filter.mp h
  exact ⟨by simpa using hne, fun c hc => (mem_of_mem_splitOnP hmem c hc).1,
    fun c hc => (mem_of_mem_splitOnP hmem c hc).2⟩

/-- A word ends at the first blank behind it. -/
theorem BlankFree.words_append {w rest : List Char} (h : BlankFree w) (hne : w ≠ [])
    (hrest : ∀ c ∈ rest.head?, isBlank c = true) : words (w ++ rest) = w :: words rest := by
  cases rest with
  | nil => rw [List.append_nil, h.words_eq hne, words_nil]
  | cons b rest =>
      have hb : isBlank b = true := hrest b rfl
      rw [words_append_cons _ _ hb, h.words_eq hne, ← List.nil_append (b :: rest),
        words_append_cons _ _ hb]
      rfl

/-- A text is cut where a class of characters ends. -/
theorem exists_split_of_class (p : Char → Bool) (cs : List Char) :
    ∃ front rest, cs = front ++ rest ∧ (∀ c ∈ front, p c = true) ∧
      ∀ c ∈ rest.head?, p c = false := by
  refine ⟨cs.takeWhile p, cs.dropWhile p, List.takeWhile_append_dropWhile.symm,
    fun c hc => List.mem_takeWhile_imp hc, ?_⟩
  intro c hc
  have hnot := List.head?_dropWhile_not p cs
  rwa [Option.mem_def.mp hc] at hnot

/-! ### A text as words and blanks -/

/-- `Separated ws cs`: the text is these words in order, with blanks around them and at least one
blank between a word and the next. -/
inductive Separated : List (List Char) → List Char → Prop
  | nil {gap : List Char} : Blank gap → Separated [] gap
  | cons {gap word rest : List Char} {ws : List (List Char)} : Blank gap → word ≠ [] →
      BlankFree word → (∀ c ∈ rest.head?, isBlank c = true) → Separated ws rest →
      Separated (word :: ws) (gap ++ word ++ rest)

theorem Separated.words_eq {ws : List (List Char)} {cs : List Char} (h : Separated ws cs) :
    words cs = ws := by
  induction h with
  | nil hgap => simpa using words_append_left hgap []
  | cons hgap hne hfree hrest _ ih =>
      rw [List.append_assoc, words_append_left hgap, hfree.words_append hne hrest, ih]

/-- A text is blank, or it begins with blanks and a word. -/
theorem blank_or_exists_word (cs : List Char) :
    Blank cs ∨ ∃ gap word rest, cs = gap ++ word ++ rest ∧ Blank gap ∧ word ≠ [] ∧
      BlankFree word ∧ ∀ c ∈ rest.head?, isBlank c = true := by
  obtain ⟨gap, body, rfl, hgap, hbody⟩ := exists_split_of_class isBlank cs
  cases body with
  | nil =>
      left
      rwa [List.append_nil]
  | cons first body =>
      obtain ⟨word, rest, hsplit, hword, hrest⟩ :=
        exists_split_of_class (fun c => !isBlank c) (first :: body)
      right
      refine ⟨gap, word, rest, ?_, hgap, ?_, ?_, ?_⟩
      · rw [hsplit, List.append_assoc]
      · rintro rfl
        -- then the rest would begin with a blank and without one
        have hblank := hrest first (by rw [← List.nil_append rest, ← hsplit]; rfl)
        rw [hbody first rfl] at hblank
        cases hblank
      · intro c hc
        simpa using hword c hc
      · intro c hc
        simpa using hrest c hc

theorem separated_words (cs : List Char) : Separated (words cs) cs := by
  induction hn : cs.length using Nat.strongRecOn generalizing cs with
  | _ n ih =>
    rcases blank_or_exists_word cs with hblank | ⟨gap, word, rest, rfl, hgap, hne, hfree, hrest⟩
    · rw [(Separated.nil hblank).words_eq]
      exact .nil hblank
    · have hpos : 0 < word.length := List.length_pos_iff.mpr hne
      have hlt : rest.length < n := by
        rw [← hn, List.length_append, List.length_append]
        omega
      have hsep : Separated (word :: words rest) (gap ++ word ++ rest) :=
        .cons hgap hne hfree hrest (ih rest.length hlt rest rfl)
      rwa [hsep.words_eq]

/-- The words of a text are those that it is put together from. -/
theorem words_eq_iff {cs : List Char} {ws : List (List Char)} : words cs = ws ↔ Separated ws cs := by
  constructor
  · rintro rfl
    exact separated_words cs
  · exact Separated.words_eq

theorem Separated.isWord {ws : List (List Char)} {cs w : List Char} (h : Separated ws cs)
    (hmem : w ∈ ws) : w ≠ [] ∧ BlankFree w := by
  rw [← h.words_eq] at hmem
  obtain ⟨hne, hfree, -⟩ := mem_words hmem
  exact ⟨hne, hfree⟩

/-- The first word of a text has blanks in front of it, and a blank or nothing behind it. -/
theorem exists_of_words_eq_cons {cs w : List Char} {ws : List (List Char)}
    (h : words cs = w :: ws) :
    ∃ lead rest, Blank lead ∧ cs = lead ++ w ++ rest ∧ words rest = ws ∧
      ∀ c ∈ rest.head?, isBlank c = true := by
  cases words_eq_iff.mp h with
  | cons hgap _ _ hrest hsep => exact ⟨_, _, hgap, rfl, hsep.words_eq, hrest⟩

/-- A word stands in the text as it is. -/
theorem infix_of_mem_words {cs w : List Char} (h : w ∈ words cs) : w <:+: cs := by
  induction hws : words cs generalizing cs with
  | nil => simp [hws] at h
  | cons first ws ih =>
      obtain ⟨lead, rest, -, rfl, hrest, -⟩ := exists_of_words_eq_cons hws
      rw [hws] at h
      rcases List.mem_cons.mp h with rfl | h
      · exact ⟨lead, rest, rfl⟩
      · exact (ih (hrest ▸ h) hrest).trans (List.suffix_append _ _).isInfix

/-- If a second word follows, the first does not change by what is appended. -/
theorem head?_words_append {cs v w : List Char} {ws : List (List Char)}
    (h : words cs = v :: w :: ws) (more : List Char) : (words (cs ++ more)).head? = some v := by
  have hv := mem_words (h ▸ List.mem_cons_self : v ∈ words cs)
  obtain ⟨lead, rest, hlead, rfl, hrest, hblank⟩ := exists_of_words_eq_cons h
  cases rest with
  | nil => cases hrest
  | cons b rest =>
      have hb : ∀ c ∈ (b :: rest ++ more).head?, isBlank c = true := hblank
      rw [List.append_assoc, List.append_assoc, words_append_left hlead,
        hv.2.1.words_append hv.1 hb]
      rfl

end RecordSchema.Text
