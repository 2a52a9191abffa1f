/-!
# Texts with braces

Declarations nest by braces. Three kinds of text matter to whoever looks for the end of a block:

* `Plain` text has neither commas nor braces;
* `Balanced` text closes every brace that it opens, and no other;
* `Unclosed` text, standing behind an open brace, never closes it.

Every text is plain up to its first comma or brace, and what follows is one of four things. This is
`pieceInduction`, the way in which all facts about cutting up a declaration are proved. With it, to
be balanced is a matter of counting (`balanced_iff_wellNested`), and a balanced front can be cut off
from a balanced text (`Balanced.of_append`).
-/

namespace RecordSchema.Declaration

/-- A text without commas and braces. -/
def Plain (cs : List Char) : Prop := ∀ c ∈ cs, c ≠ ',' ∧ c ≠ '{' ∧ c ≠ '}'

instance (cs : List Char) : Decidable (Plain cs) := List.decidableBAll _ cs

/-- A text in which the braces match. -/
inductive Balanced : List Char → Prop
  | nil : Balanced []
  | char {c cs} : c ≠ '{' → c ≠ '}' → Balanced cs → Balanced (c :: cs)
  | block {inner cs} : Balanced inner → Balanced cs → Balanced ('{' :: inner ++ '}' :: cs)

/-- A text that leaves a brace open that was opened before it. -/
def Unclosed (text : List Char) : Prop :=
  ∀ body rest, Balanced body → text ≠ body ++ '}' :: rest

/-! ### Plain and balanced texts -/

@[simp] theorem plain_nil : Plain [] := by simp [Plain]

@[simp] theorem plain_cons {c : Char} {cs : List Char} :
    Plain (c :: cs) ↔ (c ≠ ',' ∧ c ≠ '{' ∧ c ≠ '}') ∧ Plain cs := by simp [Plain]

@[simp] theorem plain_append {cs ds : List Char} : Plain (cs ++ ds) ↔ Plain cs ∧ Plain ds :=
  List.forall_mem_append

theorem Plain.balanced_append {w cs : List Char} (hw : Plain w) (hcs : Balanced cs) :
    Balanced (w ++ cs) := by
  induction w with
  | nil => exact hcs
  | cons c w ih =>
      obtain ⟨⟨-, ho, hc⟩, hw⟩ := plain_cons.mp hw
      exact .char ho hc (ih hw)

theorem Plain.balanced {w : List Char} (hw : Plain w) : Balanced w := by
  simpa using hw.balanced_append .nil

theorem Plain.balanced_field {w : List Char} (hw : Plain w) : Balanced (w ++ [',']) :=
  hw.balanced_append (.char (by decide) (by decide) .nil)

theorem Plain.balanced_block {head body : List Char} (hh : Plain head) (hb : Balanced body) :
    Balanced (head ++ '{' :: body ++ ['}']) := by
  rw [List.append_assoc]
  exact hh.balanced_append (.block hb .nil)

/-! ### Unclosed texts -/

theorem Unclosed.of_cons {c : Char} {text : List Char} (h : Unclosed (c :: text)) (ho : c ≠ '{')
    (hc : c ≠ '}') : Unclosed text := by
  rintro body rest hb rfl
  exact h (c :: body) rest (.char ho hc hb) rfl

theorem exists_of_not_unclosed {text : List Char} (h : ¬Unclosed text) :
    ∃ body after, Balanced body ∧ text = body ++ '}' :: after := by
  simpa [Unclosed] using h

theorem Unclosed.ne_closing {c : Char} {text : List Char} (h : Unclosed (c :: text)) : c ≠ '}' := by
  rintro rfl
  exact h [] text .nil rfl

/-- If a block inside is closed, what follows it is to blame. -/
theorem Unclosed.of_block {inner rest : List Char} (hin : Balanced inner)
    (h : Unclosed ('{' :: (inner ++ '}' :: rest))) : Unclosed rest := by
  rintro body after hb rfl
  exact h ('{' :: inner ++ '}' :: body) after (.block hin hb) (by simp)

/-- Characters other than braces at its end do not close a text. -/
theorem Unclosed.append {text trail : List Char} (h : Unclosed text) (ht : '}' ∉ trail) :
    Unclosed (text ++ trail) := by
  intro body rest hb heq
  -- the brace that closes would stand in the trail, or in the text itself
  rcases List.append_eq_append_iff.mp heq with ⟨more, -, htrail⟩ | ⟨more, htext, hrest⟩
  · exact ht (by simp [htrail])
  · cases more with
    | nil =>
        rw [List.nil_append] at hrest
        exact ht (hrest ▸ List.mem_cons_self)
    | cons c more =>
        obtain ⟨rfl, -⟩ := List.cons.inj hrest
        exact h body more hb htext

/-! ### How deep braces nest -/

/-- The greatest number of braces that are open at one point of a text, with so many open before
it. -/
def nestingFrom : (opened : Nat) → List Char → Nat
  | opened, [] => opened
  | opened, c :: cs =>
      max opened
        (nestingFrom (if c = '{' then opened + 1 else if c = '}' then opened - 1 else opened) cs)

/-- How deep the braces of a text nest. -/
def nesting (text : List Char) : Nat := nestingFrom 0 text

theorem le_nestingFrom (opened : Nat) (cs : List Char) : opened ≤ nestingFrom opened cs := by
  cases cs with
  | nil => exact Nat.le_refl _
  | cons c cs => exact Nat.le_max_left _ _

theorem nestingFrom_cons {c : Char} (ho : c ≠ '{') (hc : c ≠ '}') (opened : Nat) (cs : List Char) :
    nestingFrom opened (c :: cs) = nestingFrom opened cs := by
  rw [nestingFrom, if_neg ho, if_neg hc]
  exact Nat.max_eq_right (le_nestingFrom opened cs)

theorem nestingFrom_open (opened : Nat) (cs : List Char) :
    nestingFrom opened ('{' :: cs) = nestingFrom (opened + 1) cs := by
  rw [nestingFrom, if_pos rfl]
  have := le_nestingFrom (opened + 1) cs
  omega

theorem nestingFrom_close (opened : Nat) (cs : List Char) :
    nestingFrom (opened + 1) ('}' :: cs) = max (opened + 1) (nestingFrom opened cs) := by
  rw [nestingFrom, if_neg (by decide), if_pos rfl, Nat.add_sub_cancel]

theorem nestingFrom_plain {w : List Char} (hw : Plain w) (opened : Nat) (cs : List Char) :
    nestingFrom opened (w ++ cs) = nestingFrom opened cs := by
  induction w with
  | nil => rfl
  | cons c w ih =>
      obtain ⟨⟨-, ho, hc⟩, hw⟩ := plain_cons.mp hw
      rw [List.cons_append, nestingFrom_cons ho hc, ih hw]

theorem nesting_plain {w : List Char} (hw : Plain w) : nesting w = 0 := by
  have h := nestingFrom_plain hw 0 []
  rwa [List.append_nil] at h

theorem nestingFrom_le_append (opened : Nat) (cs ds : List Char) :
    nestingFrom opened cs ≤ nestingFrom opened (cs ++ ds) := by
  induction cs generalizing opened with
  | nil => exact le_nestingFrom opened ds
  | cons c cs ih =>
      rw [List.cons_append, nestingFrom, nestingFrom]
      exact Nat.max_le.mpr ⟨Nat.le_max_left _ _, Nat.le_trans (ih _) (Nat.le_max_right _ _)⟩

/-- A text nests at least as deep as it has braces left open at its end. -/
theorem count_le_nestingFrom (opened : Nat) (cs : List Char) :
    opened + cs.count '{' ≤ nestingFrom opened cs + cs.count '}' := by
  induction cs generalizing opened with
  | nil => exact Nat.le_refl _
  | cons c cs ih =>
      by_cases ho : c = '{'
      · subst ho
        have := ih (opened + 1)
        rw [nestingFrom_open]
        simp
        omega
      · by_cases hc : c = '}'
        · subst hc
          have := ih (opened - 1)
          rw [nestingFrom, if_neg ho, if_pos rfl]
          simp
          omega
        · have := ih opened
          rwa [nestingFrom_cons ho hc, List.count_cons_of_ne ho, List.count_cons_of_ne hc]

/-- One more open brace in front makes a text nest at most one deeper. It may make no difference, as
a closing brace that closes nothing is not counted. -/
theorem nestingFrom_succ_le (opened : Nat) (cs : List Char) :
    nestingFrom (opened + 1) cs ≤ nestingFrom opened cs + 1 := by
  induction cs generalizing opened with
  | nil => exact Nat.le_refl _
  | cons c cs ih =>
      rw [nestingFrom, nestingFrom]
      split
      · have := ih (opened + 1)
        omega
      · split
        · cases opened with
          | zero =>
              simp only [Nat.zero_add, Nat.sub_self, Nat.zero_sub]
              omega
          | succ opened =>
              have := ih opened
              simp only [Nat.add_sub_cancel]
              omega
        · have := ih opened
          omega

/-- A balanced text adds its own nesting and leaves the number of open braces as it was. -/
theorem nestingFrom_balanced {b : List Char} (hb : Balanced b) (opened : Nat) (cs : List Char) :
    nestingFrom opened (b ++ cs) = max (opened + nesting b) (nestingFrom opened cs) := by
  induction hb generalizing opened cs with
  | nil => exact (Nat.max_eq_right (le_nestingFrom opened cs)).symm
  | @char c b ho hc _ ih =>
      have hself : nesting (c :: b) = nesting b := nestingFrom_cons ho hc 0 b
      rw [List.cons_append, nestingFrom_cons ho hc, ih, hself]
  | @block inner b _ _ ihIn ihB =>
      -- for every `k`, as the nesting of the whole is the case of no open brace
      have hopen : ∀ k ds, nestingFrom k ('{' :: inner ++ '}' :: b ++ ds) =
          max (k + 1 + nesting inner) (max (k + nesting b) (nestingFrom k ds)) := by
        intro k ds
        have heq : '{' :: inner ++ '}' :: b ++ ds = '{' :: (inner ++ '}' :: (b ++ ds)) := by simp
        rw [heq, nestingFrom_open, ihIn, nestingFrom_close, ihB]
        omega
      have hself : nesting ('{' :: inner ++ '}' :: b) = max (1 + nesting inner) (nesting b) := by
        have h := hopen 0 []
        rw [List.append_nil, nestingFrom] at h
        rw [nesting, h]
        omega
      rw [hopen, hself]
      omega

theorem nesting_append {front : List Char} (hf : Balanced front) (text : List Char) :
    nesting (front ++ text) = max (nesting front) (nesting text) := by
  rw [nesting, nestingFrom_balanced hf, Nat.zero_add, ← nesting]

theorem nesting_field {w : List Char} (hw : Plain w) (text : List Char) :
    nesting (w ++ ',' :: text) = nesting text := by
  rw [nesting, nestingFrom_plain hw, nestingFrom_cons (by decide) (by decide), ← nesting]

theorem nesting_block {head body : List Char} (hh : Plain head) (hb : Balanced body)
    (text : List Char) :
    nesting (head ++ '{' :: body ++ '}' :: text) = max (nesting body + 1) (nesting text) := by
  rw [nesting, List.append_assoc, nestingFrom_plain hh, List.cons_append, nestingFrom_open,
    nestingFrom_balanced hb, nestingFrom_close, ← nesting]
  omega

/-! ### The induction -/

/-- The plain text in front, and what stands there instead of a plain character. -/
theorem exists_plain_prefix (text : List Char) :
    Plain text ∨ ∃ w rest, Plain w ∧
      (text = w ++ ',' :: rest ∨ text = w ++ '{' :: rest ∨ text = w ++ '}' :: rest) := by
  induction text with
  | nil => exact .inl plain_nil
  | cons c text ih =>
      by_cases hc : c ≠ ',' ∧ c ≠ '{' ∧ c ≠ '}'
      · rcases ih with hp | ⟨w, rest, hw, heq⟩
        · exact .inl (plain_cons.mpr ⟨hc, hp⟩)
        · refine .inr ⟨c :: w, rest, plain_cons.mpr ⟨hc, hw⟩, ?_⟩
          rcases heq with rfl | rfl | rfl <;> simp
      · refine .inr ⟨[], text, plain_nil, ?_⟩
        have : c = ',' ∨ c = '{' ∨ c = '}' := by grind
        rcases this with rfl | rfl | rfl <;> simp

/-- Induction along the pieces of a text: it is plain to its end, or up to a comma, a closing brace,
a block, or a brace that stays open. -/
theorem pieceInduction {motive : List Char → Prop}
    (plain : ∀ w, Plain w → motive w)
    (field : ∀ w text, Plain w → motive text → motive (w ++ ',' :: text))
    (block : ∀ head body text, Plain head → Balanced body → motive text →
      motive (head ++ '{' :: body ++ '}' :: text))
    (closing : ∀ w text, Plain w → motive (w ++ '}' :: text))
    (unclosed : ∀ w text, Plain w → Unclosed text → motive (w ++ '{' :: text)) :
    ∀ text, motive text := by
  intro text
  induction hn : text.length using Nat.strongRecOn generalizing text with
  | ind n ih =>
    rcases exists_plain_prefix text with hp | ⟨w, rest, hw, rfl | rfl | rfl⟩
    · exact plain text hp
    · exact field w rest hw (ih rest.length (by simp at hn; omega) rest rfl)
    · by_cases hun : Unclosed rest
      · exact unclosed w rest hw hun
      · -- the brace is closed somewhere: cut the rest there
        obtain ⟨body, after, hb, rfl⟩ := exists_of_not_unclosed hun
        have hblock := block w body after hw hb (ih after.length (by simp at hn; omega) after rfl)
        simpa using hblock
    · exact closing w rest hw

/-! ### Counting braces -/

/-- A text that opens as many braces as it closes, and at no point has closed more. -/
structure WellNested (text : List Char) : Prop where
  total : text.count '{' = text.count '}'
  front : ∀ front, front <+: text → front.count '}' ≤ front.count '{'

theorem prefix_append_cases {front cs ds : List Char} (h : front <+: cs ++ ds) :
    front <+: cs ∨ ∃ more, more <+: ds ∧ front = cs ++ more := by
  rcases List.prefix_or_prefix_of_prefix h (List.prefix_append cs ds) with h' | ⟨more, rfl⟩
  · exact .inl h'
  · exact .inr ⟨more, (List.prefix_append_right_inj cs).mp h, rfl⟩

theorem wellNested_nil : WellNested [] := by
  refine ⟨rfl, ?_⟩
  intro front hfront
  simp [List.prefix_nil.mp hfront]

theorem wellNested_char {c : Char} (ho : c ≠ '{') (hc : c ≠ '}') : WellNested [c] := by
  refine ⟨by simp [ho, hc], ?_⟩
  intro front hfront
  rcases List.prefix_cons_iff.mp hfront with rfl | ⟨more, rfl, hmore⟩
  · simp
  · simp [List.prefix_nil.mp hmore, hc]

theorem WellNested.append {cs ds : List Char} (hc : WellNested cs) (hd : WellNested ds) :
    WellNested (cs ++ ds) := by
  refine ⟨?_, ?_⟩
  · rw [List.count_append, List.count_append, hc.total, hd.total]
  · intro front hfront
    rcases prefix_append_cases hfront with hfront | ⟨more, hmore, rfl⟩
    · exact hc.front front hfront
    · have := hd.front more hmore
      rw [List.count_append, List.count_append, hc.total]
      omega

theorem WellNested.block {inner : List Char} (h : WellNested inner) :
    WellNested ('{' :: inner ++ ['}']) := by
  have htotal := h.total
  refine ⟨by simp [htotal], ?_⟩
  intro front hfront
  -- a front ends before the last brace, or is the whole block
  rcases prefix_append_cases hfront with hfront | ⟨more, hmore, rfl⟩
  · rcases List.prefix_cons_iff.mp hfront with rfl | ⟨more, rfl, hmore⟩
    · simp
    · have := h.front more hmore
      simp
      omega
  · rcases List.prefix_cons_iff.mp hmore with rfl | ⟨rest, rfl, hrest⟩
    · simp
      omega
    · simp [List.prefix_nil.mp hrest]
      omega

theorem WellNested.of_append {cs ds : List Char} (hc : WellNested cs) (h : WellNested (cs ++ ds)) :
    WellNested ds := by
  have htotal := h.total
  rw [List.count_append, List.count_append, hc.total] at htotal
  refine ⟨by omega, ?_⟩
  intro front hfront
  have := h.front (cs ++ front) ((List.prefix_append_right_inj cs).mpr hfront)
  rw [List.count_append, List.count_append, hc.total] at this
  omega

theorem Balanced.wellNested {text : List Char} (h : Balanced text) : WellNested text := by
  induction h with
  | nil => exact wellNested_nil
  | char ho hc _ ih => exact (wellNested_char ho hc).append ih
  | block _ _ ihIn ihCs =>
      have h := ihIn.block.append ihCs
      rwa [List.append_assoc] at h

theorem Plain.count_eq {w : List Char} (hw : Plain w) : w.count '{' = 0 ∧ w.count '}' = 0 :=
  ⟨List.count_eq_zero.mpr fun h => (hw _ h).2.1 rfl,
    List.count_eq_zero.mpr fun h => (hw _ h).2.2 rfl⟩

/-- What never closes a brace that was opened before it cannot close more than it opens. -/
theorem Unclosed.count_le {text : List Char} (h : Unclosed text) :
    text.count '}' ≤ text.count '{' := by
  induction hn : text.length using Nat.strongRecOn generalizing text with
  | ind n ih =>
    cases text with
    | nil => exact Nat.le_refl _
    | cons c text =>
      have hc : c ≠ '}' := h.ne_closing
      by_cases ho : c = '{'
      · subst ho
        by_cases hun : Unclosed text
        · have := ih text.length (by simp at hn; omega) hun rfl
          simp
          omega
        · -- a block that is closed counts for nothing
          obtain ⟨body, after, hb, rfl⟩ := exists_of_not_unclosed hun
          have := ih after.length (by simp at hn; omega) (h.of_block hb) rfl
          have := hb.wellNested.total
          simp
          omega
      · have := ih text.length (by simp at hn; omega) (h.of_cons ho hc) rfl
        rwa [List.count_cons_of_ne hc, List.count_cons_of_ne ho]

theorem not_wellNested_closing {w : List Char} (hw : Plain w) (text : List Char) :
    ¬WellNested (w ++ '}' :: text) := by
  intro h
  have hfront := h.front (w ++ ['}']) (by simp)
  simp [hw.count_eq] at hfront

theorem not_wellNested_unclosed {w text : List Char} (hw : Plain w) (hun : Unclosed text) :
    ¬WellNested (w ++ '{' :: text) := by
  intro h
  have htotal := h.total
  have := hun.count_le
  simp [hw.count_eq] at htotal
  omega

theorem balanced_iff_wellNested {text : List Char} : Balanced text ↔ WellNested text := by
  refine ⟨Balanced.wellNested, ?_⟩
  intro h
  induction text using pieceInduction with
  | plain w hw => exact hw.balanced
  | field w text hw ih =>
      rw [List.append_cons] at h
      have htext := ih (hw.balanced_field.wellNested.of_append h)
      exact hw.balanced_append (.char (by decide) (by decide) htext)
  | block head body text hh hb ih =>
      rw [List.append_cons] at h
      have htext := ih ((hh.balanced_block hb).wellNested.of_append h)
      rw [List.append_assoc]
      exact hh.balanced_append (.block hb htext)
  | closing w text hw => exact absurd h (not_wellNested_closing hw text)
  | unclosed w text hw hun => exact absurd h (not_wellNested_unclosed hw hun)

theorem Balanced.append {cs ds : List Char} (hc : Balanced cs) (hd : Balanced ds) :
    Balanced (cs ++ ds) :=
  balanced_iff_wellNested.mpr (hc.wellNested.append hd.wellNested)

/-- What follows a balanced front of a balanced text is balanced. -/
theorem Balanced.of_append {cs ds : List Char} (hc : Balanced cs) (h : Balanced (cs ++ ds)) :
    Balanced ds :=
  balanced_iff_wellNested.mpr (hc.wellNested.of_append h.wellNested)

/-- A brace is closed in one place only: of two balanced bodies up to there, neither is longer. -/
theorem Balanced.eq_of_prefix {body body' after after' : List Char} (hb : Balanced body)
    (hb' : Balanced body') (h : body ++ '}' :: after = body' ++ '}' :: after')
    (hpre : body <+: body') : body = body' := by
  obtain ⟨more, rfl⟩ := hpre
  cases more with
  | nil => rw [List.append_nil]
  | cons c more =>
      -- otherwise the longer body would begin, behind the shorter one, with a closing brace
      simp only [List.append_assoc, List.append_cancel_left_eq, List.cons_append] at h
      obtain ⟨rfl, -⟩ := List.cons.inj h
      exact absurd (hb.of_append hb').wellNested (not_wellNested_closing plain_nil more)

theorem Balanced.append_closing_inj {body body' after after' : List Char} (hb : Balanced body)
    (hb' : Balanced body') (h : body ++ '}' :: after = body' ++ '}' :: after') : body = body' := by
  have hpre : body <+: body' ++ '}' :: after' := h ▸ List.prefix_append body _
  rcases List.prefix_or_prefix_of_prefix hpre (List.prefix_append body' _) with hpre | hpre
  · exact hb.eq_of_prefix hb' h hpre
  · exact (hb'.eq_of_prefix hb h.symm hpre).symm

end RecordSchema.Declaration
