import RecordSchema.Text.LowerCase

/-!
# Lower case inside and outside of ASCII

On ASCII the full Unicode case map is the one of ASCII (`lower_of_ascii`). Outside of it a letter may
well fall into ASCII, but only in two places:

* the Kelvin sign becomes a `k`;
* the dotted capital I becomes an `i`, which a combining dot follows.

So something of every other letter remains visible, and a text whose lower-case form is ASCII and has
no `k` in it is ASCII itself (`ascii_of_lower`).
-/

namespace RecordSchema.Text

/-- A text of ASCII characters only. -/
def Ascii (cs : List Char) : Prop := ∀ c ∈ cs, c.toNat < 128

/-- The Kelvin sign looks like a capital K, and has the same lower-case form. -/
def kelvin : Char := '\u212A'

/-! ### Letters of ASCII -/

theorem lowerBetween_of_ascii {c : Char} (h : c.toNat < 128) (before after : List Char) :
    lowerBetween before c after = [c.toLower] := by
  -- the two letters that have rules of their own are not ASCII
  have hi : c ≠ 'İ' := by
    rintro rfl
    exact absurd h (by decide)
  have hs : c ≠ 'Σ' := by
    rintro rfl
    exact absurd h (by decide)
  rw [lowerBetween, if_neg hi, if_neg hs, lowerChar_of_ascii h]

theorem lowerAfter_of_ascii {cs : List Char} (h : Ascii cs) (before : List Char) :
    lowerAfter before cs = cs.map Char.toLower := by
  induction cs generalizing before with
  | nil => rfl
  | cons c cs ih =>
      obtain ⟨hc, hcs⟩ := List.forall_mem_cons.mp h
      rw [lowerAfter, lowerBetween_of_ascii hc, ih hcs]
      rfl

theorem lower_of_ascii {cs : List Char} (h : Ascii cs) : lower cs = cs.map Char.toLower :=
  lowerAfter_of_ascii h []

/-! ### Letters outside of ASCII -/

/-- The lower-case forms of a run are characters, and none of them is ASCII: they lie on one side of
the code points that are no characters. -/
def LowerRun.StaysOutside (run : LowerRun) : Prop :=
  128 ≤ run.image ∧ (run.apply run.last < 0xD800 ∨
    0xE000 ≤ run.image ∧ run.apply run.last < 0x110000)

/-- The runs of the table: the capital letters of ASCII, the Kelvin sign, and runs that stay outside
of ASCII. -/
theorem lowerRuns_cases : ∀ run ∈ lowerRuns,
    run.last < 128 ∨ run.first = kelvin.toNat ∧ run.last = kelvin.toNat ∨ run.StaysOutside := by
  unfold LowerRun.StaysOutside
  decide +kernel

theorem LowerRun.StaysOutside.toNat_apply {run : LowerRun} (h : run.StaysOutside) {n : Nat}
    (hfirst : run.first ≤ n) (hlast : n ≤ run.last) :
    (Char.ofNat (run.apply n)).toNat = run.apply n ∧ 128 ≤ run.apply n := by
  unfold StaysOutside LowerRun.apply at h
  unfold LowerRun.apply
  have hvalid : (run.image + (n - run.first)).isValidChar := by
    unfold Nat.isValidChar
    omega
  rw [Char.ofNat, dif_pos hvalid]
  exact ⟨rfl, by omega⟩

theorem toNat_lowerChar {c : Char} (h : 128 ≤ c.toNat) (hk : c ≠ kelvin) :
    128 ≤ (lowerChar c).toNat := by
  unfold lowerChar
  split
  next run hrun =>
    have hcovers := List.find?_some hrun
    simp only [LowerRun.covers, Bool.and_eq_true, decide_eq_true_eq] at hcovers
    obtain ⟨⟨hfirst, hlast⟩, -⟩ := hcovers
    rcases lowerRuns_cases run (List.mem_of_find?_eq_some hrun) with hascii | ⟨hkf, hkl⟩ | hout
    · omega
    · have heq : c.toNat = kelvin.toNat := by omega
      exact absurd (Char.toNat_inj.mp heq) hk
    · obtain ⟨hnat, hle⟩ := hout.toNat_apply hfirst hlast
      rw [hnat]
      exact hle
  · exact h

/-- What is left of a character outside of ASCII shows: something outside of ASCII, or a `k`. -/
theorem exists_mem_lowerBetween {c : Char} (h : 128 ≤ c.toNat) (before after : List Char) :
    ∃ d ∈ lowerBetween before c after, 128 ≤ d.toNat ∨ d = 'k' := by
  unfold lowerBetween
  split
  · exact ⟨'\u0307', by simp, .inl (by decide)⟩
  · split
    · split
      · exact ⟨'ς', by simp, .inl (by decide)⟩
      · exact ⟨'σ', by simp, .inl (by decide)⟩
    · refine ⟨lowerChar c, by simp, ?_⟩
      by_cases hk : c = kelvin
      · right
        rw [hk]
        decide +kernel
      · left
        exact toNat_lowerChar h hk

theorem exists_mem_lowerAfter {c : Char} (h : 128 ≤ c.toNat) {cs : List Char} (hc : c ∈ cs)
    (before : List Char) : ∃ d ∈ lowerAfter before cs, 128 ≤ d.toNat ∨ d = 'k' := by
  induction cs generalizing before with
  | nil => cases hc
  | cons first cs ih =>
      rw [lowerAfter]
      rcases List.mem_cons.mp hc with rfl | hc
      · obtain ⟨d, hd, hshows⟩ := exists_mem_lowerBetween h before cs
        exact ⟨d, List.mem_append_left _ hd, hshows⟩
      · obtain ⟨d, hd, hshows⟩ := ih hc (first :: before)
        exact ⟨d, List.mem_append_right _ hd, hshows⟩

/-- A text whose lower-case form is ASCII and has no `k` is ASCII. -/
theorem ascii_of_lower {cs : List Char} (h : Ascii (lower cs)) (hk : 'k' ∉ lower cs) :
    Ascii cs := by
  intro c hc
  rcases Nat.lt_or_ge c.toNat 128 with hascii | hout
  · exact hascii
  · obtain ⟨d, hd, hfar | rfl⟩ := exists_mem_lowerAfter hout hc []
    · exact absurd (h d hd) (Nat.not_lt.mpr hfar)
    · exact absurd hd hk

end RecordSchema.Text
