import RecordSchema.Json.Skip
import RecordSchema.Proofs.Json.Form

/-!
# Values that are passed over

`IsJson` is the grammar of JSON values: words, numbers, texts, lists and objects, with blanks
wherever they may stand. A value of it is passed over as a whole (`readBy_skipValue`), however deep
it nests. Texts in it need not stand for characters, so half a surrogate pair is allowed.
-/

namespace RecordSchema.Json

variable {rest : List Char} {atEnd : Fault}

/-! ### Numbers -/

/-- One or more digits. -/
structure IsDigits (cs : List Char) : Prop where
  ne_nil : cs ≠ []
  isDigit : ∀ c ∈ cs, c.isDigit = true

/-- The digits after the point, if there is a point. -/
inductive IsFraction : List Char → Prop
  | absent : IsFraction []
  | digits {cs : List Char} (h : IsDigits cs) : IsFraction ('.' :: cs)

/-- The exponent with its sign, if there is one. -/
inductive IsExponent : List Char → Prop
  | absent : IsExponent []
  | digits {mark : Char} {sign cs : List Char} (hmark : mark = 'e' ∨ mark = 'E')
      (hsign : sign = [] ∨ sign = ['+'] ∨ sign = ['-']) (h : IsDigits cs) :
      IsExponent (mark :: (sign ++ cs))

/-- A number. Before the point, a zero stands alone or does not come first. -/
inductive IsNumeral : List Char → Prop
  | mk {sign whole fraction exponent : List Char} (hsign : sign = [] ∨ sign = ['-'])
      (hwhole : IsDigits whole) (hzero : whole.head? = some '0' → whole = ['0'])
      (hfraction : IsFraction fraction) (hexponent : IsExponent exponent) :
      IsNumeral (sign ++ (whole ++ (fraction ++ exponent)))

theorem IsDigits.exists_eq_cons {cs : List Char} (h : IsDigits cs) :
    ∃ c more, cs = c :: more ∧ c.isDigit = true := by
  obtain ⟨c, more, rfl⟩ := List.exists_cons_of_ne_nil h.ne_nil
  exact ⟨c, more, rfl, h.isDigit c List.mem_cons_self⟩

theorem ne_of_isDigit {c d : Char} (hc : c.isDigit = true) (hd : d.isDigit = false) : c ≠ d := by
  rintro rfl
  rw [hc] at hd
  cases hd

theorem IsDigits.readDigits {cs : List Char} (h : IsDigits cs)
    (hrest : ∀ c ∈ rest.head?, c.isDigit = false) :
    readDigits atEnd (cs ++ rest) = .ok (cs, rest) := by
  have htake : rest.takeWhile Char.isDigit = [] ∧ rest.dropWhile Char.isDigit = rest := by
    cases rest with
    | nil => simp
    | cons c rest => simp [hrest c rfl]
  obtain ⟨c, more, rfl, hc⟩ := h.exists_eq_cons
  rw [List.cons_append, Json.readDigits, if_pos hc, ← List.cons_append,
    List.takeWhile_append_of_pos h.isDigit, List.dropWhile_append_of_pos h.isDigit, htake.1,
    htake.2, List.append_nil]

theorem IsDigits.readWhole {cs : List Char} (h : IsDigits cs)
    (hzero : cs.head? = some '0' → cs = ['0']) (hrest : ∀ c ∈ rest.head?, c.isDigit = false) :
    readWhole atEnd (cs ++ rest) = .ok (cs, rest) := by
  rw [Json.readWhole, h.readDigits hrest, ok_bind]
  dsimp only
  split
  · cases hzero rfl
  · rfl

theorem IsFraction.readFraction {cs : List Char} (h : IsFraction cs)
    (hrest : ∀ c ∈ rest.head?, c.isDigit = false ∧ c ≠ '.') :
    ∃ digits, readFraction atEnd (cs ++ rest) = .ok (digits, rest) := by
  cases h with
  | absent =>
      refine ⟨[], ?_⟩
      rw [List.nil_append]
      unfold Json.readFraction
      split
      · exact absurd rfl (hrest '.' rfl).2
      · rfl
  | digits h => exact ⟨_, h.readDigits fun c hc => (hrest c hc).1⟩

theorem IsExponent.readExponent {cs : List Char} (h : IsExponent cs)
    (hrest : ∀ c ∈ rest.head?, c.isDigit = false ∧ c ≠ 'e' ∧ c ≠ 'E') :
    ∃ exponent, readExponent atEnd (cs ++ rest) = .ok (exponent, rest) := by
  cases h with
  | absent =>
      refine ⟨none, ?_⟩
      cases rest with
      | nil => rfl
      | cons c rest =>
          obtain ⟨-, he, hE⟩ := hrest c rfl
          simp [Json.readExponent, he, hE]
  | @digits mark sign cs hmark hsign h =>
      have hread := @IsDigits.readDigits rest atEnd cs h fun c hc => (hrest c hc).1
      rcases hsign with rfl | rfl | rfl
      · -- without a sign the digits come at once
        obtain ⟨c, more, rfl, hc⟩ := h.exists_eq_cons
        have hplus := ne_of_isDigit hc (by decide : '+'.isDigit = false)
        have hminus := ne_of_isDigit hc (by decide : '-'.isDigit = false)
        rw [List.cons_append] at hread
        simp [Json.readExponent, hmark, hplus, hminus, hread]
      · simp [Json.readExponent, hmark, hread]
      · simp [Json.readExponent, hmark, hread]

/-! ### What follows the parts of a number -/

theorem Delimited.ends_number (h : Delimited rest) :
    ∀ c ∈ rest.head?, c.isDigit = false ∧ c ≠ '.' ∧ c ≠ 'e' ∧ c ≠ 'E' := by
  intro c hc
  rcases h c hc with hblank | rfl | rfl | rfl
  · simp only [isJsonBlank, Bool.or_eq_true, beq_iff_eq] at hblank
    rcases hblank with ((rfl | rfl) | rfl) | rfl <;> decide
  · decide
  · decide
  · decide

theorem IsExponent.ends_fraction {cs : List Char} (h : IsExponent cs) (hrest : Delimited rest) :
    ∀ c ∈ (cs ++ rest).head?, c.isDigit = false ∧ c ≠ '.' := by
  intro c hc
  cases h with
  | absent =>
      obtain ⟨hdigit, hpoint, -⟩ := hrest.ends_number c hc
      exact ⟨hdigit, hpoint⟩
  | digits hmark hsign h =>
      cases hc
      rcases hmark with rfl | rfl <;> decide

theorem IsFraction.ends_whole {cs : List Char} (h : IsFraction cs)
    (hrest : ∀ c ∈ rest.head?, c.isDigit = false ∧ c ≠ '.') :
    ∀ c ∈ (cs ++ rest).head?, c.isDigit = false := by
  intro c hc
  cases h with
  | absent => exact (hrest c hc).1
  | digits h =>
      cases hc
      decide

theorem IsNumeral.exists_eq_cons {cs : List Char} (h : IsNumeral cs) :
    ∃ c more, cs = c :: more ∧ (c = '-' ∨ c.isDigit = true) := by
  obtain @⟨sign, whole, fraction, exponent, rfl | rfl, hwhole, -, -, -⟩ := h
  · obtain ⟨c, more, rfl, hc⟩ := hwhole.exists_eq_cons
    exact ⟨c, _, rfl, .inr hc⟩
  · exact ⟨'-', _, rfl, .inl rfl⟩

theorem IsNumeral.readNumeral {cs : List Char} (h : IsNumeral cs) (hrest : Delimited rest) :
    ∃ numeral, readNumeral atEnd (cs ++ rest) = .ok (numeral, rest) := by
  obtain @⟨sign, whole, fraction, exponent, hsign, hwhole, hzero, hfraction, hexponent⟩ := h
  have hafter := hexponent.ends_fraction hrest
  have hread := @IsDigits.readWhole (fraction ++ (exponent ++ rest)) atEnd whole hwhole hzero
    (hfraction.ends_whole hafter)
  obtain ⟨digits, hdigits⟩ := @IsFraction.readFraction (exponent ++ rest) atEnd _ hfraction hafter
  obtain ⟨power, hpower⟩ := @IsExponent.readExponent rest atEnd _ hexponent fun c hc =>
    have hends := hrest.ends_number c hc
    ⟨hends.1, hends.2.2⟩
  simp only [List.append_assoc]
  rcases hsign with rfl | rfl
  · refine ⟨⟨false, whole, digits, power⟩, ?_⟩
    obtain ⟨c, more, rfl, hc⟩ := hwhole.exists_eq_cons
    have hminus := ne_of_isDigit hc (by decide : '-'.isDigit = false)
    unfold Json.readNumeral
    simp only [List.nil_append, List.cons_append] at hread ⊢
    simp [hminus, hread, hdigits, hpower]
  · refine ⟨⟨true, whole, digits, power⟩, ?_⟩
    unfold Json.readNumeral
    simp [hread, hdigits, hpower]

/-! ### Texts -/

/-- A character between quotes, or an escape of the right form. -/
inductive IsQuotedChar : List Char → Prop
  | plain {c : Char} (hquote : c ≠ '"') (hslash : c ≠ '\\') (hcontrol : ¬c < ' ') : IsQuotedChar [c]
  | short {letter c : Char} (h : shortEscape? letter = some c) : IsQuotedChar ['\\', letter]
  | codePoint {digits : List Char} {n : Nat} (h : fourHex? digits = some (n, [])) :
      IsQuotedChar ('\\' :: 'u' :: digits)

/-- What may stand between quotes. -/
inductive IsQuoted : List Char → Prop
  | nil : IsQuoted []
  | cons {cs more : List Char} (h : IsQuotedChar cs) (hmore : IsQuoted more) : IsQuoted (cs ++ more)

theorem IsQuotedChar.length_pos {cs : List Char} (h : IsQuotedChar cs) : 0 < cs.length := by
  cases h <;> simp

/-- Passing over a character costs one step. -/
theorem IsQuotedChar.readQuotedBy {cs : List Char} (h : IsQuotedChar cs) (steps : Nat)
    (rest : List Char) :
    ∃ passed, readQuotedBy skipEscape (steps + 1) (cs ++ rest) =
      readQuotedBy skipEscape steps rest >>= fun (chars, rest) => .ok (passed ++ chars, rest) := by
  cases h with
  | @plain c hquote hslash hcontrol =>
      refine ⟨[c], ?_⟩
      rw [List.singleton_append, Json.readQuotedBy.eq_5 _ _ _ _ hquote hslash, if_neg hcontrol]
      rfl
  | @short letter c h =>
      have hu : letter ≠ 'u' := by
        rintro rfl
        cases h
      have hescape : skipEscape (letter :: rest) = .ok ([c], rest) := by
        rw [skipEscape, readEscapeBy.eq_3 _ _ _ hu, h]
      refine ⟨[c], ?_⟩
      rw [List.cons_append, List.singleton_append, Json.readQuotedBy, hescape]
      rfl
  | @codePoint digits n h =>
      have hescape : skipEscape ('u' :: (digits ++ rest)) = .ok ([], rest) := by
        rw [skipEscape, readEscapeBy, readFourHex_append h]
        rfl
      refine ⟨[], ?_⟩
      rw [List.cons_append, List.cons_append, Json.readQuotedBy, hescape]
      rfl

theorem IsQuoted.readQuotedBy {cs : List Char} (h : IsQuoted cs) {steps : Nat}
    (hsteps : cs.length < steps) :
    ∃ chars, readQuotedBy skipEscape steps (cs ++ '"' :: rest) = .ok (chars, rest) := by
  induction h generalizing steps with
  | nil =>
      obtain _ | steps := steps
      · simp at hsteps
      · exact ⟨[], rfl⟩
  | @cons cs more h hmore ih =>
      obtain _ | steps := steps
      · simp at hsteps
      · rw [List.length_append] at hsteps
        have hpos := h.length_pos
        obtain ⟨chars, hchars⟩ := ih (by omega : more.length < steps)
        obtain ⟨passed, hpassed⟩ := h.readQuotedBy steps (more ++ '"' :: rest)
        exact ⟨passed ++ chars, by rw [List.append_assoc, hpassed, hchars, ok_bind]⟩

theorem IsQuoted.skipText {cs : List Char} (h : IsQuoted cs) {steps : Nat}
    (hsteps : cs.length < steps) : skipText steps (cs ++ '"' :: rest) = .ok ((), rest) := by
  obtain ⟨chars, hchars⟩ := @IsQuoted.readQuotedBy rest cs h steps hsteps
  rw [Json.skipText, hchars, ok_bind]

/-! ### Values -/

/-- A value in which the parts of lists and objects are as given by `inner`. -/
inductive IsJsonOver (inner : List Char → Prop) : List Char → Prop
  | null : IsJsonOver inner ['n', 'u', 'l', 'l']
  | yes : IsJsonOver inner ['t', 'r', 'u', 'e']
  | no : IsJsonOver inner ['f', 'a', 'l', 's', 'e']
  | number {cs : List Char} (h : IsNumeral cs) : IsJsonOver inner cs
  | text {cs : List Char} (h : IsQuoted cs) : IsJsonOver inner ('"' :: (cs ++ ['"']))
  | list {parts : List Unit} {cs : List Char} (h : ListForm (fun _ => inner) true parts cs) :
      IsJsonOver inner ('[' :: cs)
  | object {names : List Unit} {cs : List Char}
      (h : ObjectForm (fun _ => IsQuoted) (fun _ => inner) true names cs) :
      IsJsonOver inner ('{' :: cs)

/-- A value that nests less than `depth` deep. -/
def IsJsonWithin : (depth : Nat) → List Char → Prop
  | 0 => fun _ => False
  | depth + 1 => IsJsonOver (IsJsonWithin depth)

/-- A JSON value. -/
def IsJson (cs : List Char) : Prop := ∃ depth, IsJsonWithin depth cs

theorem IsNumeral.opens {cs : List Char} (h : IsNumeral cs) : Opens cs := by
  obtain ⟨c, more, rfl, rfl | hc⟩ := h.exists_eq_cons
  · exact ⟨'-', more, rfl, by decide, by decide⟩
  · refine ⟨c, more, rfl, ?_, ne_of_isDigit hc (by decide)⟩
    have hblank : ∀ d, d.isDigit = false → (c == d) = false :=
      fun d hd => beq_eq_false_iff_ne.mpr (ne_of_isDigit hc hd)
    simp [isJsonBlank, hblank]

theorem IsJsonOver.opens {inner : List Char → Prop} {cs : List Char} (h : IsJsonOver inner cs) :
    Opens cs := by
  cases h with
  | null => exact ⟨'n', _, rfl, by decide, by decide⟩
  | yes => exact ⟨'t', _, rfl, by decide, by decide⟩
  | no => exact ⟨'f', _, rfl, by decide, by decide⟩
  | number h => exact h.opens
  | text h => exact ⟨'"', _, rfl, by decide, by decide⟩
  | list h => exact ⟨'[', _, rfl, by decide, by decide⟩
  | object h => exact ⟨'{', _, rfl, by decide, by decide⟩

/-! ### Passing over values -/

section Skip

variable {steps : Nat} {blanks : List Char}

/-- A number is known by its first character, which starts no other value. -/
theorem IsNumeral.skipWithin {cs : List Char} (h : IsNumeral cs) (hblanks : JsonBlanks blanks)
    (hrest : Delimited rest) (depth : Nat) :
    skipWithin steps (depth + 1) (blanks ++ (cs ++ rest)) = .ok ((), rest) := by
  obtain ⟨numeral, hnumeral⟩ := @IsNumeral.readNumeral rest .malformed cs h hrest
  obtain ⟨c, more, rfl, hc⟩ := h.exists_eq_cons
  obtain ⟨_, _, heq, hblank, -⟩ := h.opens
  cases heq
  have hother : ∀ d, d ≠ '-' → d.isDigit = false → c ≠ d := by
    intro d hminus hd
    rcases hc with rfl | hc
    · exact hminus.symm
    · exact ne_of_isDigit hc hd
  rw [List.cons_append] at hnumeral ⊢
  unfold Json.skipWithin
  rw [hblanks.skip hblank]
  simp [hother, hc, hnumeral]

theorem skipMember_of_memberForm {bound : Nat} (hbound : bound ≤ steps) {value : Reader Unit}
    {inner : List Char → Prop} (hvalue : ReadBy bound value (fun _ => inner)) {name : Unit}
    {cs : List Char} (h : MemberForm (fun _ => IsQuoted) (fun _ => inner) name cs)
    (hrest : Delimited rest) (hlength : (cs ++ rest).length < bound) :
    skipMember steps value () (cs ++ rest) = .ok ((), rest) := by
  obtain @⟨text, beforeColon, afterColon, cs, hname, hbefore, hafter, hcs⟩ := h
  simp only [List.append_assoc, List.cons_append, List.length_append, List.length_cons] at hlength ⊢
  have hread := @hvalue.read () afterColon cs rest hafter hcs hrest
    (by simp only [List.length_append]; omega)
  rw [skipMember, hname.skipText (by omega), ok_bind]
  dsimp only
  rw [readColon_append hbefore, ok_bind, hread]

/-- What is passed over has fewer characters left than there are levels, so the levels suffice
however deep it nests. -/
theorem readBy_skipWithin {bound : Nat} (hbound : bound ≤ steps) (depth : Nat) :
    ReadBy bound (skipWithin steps bound) (fun _ => IsJsonWithin depth) := by
  induction depth generalizing bound with
  | zero => exact ⟨fun h => h.elim, fun _ h => h.elim⟩
  | succ depth ih =>
      refine ⟨IsJsonOver.opens, ?_⟩
      intro value blanks cs rest hblanks h hrest hlength
      obtain _ | bound := bound
      · simp at hlength
      have hinner := ih (Nat.le_of_succ_le hbound)
      cases h with
      | null =>
          show Json.skipWithin steps (bound + 1) (blanks ++ 'n' :: (['u', 'l', 'l'] ++ rest)) = _
          rw [Json.skipWithin, hblanks.skip rfl]
          rfl
      | yes =>
          show Json.skipWithin steps (bound + 1) (blanks ++ 't' :: (['r', 'u', 'e'] ++ rest)) = _
          rw [Json.skipWithin, hblanks.skip rfl]
          rfl
      | no =>
          show Json.skipWithin steps (bound + 1)
            (blanks ++ 'f' :: (['a', 'l', 's', 'e'] ++ rest)) = _
          rw [Json.skipWithin, hblanks.skip rfl]
          rfl
      | number h => exact h.skipWithin hblanks hrest bound
      | @text cs h =>
          have htext : skipText steps (cs ++ '"' :: rest) = .ok ((), rest) :=
            h.skipText (by simp at hlength; omega)
          rw [List.cons_append, List.append_assoc, Json.skipWithin, hblanks.skip rfl]
          exact htext
      | @list parts cs h =>
          have hinside : (cs ++ rest).length < bound := by
            simp at hlength ⊢
            omega
          have hparts := h.elementsGive hinner hinside steps (by omega)
          rw [List.cons_append, Json.skipWithin, hblanks.skip rfl]
          simp [hparts]
      | @object names cs h =>
          have hinside : (cs ++ rest).length < bound := by
            simp at hlength ⊢
            omega
          have hmembers := @ObjectForm.membersGive Unit Unit _ _ bound
            (skipMember steps (Json.skipWithin steps bound)) (fun _ => ()) _
            (fun _ => skipMember_of_memberForm (Nat.le_of_succ_le hbound) hinner)
            true names [] cs h rfl rest hinside steps (by omega)
          rw [List.cons_append, Json.skipWithin, hblanks.skip rfl]
          exact hmembers

/-- A JSON value is passed over, whatever it is. -/
theorem readBy_skipValue : ReadBy steps (skipValue steps) (fun _ => IsJson) where
  opens := by
    rintro _ cs ⟨_ | depth, h⟩
    · exact h.elim
    · exact IsJsonOver.opens h
  read := by
    rintro _ blanks cs rest hblanks ⟨depth, h⟩ hrest hlength
    exact (readBy_skipWithin (Nat.le_refl steps) depth).read hblanks h hrest hlength

end Skip

end RecordSchema.Json
