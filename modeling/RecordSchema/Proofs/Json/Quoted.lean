import Mathlib.Tactic.SplitIfs
import RecordSchema.Json.Encode
import RecordSchema.Json.Quoted
import RecordSchema.Proofs.Sequencing

/-!
# What stands between quotes

A character can be written between quotes in more than one way. `CharForm` lists the ways,
`TextForm` puts them one after the other, and `TextForm.readText` reads any of them back. The writer
picks one form for each character (`charForm_escapeChar`), so every text is read back from what is
written for it (`readText_escaped`), whatever characters it has.

Readers count their steps down. All statements ask for more steps than there are characters left,
which is what the whole reading starts with.
-/

namespace RecordSchema.Json

/-! ### Blanks -/

/-- Nothing but the blanks of JSON. -/
def JsonBlanks (cs : List Char) : Prop := ∀ c ∈ cs, isJsonBlank c = true

@[simp] theorem jsonBlanks_nil : JsonBlanks [] := by simp [JsonBlanks]

variable {blanks rest : List Char}

theorem skipBlanks_cons {c : Char} (hc : isJsonBlank c = false) :
    skipBlanks (c :: rest) = c :: rest := by
  rw [skipBlanks, List.dropWhile_cons_of_neg (by simp [hc])]

/-- Blanks in front make no difference. -/
theorem JsonBlanks.skip_append (h : JsonBlanks blanks) (rest : List Char) :
    skipBlanks (blanks ++ rest) = skipBlanks rest := by
  rw [skipBlanks, List.dropWhile_append_of_pos h, ← skipBlanks]

/-- Blanks are dropped up to the first character that is none. -/
theorem JsonBlanks.skip (h : JsonBlanks blanks) {c : Char} (hc : isJsonBlank c = false) :
    skipBlanks (blanks ++ c :: rest) = c :: rest := by
  rw [h.skip_append]
  exact skipBlanks_cons hc

/-! ### Digits -/

theorem hexDigit?_digitChar : ∀ n < 16, hexDigit? (Nat.digitChar n) = some n := by decide

theorem fourHex?_append {digits : List Char} {n : Nat} (h : fourHex? digits = some (n, [])) :
    fourHex? (digits ++ rest) = some (n, rest) := by
  unfold fourHex? at h
  split at h
  · rename_i a b c d tail
    simp only [Option.bind_eq_bind, Option.bind_eq_some_iff, Option.some.injEq, Prod.mk.injEq] at h
    obtain ⟨a', ha, b', hb, c', hc, d', hd, rfl, rfl⟩ := h
    simp [fourHex?, ha, hb, hc, hd]
  · simp at h

/-! ### Forms of a character -/

/-- The ways to write a character between quotes. -/
inductive CharForm : Char → List Char → Prop
  /-- As itself, unless it has a meaning of its own or is a control character. -/
  | plain {c : Char} (hquote : c ≠ '"') (hslash : c ≠ '\\') (hcontrol : ¬ c < ' ') : CharForm c [c]
  /-- By a letter after a backslash. -/
  | short {c letter : Char} (h : shortEscape? letter = some c) : CharForm c ['\\', letter]
  /-- By its code point in four hexadecimal digits. -/
  | codePoint {c : Char} {digits : List Char} (h : fourHex? digits = some (c.toNat, [])) :
      CharForm c ('\\' :: 'u' :: digits)
  /-- By the two halves of a surrogate pair, if its code point needs more than four digits. -/
  | pair {c : Char} {high low : List Char} (hc : 0x10000 ≤ c.toNat)
      (hhigh : fourHex? high = some (0xD800 + (c.toNat - 0x10000) / 0x400, []))
      (hlow : fourHex? low = some (0xDC00 + (c.toNat - 0x10000) % 0x400, [])) :
      CharForm c ('\\' :: 'u' :: (high ++ '\\' :: 'u' :: low))

/-- The ways to write characters one after the other between quotes. -/
inductive TextForm : List Char → List Char → Prop
  | nil : TextForm [] []
  | cons {c : Char} {cs chars more : List Char} (h : CharForm c cs) (hmore : TextForm chars more) :
      TextForm (c :: chars) (cs ++ more)

theorem readEscape_short {c letter : Char} (h : shortEscape? letter = some c) :
    readEscape (letter :: rest) = .ok ([c], rest) := by
  have hu : letter ≠ 'u' := by
    rintro rfl
    cases h
  rw [readEscape, readEscapeBy.eq_3 _ _ _ hu, h]

/-- No character is half of a surrogate pair. -/
theorem not_isHalf_toNat (c : Char) : isLowHalf c.toNat = false ∧ isHighHalf c.toNat = false := by
  have hvalid : c.toNat < 0xd800 ∨ 0xdfff < c.toNat ∧ c.toNat < 0x110000 := c.valid
  simp only [isLowHalf, isHighHalf, Bool.and_eq_false_iff, decide_eq_false_iff_not]
  omega

theorem readFourHex_append {digits : List Char} {n : Nat} (h : fourHex? digits = some (n, [])) :
    readFourHex (digits ++ rest) = .ok (n, rest) := by
  rw [readFourHex, fourHex?_append h]

theorem readEscape_codePoint {c : Char} {digits : List Char}
    (h : fourHex? digits = some (c.toNat, [])) :
    readEscape ('u' :: digits ++ rest) = .ok ([c], rest) := by
  obtain ⟨hlow, hhigh⟩ := not_isHalf_toNat c
  have hpoint : readCodePoint (digits ++ rest) = .ok (c, rest) := by
    rw [readCodePoint, readFourHex_append h]
    simp [hlow, hhigh, Char.ofNat_toNat]
  rw [List.cons_append, readEscape, readEscapeBy, hpoint]
  rfl

/-- Two escapes are read together if they are the halves of a surrogate pair. -/
theorem readEscape_halves {high low : List Char} {n m : Nat} (hhigh : fourHex? high = some (n, []))
    (hlow : fourHex? low = some (m, [])) (hn : isLowHalf n = false ∧ isHighHalf n = true)
    (hm : isLowHalf m = true) :
    readEscape ('u' :: (high ++ '\\' :: 'u' :: low) ++ rest) = .ok ([joinHalves n m], rest) := by
  have hword : readWord ['\\', 'u'] ('\\' :: 'u' :: (low ++ rest)) = .ok (low ++ rest) := rfl
  have hpoint : readCodePoint (high ++ '\\' :: 'u' :: (low ++ rest)) =
      .ok (joinHalves n m, rest) := by
    rw [readCodePoint, readFourHex_append hhigh]
    simp [hn, hword, readFourHex_append hlow, hm]
  rw [List.cons_append, List.append_assoc, readEscape, readEscapeBy]
  simp [hpoint]

/-- The halves of a surrogate pair are told apart by their range. -/
theorem isHalf_of_pair {c : Char} {n m : Nat} (hn : n = 0xD800 + (c.toNat - 0x10000) / 0x400)
    (hm : m = 0xDC00 + (c.toNat - 0x10000) % 0x400) :
    (isLowHalf n = false ∧ isHighHalf n = true) ∧ isLowHalf m = true := by
  have hvalid : c.toNat < 0xd800 ∨ 0xdfff < c.toNat ∧ c.toNat < 0x110000 := c.valid
  simp only [isLowHalf, isHighHalf, Bool.and_eq_false_iff, Bool.and_eq_true,
    decide_eq_false_iff_not, decide_eq_true_eq]
  omega

/-- Together the halves of a surrogate pair give the code point back. -/
theorem joinHalves_of_pair {c : Char} (hc : 0x10000 ≤ c.toNat) {n m : Nat}
    (hn : n = 0xD800 + (c.toNat - 0x10000) / 0x400)
    (hm : m = 0xDC00 + (c.toNat - 0x10000) % 0x400) : joinHalves n m = c := by
  have hsum : (n - 0xD800) * 0x400 + (m - 0xDC00) + 0x10000 = c.toNat := by omega
  rw [joinHalves, hsum, Char.ofNat_toNat]

theorem CharForm.length_pos {c : Char} {cs : List Char} (h : CharForm c cs) : 0 < cs.length := by
  cases h <;> simp

/-! ### Reading a text back -/

/-- One character is read off the front, in whatever form, and costs one step. -/
theorem CharForm.readQuotedBy {c : Char} {cs : List Char} (h : CharForm c cs) (steps : Nat)
    (rest : List Char) :
    readQuotedBy readEscape (steps + 1) (cs ++ rest) =
      readQuotedBy readEscape steps rest >>= fun (chars, rest) => .ok (c :: chars, rest) := by
  cases h with
  | plain hquote hslash hcontrol =>
      rw [List.singleton_append, Json.readQuotedBy.eq_5 _ _ _ _ hquote hslash, if_neg hcontrol]
  | short h =>
      rw [List.cons_append, List.singleton_append, Json.readQuotedBy, readEscape_short h]
      rfl
  | codePoint h =>
      rw [List.cons_append, Json.readQuotedBy, readEscape_codePoint h]
      rfl
  | pair hc hhigh hlow =>
      obtain ⟨hfirst, hsecond⟩ := isHalf_of_pair rfl rfl
      rw [List.cons_append, Json.readQuotedBy, readEscape_halves hhigh hlow hfirst hsecond,
        joinHalves_of_pair hc rfl rfl]
      rfl

theorem TextForm.readQuotedBy {chars cs : List Char} (h : TextForm chars cs) {steps : Nat}
    (hsteps : cs.length < steps) :
    readQuotedBy readEscape steps (cs ++ '"' :: rest) = .ok (chars, rest) := by
  induction h generalizing steps with
  | nil =>
      obtain _ | steps := steps
      · simp at hsteps
      · rfl
  | cons h hmore ih =>
      obtain _ | steps := steps
      · simp at hsteps
      · rw [List.length_append] at hsteps
        have := h.length_pos
        rw [List.append_assoc, h.readQuotedBy, ih (by omega)]
        rfl

/-- A text is read back from any form. -/
theorem TextForm.readText {text : String} {cs : List Char} (h : TextForm text.toList cs)
    {steps : Nat} (hsteps : cs.length < steps) :
    readText steps (cs ++ '"' :: rest) = .ok (text, rest) := by
  rw [Json.readText, h.readQuotedBy hsteps]
  exact congrArg (fun text => Except.ok (text, rest)) String.ofList_toList

/-! ### The form that is written -/

theorem charForm_escapeChar (c : Char) : CharForm c (escapeChar c) := by
  unfold escapeChar
  split_ifs with hquote hslash hb hf hn hr ht hcontrol
  · exact .short (by rw [hquote]; rfl)
  · exact .short (by rw [hslash]; rfl)
  · exact .short (by rw [hb]; rfl)
  · exact .short (by rw [hf]; rfl)
  · exact .short (by rw [hn]; rfl)
  · exact .short (by rw [hr]; rfl)
  · exact .short (by rw [ht]; rfl)
  · -- a control character has two digits
    have hlt : c.toNat < 32 := hcontrol
    have hzero : hexDigit? '0' = some 0 := rfl
    have hhigh := hexDigit?_digitChar (c.toNat / 16) (by omega)
    have hlow := hexDigit?_digitChar (c.toNat % 16) (by omega)
    apply CharForm.codePoint
    simp [fourHex?, hzero, hhigh, hlow]
    omega
  · exact .plain hquote hslash hcontrol

theorem textForm_escaped (chars : List Char) : TextForm chars (chars.flatMap escapeChar) := by
  induction chars with
  | nil => exact .nil
  | cons c chars ih =>
      rw [List.flatMap_cons]
      exact .cons (charForm_escapeChar c) ih

theorem readText_escaped {text : String} {steps : Nat}
    (hsteps : (text.toList.flatMap escapeChar ++ '"' :: rest).length < steps) :
    readText steps (text.toList.flatMap escapeChar ++ '"' :: rest) = .ok (text, rest) := by
  rw [List.length_append] at hsteps
  exact (textForm_escaped text.toList).readText (by omega)

end RecordSchema.Json
