import RecordSchema.Text.LetterCase

/-!
# Lower case

`lower` is the full Unicode lower-casing of a text. Three rules make it up:

* a capital letter of `lowerRuns` becomes its partner, every other character stays;
* the dotted capital I becomes two characters, a small i and a combining dot;
* a capital sigma is written `ς` at the end of a word and `σ` elsewhere. It ends a word when a cased
  letter stands before it and none after it, not counting case-ignorable characters in between.
-/

namespace RecordSchema.Text

/-- The single-character lower-case form; a character without one is its own. -/
def lowerChar (c : Char) : Char :=
  match lowerRuns.find? (·.covers c.toNat) with
  | some run => Char.ofNat (run.apply c.toNat)
  | none => c

/-- On ASCII the table agrees with core's case map, which knows ASCII only. -/
theorem lowerChar_of_ascii {c : Char} (h : c.toNat < 128) : lowerChar c = c.toLower := by
  have table : ∀ n : Fin 128, lowerChar (Char.ofNat n) = (Char.ofNat n).toLower := by
    decide +kernel
  simpa using table ⟨c.toNat, h⟩

/-- Is the first character that is not case-ignorable a cased one? -/
def meetsCased (cs : List Char) : Bool :=
  match cs.dropWhile caseIgnorable.contains with
  | [] => false
  | c :: _ => cased.contains c

/-- Does a letter between these texts end a word? The text before it is given backwards. -/
def endsWord (before after : List Char) : Bool :=
  meetsCased before && !meetsCased after

/-- The lower-case form of `c` between two texts, the one before it given backwards. -/
def lowerBetween (before : List Char) (c : Char) (after : List Char) : List Char :=
  if c = 'İ' then ['i', '\u0307']
  else if c = 'Σ' then [if endsWord before after then 'ς' else 'σ']
  else [lowerChar c]

/-- The lower-case form of a text that follows `before`, which is given backwards. -/
def lowerAfter (before : List Char) : List Char → List Char
  | [] => []
  | c :: after => lowerBetween before c after ++ lowerAfter (c :: before) after

/-- The lower-case form of a text. -/
def lower (cs : List Char) : List Char := lowerAfter [] cs

end RecordSchema.Text
