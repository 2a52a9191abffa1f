import RecordSchema.Text.CharSet

/-!
# Blanks, trimming and words

A blank is a character with the Unicode property `White_Space`. On texts as lists of characters:

* `trim` drops the blanks at both ends;
* `words` gives the maximal blank-free runs, in order.
-/

namespace RecordSchema.Text

/-- The characters with the property `White_Space`: tab to carriage return, space, next line,
no-break space and the typographic spaces and separators. -/
def blanks : CharSet :=
  [(0x0009, 0x000D), (0x0020, 0x0020), (0x0085, 0x0085), (0x00A0, 0x00A0), (0x1680, 0x1680),
   (0x2000, 0x200A), (0x2028, 0x2029), (0x202F, 0x202F), (0x205F, 0x205F), (0x3000, 0x3000)]

/-- Is the character white space? -/
def isBlank (c : Char) : Bool := blanks.contains c

/-- Drop the characters of a class at both ends of a text. -/
def trimBy (p : Char → Bool) (cs : List Char) : List Char :=
  ((cs.dropWhile p).reverse.dropWhile p).reverse

/-- Drop the blanks at both ends of a text. -/
def trim (cs : List Char) : List Char := trimBy isBlank cs

/-- The blank-free runs of a text, none of them empty. -/
def words (cs : List Char) : List (List Char) :=
  (cs.splitOnP isBlank).filter (fun word => !word.isEmpty)

end RecordSchema.Text
