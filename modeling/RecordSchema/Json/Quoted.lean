import RecordSchema.Json.Fault

/-!
# Blanks, words and quoted text in JSON

The leaves of JSON texts that are not numbers. A quoted text can be read in two ways: `readText` wants
every escape to stand for a character, `skipText` takes any escape of the right form, half a
surrogate pair included.
-/

namespace RecordSchema.Json

/-! ### Blanks and words -/

/-- The four characters that may stand between the parts of a JSON text. -/
def isJsonBlank (c : Char) : Bool := c == ' ' || c == '\n' || c == '\t' || c == '\r'

/-- Drop the blanks in front of a text. -/
def skipBlanks (cs : List Char) : List Char := cs.dropWhile isJsonBlank

/-- Take the given characters off the front of a text. -/
def readWord : (word : List Char) → List Char → Except Fault (List Char)
  | [], cs => .ok cs
  | _ :: _, [] => .error .truncated
  | w :: word, c :: cs => if c = w then readWord word cs else .error .malformed

/-! ### Escapes -/

/-- The value of a hexadecimal digit. -/
def hexDigit? (c : Char) : Option Nat :=
  if c.isDigit then some (c.toNat - '0'.toNat)
  else if 'a' ≤ c ∧ c ≤ 'f' then some (c.toNat - 'a'.toNat + 10)
  else if 'A' ≤ c ∧ c ≤ 'F' then some (c.toNat - 'A'.toNat + 10)
  else none

/-- The number that four hexadecimal digits at the front of a text spell. -/
def fourHex? : List Char → Option (Nat × List Char)
  | a :: b :: c :: d :: rest => do
    let a ← hexDigit? a
    let b ← hexDigit? b
    let c ← hexDigit? c
    let d ← hexDigit? d
    some (((a * 16 + b) * 16 + c) * 16 + d, rest)
  | _ => none

/-- The number of bytes that a text takes in UTF-8. -/
def byteCount (cs : List Char) : Nat := cs.foldl (fun count c => count + c.utf8Size) 0

/-- Read four hexadecimal digits. The text counts as cut off if fewer than four bytes are left. -/
def readFourHex : Reader Nat := fun cs =>
  match fourHex? cs with
  | some result => .ok result
  | none => .error (if byteCount (cs.take 4) < 4 then .truncated else .malformed)

/-- Is this the first half of a surrogate pair? -/
def isHighHalf (n : Nat) : Bool := 0xD800 ≤ n && n ≤ 0xDBFF

/-- Is this the second half of a surrogate pair? -/
def isLowHalf (n : Nat) : Bool := 0xDC00 ≤ n && n ≤ 0xDFFF

/-- The character that a surrogate pair stands for. -/
def joinHalves (high low : Nat) : Char :=
  Char.ofNat ((high - 0xD800) * 0x400 + (low - 0xDC00) + 0x10000)

/-- Read the character of an escape after its `u`: four hexadecimal digits, or two escapes that form
a surrogate pair. -/
def readCodePoint : Reader Char := fun cs => do
  let (n, rest) ← readFourHex cs
  if isLowHalf n then .error .malformed
  else if isHighHalf n then do
    let rest ← readWord ['\\', 'u'] rest
    let (low, rest) ← readFourHex rest
    if isLowHalf low then .ok (joinHalves n low, rest) else .error .malformed
  else .ok (Char.ofNat n, rest)

/-- The character that a backslash and a letter stand for. -/
def shortEscape? (c : Char) : Option Char :=
  match c with
  | '"' => some '"'
  | '\\' => some '\\'
  | '/' => some '/'
  | 'b' => some '\x08'
  | 'f' => some '\x0c'
  | 'n' => some '\n'
  | 'r' => some '\r'
  | 't' => some '\t'
  | _ => none

/-- Read an escape after its backslash, `codePoint` reading the digits of a numeric one. -/
def readEscapeBy (codePoint : Reader (List Char)) : Reader (List Char)
  | [] => .error .truncated
  | 'u' :: rest => codePoint rest
  | c :: rest =>
    match shortEscape? c with
    | some escaped => .ok ([escaped], rest)
    | none => .error .malformed

/-- Read an escape that stands for one character. -/
def readEscape : Reader (List Char) :=
  readEscapeBy fun cs => do
    let (c, rest) ← readCodePoint cs
    .ok ([c], rest)

/-- Pass over an escape, which need not stand for a character. -/
def skipEscape : Reader (List Char) :=
  readEscapeBy fun cs => do
    let (_, rest) ← readFourHex cs
    .ok ([], rest)

/-! ### Quoted text -/

/-- Read a text up to its closing quote, in at most so many steps. -/
def readQuotedBy (escape : Reader (List Char)) : (steps : Nat) → Reader (List Char)
  | 0, _ => .error .malformed
  | _ + 1, [] => .error .truncated
  | _ + 1, '"' :: rest => .ok ([], rest)
  | steps + 1, '\\' :: rest => do
    let (escaped, rest) ← escape rest
    let (chars, rest) ← readQuotedBy escape steps rest
    .ok (escaped ++ chars, rest)
  | steps + 1, c :: rest =>
    if c < ' ' then .error .malformed
    else do
      let (chars, rest) ← readQuotedBy escape steps rest
      .ok (c :: chars, rest)

/-- Read a quoted text after its opening quote. -/
def readText (steps : Nat) : Reader String := fun cs => do
  let (chars, rest) ← readQuotedBy readEscape steps cs
  .ok (String.ofList chars, rest)

/-- Pass over a quoted text after its opening quote. -/
def skipText (steps : Nat) : Reader Unit := fun cs => do
  let (_, rest) ← readQuotedBy skipEscape steps cs
  .ok ((), rest)

end RecordSchema.Json
