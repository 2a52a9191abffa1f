import RecordSchema.Json.Numeral
import RecordSchema.Json.Sequence

/-!
# Passing over values

The value of a member that entries do not have is passed over, but it has to be JSON. It may nest as
deep as it likes. Numbers and quoted texts need the right form only.
-/

namespace RecordSchema.Json

/-- Pass over a member from inside the quotes of its name, its value by `value`. -/
def skipMember (steps : Nat) (value : Reader Unit) : Unit → Reader Unit := fun _ cs => do
  let (_, rest) ← skipText steps cs
  let rest ← readColon rest
  value rest

/-- Pass over a value that nests at most `depth` deep. -/
def skipWithin (steps : Nat) : (depth : Nat) → Reader Unit
  | 0, _ => .error .malformed
  | depth + 1, cs =>
    match skipBlanks cs with
    | [] => .error .truncated
    | 'n' :: rest => do .ok ((), ← readWord ['u', 'l', 'l'] rest)
    | 't' :: rest => do .ok ((), ← readWord ['r', 'u', 'e'] rest)
    | 'f' :: rest => do .ok ((), ← readWord ['a', 'l', 's', 'e'] rest)
    | '"' :: rest => skipText steps rest
    | '[' :: rest => do
      let (_, rest) ← readElements (skipWithin steps depth) steps true rest
      .ok ((), rest)
    | '{' :: rest => readMembers (skipMember steps (skipWithin steps depth)) steps true () rest
    | c :: rest =>
      if c = '-' ∨ c.isDigit then do
        let (_, rest) ← readNumeral .malformed (c :: rest)
        .ok ((), rest)
      else .error .malformed

/-- Pass over a value. A text of so many characters cannot nest deeper than that. -/
def skipValue (steps : Nat) : Reader Unit := skipWithin steps steps

end RecordSchema.Json
