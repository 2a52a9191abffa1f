import RecordSchema.Text.Unprintable

/-!
# Quoted text

`quoted` writes a text between double quotes so that it stays on one line and every character can be
told: quotes and backslashes get a backslash, the usual controls their letter, and an unprintable
character its code point in hexadecimal.
-/

namespace RecordSchema.Text

/-- How one character is written between the quotes. -/
def quotedChar (c : Char) : List Char :=
  if c = '\x00' then ['\\', '0']
  else if c = '\t' then ['\\', 't']
  else if c = '\n' then ['\\', 'n']
  else if c = '\r' then ['\\', 'r']
  else if c = '"' then ['\\', '"']
  else if c = '\\' then ['\\', '\\']
  else if unprintable.contains c then ['\\', 'u', '{'] ++ Nat.toDigits 16 c.toNat ++ ['}']
  else [c]

/-- A text between double quotes, with what cannot stand there escaped. -/
def quoted (cs : List Char) : List Char :=
  '"' :: cs.flatMap quotedChar ++ ['"']

end RecordSchema.Text
