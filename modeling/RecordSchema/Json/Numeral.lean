import RecordSchema.Decimal.Digits
import RecordSchema.Decimal.Shortest
import RecordSchema.Json.Fault

/-!
# Numbers in JSON

No member of an entry is a number, so numbers are read only to pass over them or to say what was found
in the place of something else. `readNumeral` takes the written form apart and `Numeral.found` gives
its value: an integer of 64 bits if it is one, and otherwise a double, which is shown by its shortest
decimal.
-/

namespace RecordSchema.Json

open RecordSchema.Decimal

/-- A number as it is written. -/
structure Numeral where
  negative : Bool
  whole : List Char
  fraction : List Char := []
  exponent : Option (Bool × List Char) := none   -- is it negative, and its digits
deriving DecidableEq, Repr

/-! ### The written form -/

/-- Read at least one digit. If the text ends instead, the fault is `atEnd`. -/
def readDigits (atEnd : Fault) : Reader (List Char)
  | [] => .error atEnd
  | c :: cs =>
    if c.isDigit then .ok ((c :: cs).takeWhile Char.isDigit, (c :: cs).dropWhile Char.isDigit)
    else .error .malformed

/-- Read the digits before the point. A zero stands alone. -/
def readWhole (atEnd : Fault) : Reader (List Char) := fun cs => do
  let (digits, rest) ← readDigits atEnd cs
  match digits with
  | '0' :: _ :: _ => .error .malformed
  | _ => .ok (digits, rest)

/-- Read a point and the digits after it, if there is a point. -/
def readFraction (atEnd : Fault) : Reader (List Char)
  | '.' :: cs => readDigits atEnd cs
  | cs => .ok ([], cs)

/-- Read the exponent, if there is one. -/
def readExponent (atEnd : Fault) : Reader (Option (Bool × List Char))
  | [] => .ok (none, [])
  | c :: cs =>
    if c = 'e' ∨ c = 'E' then do
      let (negative, cs) := match cs with
        | '+' :: cs => (false, cs)
        | '-' :: cs => (true, cs)
        | cs => (false, cs)
      let (digits, rest) ← readDigits atEnd cs
      .ok (some (negative, digits), rest)
    else .ok (none, c :: cs)

/-- Read a number. Where digits are due and the text ends, the fault is `atEnd`. -/
def readNumeral (atEnd : Fault) : Reader Numeral := fun cs => do
  let (negative, cs) := match cs with
    | '-' :: cs => (true, cs)
    | cs => (false, cs)
  let (whole, cs) ← readWhole atEnd cs
  let (fraction, cs) ← readFraction atEnd cs
  let (exponent, cs) ← readExponent atEnd cs
  .ok ({ negative, whole, fraction, exponent }, cs)

/-! ### The value -/

/-- The largest significand that is kept: one word of 64 bits. -/
def maxSignificand : Nat := 0xFFFFFFFFFFFFFFFF

/-- Append decimal digits to a significand until one does not fit; gives those that are left. -/
def appendDigits : (significand : Nat) → List Char → Nat × List Char
  | significand, [] => (significand, [])
  | significand, c :: cs =>
    let next := significand * 10 + digitValue c
    if maxSignificand < next then (significand, c :: cs) else appendDigits next cs

/-- A power of ten that is a double. -/
def powerOfTen (n : Nat) : Float := Float.ofScientific 1 false n

/-- Divide by a power of ten, in steps that are doubles themselves. -/
def divideByPower (x : Float) (n : Nat) : Float :=
  if n ≤ 308 then x / powerOfTen n
  else if x == 0 then x
  else divideByPower (x / powerOfTen 308) (n - 308)
termination_by n

/-- The double `significand · 10^exponent`, if it is finite. The significand is rounded first and the
product or quotient again. -/
def scale? (significand : Nat) (exponent : Int) : Option Float :=
  let x := significand.toUInt64.toFloat
  if exponent < 0 then some (divideByPower x (-exponent).toNat)
  else if exponent ≤ 308 then
    let product := x * powerOfTen exponent.toNat
    if product.isInf then none else some product
  else if significand = 0 then some x
  else none

/-- Decimals with a leading digit from the fifth place after the point to the sixteenth before it are
written in full, others with an exponent that has its sign. -/
def showScaled (d : Scaled) : List Char :=
  let digits := Nat.toDigits 10 d.digits
  let point : Int := digits.length + d.exponent
  if 0 ≤ d.exponent ∧ point ≤ 16 then
    digits ++ List.replicate d.exponent.toNat '0' ++ ['.', '0']
  else if 0 < point ∧ point ≤ 16 then
    digits.take point.toNat ++ '.' :: digits.drop point.toNat
  else if -5 < point ∧ point ≤ 0 then
    ['0', '.'] ++ List.replicate (-point).toNat '0' ++ digits
  else
    let mantissa := if digits.length ≤ 1 then digits else digits.take 1 ++ '.' :: digits.drop 1
    let leading := point - 1
    mantissa ++ ['e', if leading < 0 then '-' else '+'] ++ Nat.toDigits 10 leading.natAbs

/-- How a finite double is shown. -/
def showDouble (x : Float) : String :=
  let b := Binary.ofBits x.toBits
  let magnitude := if b.mantissa = 0 then ['0', '.', '0'] else showScaled b.shortest
  String.ofList (if b.negative then '-' :: magnitude else magnitude)

/-- The double with the given sign and size, as something found. -/
def foundDouble (negative : Bool) (significand : Nat) (exponent : Int) : Except Fault Found :=
  match scale? significand exponent with
  | some x => .ok (.decimal (showDouble (if negative then -x else x)))
  | none => .error .malformed

/-- The value of a number. Digits before the point that do not fit count as places, digits after it
are dropped from the first that does not fit. A number that no double is large enough for is
refused. -/
def Numeral.found (n : Numeral) : Except Fault Found :=
  let (whole, unread) := appendDigits 0 n.whole
  if unread.isEmpty && n.fraction.isEmpty && n.exponent.isNone then
    if !n.negative then .ok (.integer whole)
    else if 0 < whole ∧ whole ≤ 0x8000000000000000 then .ok (.integer (-(whole : Int)))
    else foundDouble true whole 0
  else
    let (significand, dropped) := appendDigits whole n.fraction
    let places : Int := (unread.length : Int) - (n.fraction.length - dropped.length : Nat)
    let shift : Int := match n.exponent with
      | none => 0
      | some (negative, digits) => if negative then -digitsValue digits else digitsValue digits
    foundDouble n.negative significand (places + shift)

end RecordSchema.Json
