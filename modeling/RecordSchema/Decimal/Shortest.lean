/-!
# The shortest decimal of a binary fraction

A double is `m · 2^q`, and every real number between its two midpoints with the neighbouring doubles
reads back as it. `shortest` gives, of the decimals `n · 10^t` in that interval, the one with the
largest `t`, which is the one with the fewest digits, and of two such the nearer to the double. The
search is in exact integers: grids of powers of ten are tried from the coarsest on, and on each grid
only the two points next to the double can lie in the interval.
-/

namespace RecordSchema.Decimal

/-- The number `digits · 10^exponent`. -/
structure Scaled where
  digits : Nat
  exponent : Int
deriving DecidableEq, Repr

/-- The number `mantissa · 2^exponent`, with the sign apart. -/
structure Binary where
  negative : Bool
  mantissa : Nat
  exponent : Int
deriving DecidableEq, Repr

/-- The numbers that read back as a double, in units of a quarter of its last place. -/
structure Interval where
  low : Nat
  mid : Nat
  high : Nat
  closed : Bool   -- do the ends read back as the double, too?
deriving DecidableEq, Repr

/-- The leading bit of a mantissa of 53 bits, which is not stored. -/
def hiddenBit : Nat := 0x10000000000000

/-- Take the bits of a finite double apart. -/
def Binary.ofBits (bits : UInt64) : Binary :=
  let n := bits.toNat
  let fraction : Nat := n % hiddenBit
  let biased : Nat := n / hiddenBit % 0x800
  let negative := 0x8000000000000000 ≤ n
  if biased = 0 then ⟨negative, fraction, -1074⟩
  else ⟨negative, hiddenBit + fraction, (biased : Int) - 1075⟩

/-- The interval around a double. Just above a power of two the neighbour below is half as far. A
half goes to the even mantissa. -/
def Binary.interval (b : Binary) : Interval :=
  let nearer := b.mantissa = hiddenBit ∧ -1074 < b.exponent
  { low := 4 * b.mantissa - (if nearer then 1 else 2)
    mid := 4 * b.mantissa
    high := 4 * b.mantissa + 2
    closed := b.mantissa % 2 = 0 }

/-- Of `n · grid` and `(n + 1) · grid` around `value`, the nearer; halfway, the even one. -/
def nearerPoint (grid value : Nat) : Nat :=
  let n := value / grid
  let rest := value % grid
  if 2 * rest < grid then n
  else if grid < 2 * rest then n + 1
  else if n % 2 = 0 then n else n + 1

/-- The point of the grid `10^t` that stands for the double, if one lies in its interval. The
interval is counted in units of `2^s`. -/
def Interval.onGrid (i : Interval) (s t : Int) : Option Nat :=
  let grid := Nat.pow 10 t.toNat * Nat.pow 2 (-s).toNat
  let unit := Nat.pow 2 s.toNat * Nat.pow 10 (-t).toNat
  let inside (n : Nat) : Bool :=
    if i.closed then i.low * unit ≤ n * grid && n * grid ≤ i.high * unit
    else i.low * unit < n * grid && n * grid < i.high * unit
  let n := i.mid * unit / grid
  match inside n, inside (n + 1) with
  | true, true => some (nearerPoint grid (i.mid * unit))
  | true, false => some n
  | false, true => some (n + 1)
  | false, false => none

/-- Try the grids `10^t`, `10^(t - 1)`, … , so many of them. -/
def Interval.search (i : Interval) (s : Int) : (tries : Nat) → (t : Int) → Scaled
  | 0, t => ⟨0, t⟩
  | tries + 1, t =>
    match i.onGrid s t with
    | some n => ⟨n, t⟩
    | none => i.search s tries (t - 1)

/-- The shortest decimal that reads back as a double other than zero. No double reaches `10^309`, and
each is a multiple of `10^(-1074)`; the grids between them decide long before the last. -/
def Binary.shortest (b : Binary) : Scaled :=
  b.interval.search (b.exponent - 2) 1384 309

end RecordSchema.Decimal
