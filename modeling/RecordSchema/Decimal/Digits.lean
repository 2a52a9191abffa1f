/-!
# Decimal digits

The number that a run of decimal digits spells.
-/

namespace RecordSchema.Decimal

/-- The value of a decimal digit. -/
def digitValue (c : Char) : Nat := c.toNat - '0'.toNat

/-- The number that decimal digits spell, the most significant first. -/
def digitsValue (cs : List Char) : Nat := cs.foldl (fun n c => n * 10 + digitValue c) 0

end RecordSchema.Decimal
