/-!
# Character ranges

A character class given by a sorted list of code point ranges, ends included.
-/

namespace AssemblyInfo.Text

/-- A list of closed code point ranges. -/
abbrev RangeTable := List (Nat × Nat)

def RangeTable.has (table : RangeTable) (c : Char) : Bool :=
  table.any fun range => range.1 ≤ c.toNat && c.toNat ≤ range.2

/-- `table.start? c` is the first code point of the range that holds `c`. -/
def RangeTable.start? (table : RangeTable) (c : Char) : Option Nat :=
  (table.find? fun range => range.1 ≤ c.toNat && c.toNat ≤ range.2).map Prod.fst

end AssemblyInfo.Text
