/-! Character properties as tables of code point ranges. -/

namespace PlanReferee.Text

/-- Closed ranges of code points. -/
abbrev RangeTable := List (Nat × Nat)

def RangeTable.covers (table : RangeTable) (c : Char) : Bool :=
  table.any fun range => range.1 ≤ c.toNat && c.toNat ≤ range.2

end PlanReferee.Text
