/-! Decimal numerals, read into a range of integers. -/

namespace PlanReferee.Text

/-- The value of a nonempty run of ASCII digits. -/
def digits? (cs : List Char) : Option Nat :=
  if !cs.isEmpty && cs.all Char.isDigit then some (Nat.ofDigitChars 10 cs 0) else none

/-- The integers from `low` to `high`. -/
structure IntRange where
  low : Int
  high : Int

namespace IntRange

def unsigned (bits : Nat) : IntRange := ⟨0, Int.ofNat (Nat.pow 2 bits) - 1⟩

def signed (bits : Nat) : IntRange :=
  ⟨-Int.ofNat (Nat.pow 2 (bits - 1)), Int.ofNat (Nat.pow 2 (bits - 1)) - 1⟩

def holds (range : IntRange) (n : Int) : Bool := range.low ≤ n && n ≤ range.high

/-- A numeral may begin with a plus sign, and with a minus sign where the range has negative
numbers. No value is clamped or wrapped: one outside the range is refused. -/
def read? (range : IntRange) (cs : List Char) : Option Int :=
  let value := match cs with
    | '+' :: ds => (digits? ds).map Int.ofNat
    | '-' :: ds => if range.low < 0 then (digits? ds).map fun n => -Int.ofNat n else none
    | ds => (digits? ds).map Int.ofNat
  value.filter range.holds

end IntRange

/-- A numeral for a 32-bit natural number. -/
def readUInt32? (cs : List Char) : Option UInt32 :=
  ((IntRange.unsigned 32).read? cs).map fun n => UInt32.ofNat n.toNat

end PlanReferee.Text
