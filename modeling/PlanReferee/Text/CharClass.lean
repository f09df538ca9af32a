import PlanReferee.Text.Age
import PlanReferee.Text.Alphabetic
import PlanReferee.Text.Mark
import PlanReferee.Text.Number

/-! Which characters may stand in a name, in a bare word, and between words. The tables are those of
Unicode 17. The first two classes agree on ASCII and differ beyond it: a combining mark may stand in a
name only, a superscript digit in a word only, and names keep to what Unicode 16 knew. -/

namespace PlanReferee.Text

/-- Code points of the general category Connector_Punctuation. -/
def connectors : RangeTable :=
  [(0x5F, 0x5F), (0x203F, 0x2040), (0x2054, 0x2054), (0xFE33, 0xFE34), (0xFE4D, 0xFE4F),
   (0xFF3F, 0xFF3F)]

/-- Code points with the property Join_Control. -/
def joinControls : RangeTable := [(0x200C, 0x200D)]

/-- Code points with the property White_Space. -/
def whiteSpace : RangeTable :=
  [(0x09, 0x0D), (0x20, 0x20), (0x85, 0x85), (0xA0, 0xA0), (0x1680, 0x1680), (0x2000, 0x200A),
   (0x2028, 0x2029), (0x202F, 0x202F), (0x205F, 0x205F), (0x3000, 0x3000)]

/-- May stand in the name before an opening parenthesis. Characters newer than Unicode 16 may not. -/
def isNameChar (c : Char) : Bool :=
  c.isAlphanum || !age17.covers c && (alphabetic.covers c || marks.covers c
    || decimalDigits.covers c || connectors.covers c || joinControls.covers c)

/-- May stand in a bare word. -/
def isWordChar (c : Char) : Bool :=
  c.isAlphanum || c == '_' || alphabetic.covers c || decimalDigits.covers c
    || otherNumbers.covers c

/-- Separates the words of a line. -/
def isBlank (c : Char) : Bool := whiteSpace.covers c

theorem isNameChar_of_isAlphanum {c : Char} (h : c.isAlphanum = true) : isNameChar c = true := by
  simp [isNameChar, h]

theorem isWordChar_of_isAlphanum {c : Char} (h : c.isAlphanum = true) : isWordChar c = true := by
  simp [isWordChar, h]

end PlanReferee.Text
