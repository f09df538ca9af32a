import PlanReferee.Fact
import PlanReferee.Text.Lines
import PlanReferee.Text.Numeral

/-! Lexicons: ordered tables that turn facts into records, where the first entry that fits wins. -/

namespace PlanReferee

open Text

/-- What may stand in one argument place. -/
inductive Slot where
  /-- One ASCII digit or more. -/
  | digits
  /-- One word character or more. -/
  | word
  /-- Any text, also the empty one. -/
  | any
deriving DecidableEq, Repr

def Slot.accepts : Slot → List Char → Bool
  | digits, value => !value.isEmpty && value.all Char.isDigit
  | word, value => !value.isEmpty && value.all isWordChar
  | any, _ => true

/-- Splits an argument text at commas, one value for each slot. The last slot takes all that is left,
commas included. -/
def splitArgs? : List Slot → List Char → Option (List (List Char))
  | [], args => if args.isEmpty then some [] else none
  | [slot], args => if slot.accepts args then some [args] else none
  | slot :: next :: slots, args =>
    match cut? ',' args with
    | none => none
    | some (value, more) =>
      if slot.accepts value then (splitArgs? (next :: slots) more).map (value :: ·) else none

/-- How one kind of fact is read. The reader may still refuse values of the right form. -/
structure Entry (ρ : Type) where
  name : String
  slots : List Slot
  record? : List String → Option ρ

/-- The record of a fact, where the entry fits it. -/
def Entry.read? {ρ : Type} (entry : Entry ρ) (fact : Fact) : Option ρ :=
  if fact.name = entry.name then
    (splitArgs? entry.slots fact.args.toList).bind fun values =>
      entry.record? (values.map String.ofList)
  else none

abbrev Lexicon (ρ : Type) := List (Entry ρ)

variable {ρ : Type}

namespace Lexicon

/-- The record of a fact, by the first entry that fits. -/
def read? (lexicon : Lexicon ρ) (fact : Fact) : Option ρ :=
  lexicon.findSome? fun entry => entry.read? fact

def place? (lexicon : Lexicon ρ) (fact : Fact) : Option Nat :=
  lexicon.findIdx? fun entry => (entry.read? fact).isSome

end Lexicon

namespace Entry

/-- Reads a fact with a single argument, whatever it is. -/
def unary (name : String) (record : String → ρ) : Entry ρ where
  name
  slots := [.any]
  record?
    | [value] => some (record value)
    | _ => none

/-- Reads a fact whose single argument is a 32-bit number. -/
def unaryNumber (name : String) (record : UInt32 → ρ) : Entry ρ where
  name
  slots := [.digits]
  record?
    | [value] => (readUInt32? value.toList).map record
    | _ => none

end Entry

end PlanReferee
