import PlanReferee.Fault
import PlanReferee.Text.CharClass

/-! Facts as a solver prints them: a name and, in parentheses, an argument text. -/

namespace PlanReferee

open Text

/-- The name and the arguments of a text of the form `name(args)`. The name is a nonempty run of name
characters, and the arguments reach to the last character before the closing parenthesis that ends
the text, so they may hold parentheses of their own, but no line feed. -/
def shape? (text : List Char) : Option (List Char × List Char) :=
  match text.takeWhile isNameChar, text.dropWhile isNameChar with
  | c :: name, '(' :: inside =>
    if inside.getLast? = some ')' ∧ '\n' ∉ inside.dropLast then some (c :: name, inside.dropLast)
    else none
  | _, _ => none

structure Fact where
  raw : String
  name : String
  args : String
deriving DecidableEq, Repr

namespace Fact

def read? (raw : String) : Option Fact :=
  (shape? raw.toList).map fun (name, args) => ⟨raw, String.ofList name, String.ofList args⟩

def read (raw : String) : Except Fault Fact :=
  match read? raw with
  | some fact => .ok fact
  | none => .error (.malformed raw)

/-- Reads the facts of a solution, up to the first malformed one. -/
def readAll (solution : List String) : Except Fault (List Fact) := solution.mapM read

end Fact

end PlanReferee
