/-! Reading JSON text from left to right. The first problem decides what is wrong with a text, so a
reader looks at a character only when all before it is in order. -/

namespace PlanReferee.Json

inductive Flaw where
  /-- The text ends inside a value. -/
  | ended
  /-- The text is not JSON. -/
  | malformed
  /-- The text is JSON, and not of the form that is wanted. -/
  | unfit
deriving DecidableEq, Repr

/-- Takes a value off the front of a text. -/
abbrev Reader (α : Type) := List Char → Except Flaw (α × List Char)

def isGap (c : Char) : Bool := c == ' ' || c == '\n' || c == '\t' || c == '\r'

def skipGap (cs : List Char) : List Char := cs.dropWhile isGap

def keyword : List Char → List Char → Except Flaw (List Char)
  | [], cs => .ok cs
  | _ :: _, [] => .error .ended
  | k :: ks, c :: cs => if k = c then keyword ks cs else .error .malformed

def colon (cs : List Char) : Except Flaw (List Char) :=
  match skipGap cs with
  | [] => .error .ended
  | ':' :: rest => .ok rest
  | _ => .error .malformed

end PlanReferee.Json
