import PlanReferee.Text.CharClass

/-! Cutting a text into lines and a line into words. -/

namespace PlanReferee.Text

/-- The lines of a text. A line feed ends a line, alone or after one carriage return; what follows
the last line feed is a line of its own unless it is empty. -/
def lines : List Char → List (List Char)
  | [] => []
  | '\n' :: more => [] :: lines more
  | '\r' :: '\n' :: more => [] :: lines more
  | c :: more =>
    match lines more with
    | [] => [[c]]
    | line :: rest => (c :: line) :: rest

/-- The words of a line: its longest pieces free of white space. -/
def words (line : List Char) : List (List Char) :=
  (line.splitOnP isBlank).filter fun word => !word.isEmpty

def trimStart (cs : List Char) : List Char := cs.dropWhile isBlank

def trimEnd (cs : List Char) : List Char := (trimStart cs.reverse).reverse

def trim (cs : List Char) : List Char := trimEnd (trimStart cs)

/-- What stands before and after the first occurrence of a separator. -/
def cut? (separator : Char) (cs : List Char) : Option (List Char × List Char) :=
  match cs.dropWhile (· != separator) with
  | [] => none
  | _ :: after => some (cs.takeWhile (· != separator), after)

/-- What follows a given beginning. -/
def after? : (beginning cs : List Char) → Option (List Char)
  | [], cs => some cs
  | _ :: _, [] => none
  | b :: beginning, c :: cs => if b = c then after? beginning cs else none

theorem after?_eq_some_iff {beginning cs rest : List Char} :
    after? beginning cs = some rest ↔ cs = beginning ++ rest := by
  fun_induction after? beginning cs with
  | case1 => simp [eq_comm]
  | case2 => simp
  | case3 b beginning cs ih => simp [ih]
  | case4 b beginning c cs h => simp [Ne.symm h]

end PlanReferee.Text
