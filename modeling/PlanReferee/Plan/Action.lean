import Std.Data.ExtTreeSet
import PlanReferee.Lexicon

/-! Who acts in a plan, and what is done. -/

namespace PlanReferee

structure Agent where
  name : String
deriving DecidableEq, Repr

namespace Agent

instance : Ord Agent := ⟨compareOn name⟩

instance : Std.TransOrd Agent := inferInstanceAs (Std.TransCmp (compareOn name))

instance : Std.LawfulEqOrd Agent where
  compare_self := Std.ReflCmp.compare_self
  eq_of_compare {a b} h := by
    have h : compare a.name b.name = .eq := h
    cases a
    cases b
    simp_all

/-- Acts where a solution declares no agent of its own. -/
def default : Agent := ⟨"defaultAgent"⟩

end Agent

/-- A name and an unsplit argument text, which is empty for a bare action. -/
structure Action where
  name : String
  args : String
deriving DecidableEq, Repr

namespace Action

instance : Ord Action := ⟨compareLex (compareOn name) (compareOn args)⟩

instance : Std.TransOrd Action := inferInstanceAs (Std.TransCmp (compareLex _ _))

instance : Std.LawfulEqOrd Action where
  compare_self := Std.ReflCmp.compare_self
  eq_of_compare {a b} h := by
    obtain ⟨name, args⟩ := compareLex_eq_eq.mp h
    cases a
    cases b
    simp_all [compareOn]

/-- Stands for a text that is no action. -/
def unknown : Action := ⟨"(unknown)", ""⟩

/-- An action is written `name(args)` or as a bare word. -/
def read (text : String) : Action :=
  match shape? text.toList with
  | some (name, args) => ⟨String.ofList name, String.ofList args⟩
  | none => if Slot.word.accepts text.toList then ⟨text, ""⟩ else unknown

def arguments (action : Action) : List String :=
  if action.args = "" then [] else (action.args.toList.splitOn ',').map String.ofList

/-- The action as it is shown. Empty parentheses are left out. -/
def text (action : Action) : String :=
  if action.args = "" then action.name else s!"{action.name}({action.args})"

end Action

end PlanReferee
