/-! What makes a solution impossible to judge. A fault points at a broken instance or encoding, never
at a bad plan. -/

namespace PlanReferee

inductive Fault where
  /-- The text is not of the form `name(args)`. -/
  | malformed (raw : String)
  | noGoal
  | unknownAgent (agent raw : String)
deriving DecidableEq, Repr

def Fault.message : Fault → String
  | malformed raw => s!"can't parse name for predicate '{raw}'"
  | noGoal => "no goal defined, is `goal/1` hidden by `#show`?"
  | unknownAgent agent raw =>
    s!"fact '{raw}' schedules an action for undeclared agent '{agent}'"

end PlanReferee
