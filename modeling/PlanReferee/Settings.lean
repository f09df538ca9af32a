/-! Settings for running and judging tests. Each one may be left open and then has a default. -/

namespace PlanReferee

structure Settings where
  timeoutMs : Option UInt64 := none
  defaultModels : Option UInt32 := none
  maxWorkers : Option UInt64 := none
  singleAgent : Option Bool := none
  requireSolutions : Option Bool := none
deriving DecidableEq, Repr

namespace Settings

/-- How long one solver run may take: twenty seconds unless set. -/
def timeout (settings : Settings) : UInt64 := settings.timeoutMs.getD 20000

/-- How many models to ask for where a test does not say. -/
def models (settings : Settings) : UInt32 := settings.defaultModels.getD 1

/-- How many solutions to judge at a time: as many as set, or as the machine can, but at least one. -/
def workers (settings : Settings) (available : Nat) : Nat :=
  max 1 ((settings.maxWorkers.map UInt64.toNat).getD available)

def hasSingleAgent (settings : Settings) : Bool := settings.singleAgent.getD false

/-- Whether a solution without facts is refused. -/
def requiresFacts (settings : Settings) : Bool := settings.requireSolutions.getD true

end Settings

end PlanReferee
