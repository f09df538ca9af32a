/-! How a solver run ended. -/

namespace PlanReferee

inductive SolverStatus where
  | satisfiable
  | unsatisfiable
  | ok
  | unknown
  | timeout
  | syntaxError
deriving DecidableEq, Repr

namespace SolverStatus

/-- An interrupted run that found models counts as satisfiable, one that found none is unknown. -/
def ofExitCode (code : Int) : SolverStatus :=
  if code = 0 then ok
  else if code ∈ [10, 11, 30, 31, 62] then satisfiable
  else if code = 20 then unsatisfiable
  else if code ∈ [65, 128] then syntaxError
  else unknown

def text : SolverStatus → String
  | satisfiable => "SATISFIABLE"
  | unsatisfiable => "UNSATISFIABLE"
  | ok => "OK"
  | unknown => "UNKNOWN"
  | timeout => "TIMEOUT"
  | syntaxError => "SYNTAX_ERROR"

end SolverStatus

end PlanReferee
