import PlanReferee.Review.Report
import PlanReferee.Solver.Status

/-! Trials: one test run against a solver, and what was expected of it. -/

namespace PlanReferee

/-- A positive test expects models, a negative one expects that there are none. -/
inductive TrialKind where
  | positive
  | negative
deriving DecidableEq, Repr

def TrialKind.expected : TrialKind → SolverStatus
  | positive => .satisfiable
  | negative => .unsatisfiable

structure Trial where
  kind : TrialKind
  status : SolverStatus
  solutions : List (List String)
  reports : List Report
deriving DecidableEq

namespace Trial

def verified (trial : Trial) : Bool := trial.reports.all (·.valid)

/-- A positive test passes if there are models and all of them are valid, a negative one if there are
none. -/
def passed (trial : Trial) : Bool :=
  match trial.kind with
  | .positive => trial.status == trial.kind.expected && trial.verified
  | .negative => trial.status == trial.kind.expected

end Trial

end PlanReferee
