import PlanReferee.Solver.Answers
import PlanReferee.Solver.Request
import PlanReferee.Trial
import PlanReferee.WorkerPool

/-! The referee: asks a solver, judges every solution it gives, and says whether the test passed. -/

namespace PlanReferee

/-- What a solver does with a request: it answers in time, or not at all. -/
inductive Response where
  | answered (outcome : Outcome)
  | stalled
deriving DecidableEq, Repr

structure Referee where
  puzzle : Puzzle
  settings : Settings
  /-- How many workers the machine can run at a time. -/
  available : Nat

namespace Referee

def solve (referee : Referee) (request : Request) : Response → Logged Outcome
  | .answered outcome => ⟨outcome, []⟩
  | .stalled =>
    ⟨.timedOut, [.runTimedOut request.problem request.test referee.settings.timeout]⟩

def report (referee : Referee) (solution : List String) : Report :=
  (referee.puzzle.report solution referee.settings.requiresFacts).value

/-- The reports on all solutions in their order, made by a pool of workers. -/
def reports (referee : Referee) (solutions : List (List String)) : List Report :=
  (WorkerPool.run referee.report (referee.settings.workers referee.available) solutions).map
    fun report? => report?.getD .unfinished

def run (referee : Referee) (kind : TrialKind) (request : Request) (response : Response) :
    Logged Trial :=
  let outcome := referee.solve request response
  let trial : Trial :=
    { kind
      status := outcome.value.status
      solutions := outcome.value.solutions
      reports := referee.reports outcome.value.solutions }
  ⟨trial, outcome.events
    ++ [.testFinished request.test trial.status trial.solutions.length trial.passed]⟩

end Referee

end PlanReferee
