import PlanReferee.Puzzle
import PlanReferee.Solver.Status

/-! The event log: what a run tells about itself beside its answers. -/

namespace PlanReferee

inductive Level where
  | debug
  | info
  | warn
deriving DecidableEq, Repr

def Level.label : Level → String
  | debug => "DEBUG"
  | info => "INFO"
  | warn => "WARN"

inductive FieldValue where
  | number (n : Nat)
  | flag (b : Bool)
  | text (s : String)
deriving DecidableEq, Repr

inductive Event where
  | lateHolds (t last : Time) (raw : String)
  | planBuilt (agents steps recognized : Nat)
  | worldVerified (world : String) (diagnostics : Nat)
  | verdictReached (world : String) (valid : Bool) (diagnostics : Nat)
  | solutionRejected (puzzle : Puzzle) (fault : Fault)
  | headerWithoutValue (line : String)
  | modelsNotNumeric (value : String)
  | runTimedOut (problem test : String) (timeoutMs : UInt64)
  | testFinished (test : String) (status : SolverStatus) (solutions : Nat) (passed : Bool)
deriving DecidableEq, Repr

namespace Event

def level : Event → Level
  | lateHolds .. | planBuilt .. | worldVerified .. | solutionRejected .. => .debug
  | verdictReached .. | testFinished .. => .info
  | headerWithoutValue .. | modelsNotNumeric .. | runTimedOut .. => .warn

def message : Event → String
  | lateHolds .. => "holds past the terminal snapshot"
  | planBuilt .. => "plan built"
  | worldVerified .. => "domain verify finished"
  | verdictReached .. => "validation verdict cached"
  | solutionRejected .. => "solution rejected"
  | headerWithoutValue .. => "ignoring test header without `=`"
  | modelsNotNumeric .. => "ignoring non-numeric MODELS"
  | runTimedOut .. => "solver run timed out"
  | testFinished .. => "test finished"

def fields : Event → List (String × FieldValue)
  | lateHolds t last raw => [("time", .number t.toNat), ("last", .number last.toNat), ("fact", .text raw)]
  | planBuilt agents steps recognized =>
    [("agents", .number agents), ("steps", .number steps), ("recognized", .number recognized)]
  | worldVerified world diagnostics =>
    [("domain", .text world), ("diagnostics", .number diagnostics)]
  | verdictReached world valid diagnostics =>
    [("domain", .text world), ("valid", .flag valid), ("diagnostics", .number diagnostics)]
  | solutionRejected puzzle fault =>
    [("puzzle", .text puzzle.label), ("error", .text fault.message)]
  | headerWithoutValue line => [("line", .text line)]
  | modelsNotNumeric value => [("value", .text value)]
  | runTimedOut problem test timeoutMs =>
    [("instance", .text problem), ("test", .text test), ("timeout_ms", .number timeoutMs.toNat)]
  | testFinished test status solutions passed =>
    [("test", .text test), ("status", .text status.text), ("solutions", .number solutions),
     ("passed", .flag passed)]

end Event

/-- A value and the events on the way to it. -/
structure Logged (α : Type) where
  value : α
  events : List Event

end PlanReferee
