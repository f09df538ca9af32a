import PlanReferee.Solver.Status
import PlanReferee.Text.Lines

/-! The solutions that a solver prints. -/

namespace PlanReferee

open Text

/-- Announces an answer, which is the next line. -/
def answerMarker : List Char := "Answer: ".toList

def isAnswerMarker (line : List Char) : Bool := (after? answerMarker line).isSome

/-- Collects the lines that follow a marker and are none themselves. The flag tells whether the line
before was a marker. -/
def answerLines : Bool → List (List Char) → List (List Char)
  | _, [] => []
  | announced, line :: more =>
    if isAnswerMarker line then answerLines true more
    else if announced then line :: answerLines false more
    else answerLines false more

/-- The solutions in a solver's output, each split into its facts. -/
def answersIn (output : String) : List (List String) :=
  (answerLines false (lines output.toList)).map fun line => (words line).map String.ofList

structure Outcome where
  status : SolverStatus
  solutions : List (List String)
deriving DecidableEq, Repr

namespace Outcome

def timedOut : Outcome := ⟨.timeout, []⟩

def ofOutput (exitCode : Int) (output : String) : Outcome :=
  ⟨.ofExitCode exitCode, answersIn output⟩

end Outcome

end PlanReferee
