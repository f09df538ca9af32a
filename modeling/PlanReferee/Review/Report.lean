import PlanReferee.Review

/-! Reports: what is kept of one solution. A solution that cannot be judged has a report too. -/

namespace PlanReferee

structure Report where
  summary : String
  /-- Unset also for an empty solution where facts are required. -/
  valid : Bool
  logs : List Diagnostic
deriving DecidableEq, Repr

namespace Report

def ofReview {world : World} (review : Review world) (verdict : Verdict) (requireFacts : Bool) : Report where
  summary := review.summary
  valid := (!requireFacts || !review.facts.isEmpty) && verdict.valid
  logs := verdict.logs

def rejected (fault : Fault) : Report := ⟨"", false, [.error fault.message]⟩

/-- Stands for a report that a worker did not deliver. -/
def unfinished : Report := ⟨"", false, [.error "Validation worker did not finish."]⟩

end Report

def Puzzle.report (puzzle : Puzzle) (solution : List String) (requireFacts : Bool) :
    Logged Report :=
  match Review.ofSolution puzzle.world solution with
  | .ok review =>
    ⟨.ofReview review review.verdict requireFacts, review.openingEvents ++ review.verdictEvents⟩
  | .error fault => ⟨.rejected fault, [.solutionRejected puzzle fault]⟩

end PlanReferee
