import PlanReferee.Event
import PlanReferee.Plan.Build

/-! A review: one solution read for one world. The plan takes its facts first, and what it leaves is
offered to the world; facts that neither recognizes are only named in the verdict. -/

namespace PlanReferee

open Std (ExtTreeSet)

def Built.events (built : Built) : List Event :=
  built.late.map (fun late => .lateHolds late.time late.last late.raw)
    ++ [.planBuilt built.plan.agents.size built.plan.timeline.size built.recognized.size]

structure Review (world : World) where
  facts : List Fact
  /-- Missing where the world has no timeline. -/
  built? : Option Built
  state : world.State
  /-- The raw facts that the plan or the world took. -/
  recognized : ExtTreeSet String

structure Verdict where
  valid : Bool
  logs : List Diagnostic
  recognized : ExtTreeSet String
deriving DecidableEq

namespace Verdict

def errors (verdict : Verdict) : List Diagnostic := verdict.logs.filter Diagnostic.isError

def count (verdict : Verdict) (severity : Severity) : Nat :=
  verdict.logs.countP fun d => d.severity == severity

end Verdict

namespace Review

def buildFor (world : World) (facts : List Fact) : Except Fault (Option Built) :=
  if world.usesTimeline then (Plan.build facts).map some else .ok none

/-- The raw facts that went into a plan, if there is one. -/
def consumed (built? : Option Built) : ExtTreeSet String := (built?.map (·.recognized)).getD ∅

/-- The facts that a plan leaves to the world. -/
def offered (built? : Option Built) (facts : List Fact) : List Fact :=
  facts.filter fun fact => fact.raw ∉ consumed built?

def assemble (world : World) (facts : List Fact) (built? : Option Built) : Review world where
  facts
  built?
  state := world.offerAll (offered built? facts)
  recognized := ((offered built? facts).filter world.knows).foldl
    (fun known fact => known.insert fact.raw) (consumed built?)

def ofSolution (world : World) (solution : List String) : Except Fault (Review world) :=
  match Fact.readAll solution with
  | .error fault => .error fault
  | .ok facts => (buildFor world facts).map (assemble world facts)

variable {world : World}

def openingEvents (review : Review world) : List Event := (review.built?.map Built.events).getD []

def plan? (review : Review world) : Option Plan := review.built?.map (·.plan)

def summary (review : Review world) : String := world.summary review.state review.plan?

def findings (review : Review world) : List Diagnostic := world.verify review.state review.plan?

def ignored (review : Review world) : ExtTreeSet String :=
  .ofList ((review.facts.filter fun fact => fact.raw ∉ review.recognized).map (·.name))

/-- What a review adds to its world's findings. -/
inductive Remark where
  | ignored (names : List String)
  | noIssues
deriving DecidableEq, Repr

def Remark.diagnostic : Remark → Diagnostic
  | ignored names => .warning ("Ignored predicates: [" ++ ", ".intercalate names ++ "]")
  | noIssues => .info "No issues found!"

/-- Valid unless there is an error. -/
def verdict (review : Review world) : Verdict :=
  let logs := review.findings
    ++ (if review.ignored.isEmpty then []
        else [(Remark.ignored review.ignored.toList).diagnostic])
  let valid := !logs.any Diagnostic.isError
  { valid
    logs := logs ++ (if valid then [Remark.noIssues.diagnostic] else [])
    recognized := review.recognized }

def verdictEvents (review : Review world) : List Event :=
  [.worldVerified world.name review.findings.length,
   .verdictReached world.name review.verdict.valid review.verdict.logs.length]

/-- A listing of the solution, the verdict and the reasons for it. -/
def listing (review : Review world) (verdict : Verdict) : String :=
  "Validator[\n  domain: " ++ world.name
    ++ "\n  solution: [" ++ ", ".intercalate (review.facts.map (·.raw))
    ++ "]\n  valid: " ++ toString verdict.valid
    ++ "\n  issues: " ++ "\n          ".intercalate (verdict.logs.map Diagnostic.line)
    ++ "\n]"

/-- A short view for debugging, which says whether there is a verdict yet. -/
def sketch (review : Review world) (decided : Bool) : String :=
  s!"Validator \x7b domain: \"{world.name}\", facts_len: {review.facts.length}, "
    ++ s!"recognized_len: {review.recognized.size}, validated: {decided} \x7d"

end Review

def Puzzle.judge (puzzle : Puzzle) (solution : List String) : Except Fault (Logged Verdict) :=
  (Review.ofSolution puzzle.world solution).map fun review =>
    ⟨review.verdict, review.openingEvents ++ review.verdictEvents⟩

end PlanReferee
