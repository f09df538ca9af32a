import PlanReferee.Proofs.Verdict
import PlanReferee.Proofs.WorkerPool
import PlanReferee.Referee

/-! A referee's reports, made by several workers at a time. In whatever order the workers move, no
more of them run than the settings allow, and the reports come out in the order of the solutions. -/

namespace PlanReferee

open WorkerPool

/-! No report reads like the stand-in for a missing one. -/

theorem Review.message_ne_unfinished {puzzle : Puzzle} (review : Review puzzle.world) :
    ∀ d ∈ review.verdict.logs, d.message ≠ "Validation worker did not finish." := by
  intro d member same
  rw [logs_verdict] at member
  rcases List.mem_append.mp member with earlier | last
  · refine review.message_not_reserved d earlier ?_
    rw [same]
    decide +kernel
  · split at last
    · cases last
    · cases List.mem_singleton.mp last
      revert same
      decide +kernel

theorem Puzzle.report_message (puzzle : Puzzle) (solution : List String) (requireFacts : Bool) :
    ∀ d ∈ (puzzle.report solution requireFacts).value.logs,
      d.message ≠ "Validation worker did not finish." := by
  rw [report]
  cases Review.ofSolution puzzle.world solution with
  | ok review => exact review.message_ne_unfinished
  | error fault =>
    refine List.forall_mem_singleton.mpr fun same => fault.message_not_reserved ?_
    rw [show fault.message = "Validation worker did not finish." from same]
    decide +kernel

namespace Referee

/-- The reports that are handed out, with a stand-in for each one that is missing. -/
def delivered (pool : Pool (List String) Report) : List Report :=
  pool.results.map fun report? => report?.getD .unfinished

/-- All units have done their work: the reports are there, in order and without a stand-in, and nobody
holds a permit any more. -/
structure Done (referee : Referee) (solutions : List (List String))
    (pool : Pool (List String) Report) : Prop where
  reports : delivered pool = solutions.map fun solution =>
    (referee.puzzle.report solution referee.settings.requiresFacts).value
  length : (delivered pool).length = solutions.length
  genuine : ∀ report ∈ delivered pool, ∀ d ∈ report.logs,
    d.message ≠ "Validation worker did not finish."
  free : pool.free = referee.settings.workers referee.available

/-- A pool at work on a referee's solutions, however far it has come. -/
structure Dispatches (referee : Referee) (solutions : List (List String))
    (pool : Pool (List String) Report) : Prop where
  bounded : pool.running ≤ referee.settings.workers referee.available
  permits : pool.held + pool.free = referee.settings.workers referee.available
  placed : ∀ (i : Nat) (solution : List String), solutions[i]? = some solution →
    pool.tasks[i]? = some .collected → pool.results[i]? =
      some (some (referee.puzzle.report solution referee.settings.requiresFacts).value)
  finishes : ∃ final, Pool.Reaches referee.report pool final ∧ final.Settled
  done : pool.Settled → referee.Done solutions pool

theorem some_worker (referee : Referee) : 0 < referee.settings.workers referee.available :=
  Nat.le_max_left 1 _

theorem done_of_settled {referee : Referee} {solutions : List (List String)}
    {pool : Pool (List String) Report}
    (orderly : Pool.Orderly referee.report (referee.settings.workers referee.available) solutions
      pool) (settled : pool.Settled) : referee.Done solutions pool := by
  have reports : delivered pool = solutions.map referee.report := by
    rw [delivered, orderly.results_of_settled settled, List.map_map]
    rfl
  constructor
  case reports => exact reports
  case length => rw [reports, List.length_map]
  case genuine =>
    rw [reports]
    rintro _ member
    obtain ⟨solution, _, rfl⟩ := List.mem_map.mp member
    exact referee.puzzle.report_message solution _
  case free => exact orderly.free_of_settled settled

/-- Whichever worker moves next, the reports come out the same and in order. -/
theorem dispatches (referee : Referee) (solutions : List (List String))
    (pool : Pool (List String) Report)
    (reached : Pool.Reaches referee.report
      (Pool.start (referee.settings.workers referee.available) solutions) pool) :
    referee.Dispatches solutions pool := by
  have orderly := reached.orderly
  constructor
  case bounded => exact orderly.running_le
  case permits => exact orderly.permits
  case placed =>
    intro i solution listed collected
    exact orderly.result_of_collected listed collected
  case finishes => exact Pool.settles orderly referee.some_worker
  case done => exact done_of_settled orderly

/-- Two workers for three solutions, and the first one to start is the last one to be collected. -/
def overtaking : List Move :=
  [.acquire 0, .acquire 1, .finish 1, .release 1, .acquire 2, .collect 1, .finish 2, .finish 0,
    .release 0, .release 2, .collect 2, .collect 0]

def pair : Referee := ⟨.blocks, { maxWorkers := some 2 }, 8⟩

def submissions : List (List String) := [["goal(on(a,table))"], ["goal"], []]

theorem dispatches_overtaking : ∃ pool,
    Pool.Reaches pair.report (Pool.start (pair.settings.workers pair.available) submissions) pool ∧
      pool.Settled ∧ pair.Dispatches submissions pool := by
  have reached := Pool.reaches_play pair.report overtaking
    (.start : Pool.Reaches pair.report
      (Pool.start (pair.settings.workers pair.available) submissions) _)
  have tasks : ((Pool.start (pair.settings.workers pair.available) submissions).play pair.report
      overtaking).tasks = List.replicate 3 .collected := rfl
  refine ⟨_, reached, fun task member => ?_, dispatches pair submissions _ reached⟩
  exact List.eq_of_mem_replicate (tasks ▸ member)

/-- The order in which the referee itself has its workers move is one of many. -/
theorem reports_eq_map (referee : Referee) (solutions : List (List String)) :
    referee.reports solutions = solutions.map referee.report := by
  rw [reports, run_eq_map _ referee.some_worker, List.map_map]
  rfl

end Referee

end PlanReferee
