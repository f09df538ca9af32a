import Mathlib.Data.List.Forall2
import PlanReferee.Proofs.Dispatch

/-! Trials from end to end: what the solver's exit code and output, and the judgement of each
solution, make of the reports and of whether the test passed. -/

namespace PlanReferee

open WorkerPool

/-- The solution speaks for a positive test: it is valid, and not refused for having no facts. -/
structure Referee.Accepts (referee : Referee) (solution : List String) : Prop where
  valid : ∃ judged, referee.puzzle.judge solution = .ok judged ∧ judged.value.valid = true
  facts : solution ≠ [] ∨ referee.settings.requireSolutions = some false

/-- What is reported of one solution, which may be one that cannot be judged. -/
inductive Referee.Reported (referee : Referee) (solution : List String) : Report → Prop
  | judged (judged : Logged Verdict) (ok : referee.puzzle.judge solution = .ok judged)
    (report : Report) (logs : report.logs = judged.value.logs)
    (valid : report.valid = true ↔ referee.Accepts solution) : Reported referee solution report
  | rejected (fault : Fault) (failed : referee.puzzle.judge solution = .error fault) :
    Reported referee solution ⟨"", false, [.error fault.message]⟩

/-- What a trial keeps of a run that ended in time. -/
structure Referee.Tried (referee : Referee) (kind : TrialKind) (exitCode : Int) (output : String)
    (trial : Trial) : Prop where
  solutions : trial.solutions = answersIn output
  /-- There is one report for each solution, in their order. -/
  reports : List.Forall₂ referee.Reported (answersIn output) trial.reports
  /-- Whichever worker is done first, the reports are the same. -/
  pooled : ∀ pool, Pool.Reaches referee.report
    (Pool.start (referee.settings.workers referee.available) (answersIn output)) pool →
      pool.Settled → Referee.delivered pool = trial.reports
  passed : trial.passed = true ↔ match kind with
    | .negative => exitCode = 20
    | .positive => exitCode ∈ [10, 11, 30, 31, 62] ∧
      ∀ solution ∈ answersIn output, referee.Accepts solution

/-! Exit codes. -/

theorem SolverStatus.ofExitCode_eq_satisfiable (exitCode : Int) :
    ofExitCode exitCode = satisfiable ↔ exitCode ∈ [10, 11, 30, 31, 62] := by
  grind [ofExitCode]

theorem SolverStatus.ofExitCode_eq_unsatisfiable (exitCode : Int) :
    ofExitCode exitCode = unsatisfiable ↔ exitCode = 20 := by
  grind [ofExitCode]

/-! One report. -/

theorem Settings.requiresFacts_eq_false {settings : Settings} :
    settings.requiresFacts = false ↔ settings.requireSolutions = some false := by
  rw [requiresFacts]
  cases settings.requireSolutions <;> simp

theorem Fact.length_of_readAll {solution : List String} {facts : List Fact}
    (read : Fact.readAll solution = .ok facts) : facts.length = solution.length := by
  rcases Fact.readAll_cases solution with ⟨formed, all⟩ | ⟨_, _, _, failed⟩
  · cases all.symm.trans read
    clear all read
    induction solution with
    | nil => rfl
    | cons raw more ih =>
      obtain ⟨first, rest⟩ := List.forall_mem_cons.mp formed
      obtain ⟨fact, read⟩ := Option.ne_none_iff_exists'.mp first
      rw [List.filterMap_cons, read, List.length_cons, List.length_cons, ih rest]
  · cases failed.symm.trans read

theorem Puzzle.judge_of_review {puzzle : Puzzle} {solution : List String}
    {review : Review puzzle.world} (ok : Review.ofSolution puzzle.world solution = .ok review) :
    puzzle.judge solution = .ok ⟨review.verdict, review.openingEvents ++ review.verdictEvents⟩ := by
  rw [judge, ok]
  rfl

namespace Referee

/-- A report is valid as its solution is accepted. -/
theorem report_valid {referee : Referee} {solution : List String}
    {review : Review referee.puzzle.world}
    (ok : Review.ofSolution referee.puzzle.world solution = .ok review) :
    (Report.ofReview review review.verdict referee.settings.requiresFacts).valid = true ↔
      referee.Accepts solution := by
  have judged := Puzzle.judge_of_review ok
  obtain ⟨facts, built?, read, _, rfl⟩ := Review.ofSolution_eq_ok ok
  have none_left : facts.isEmpty = true ↔ solution = [] := by
    rw [List.isEmpty_iff_length_eq_zero, Fact.length_of_readAll read, List.length_eq_zero_iff]
  have counted : (!referee.settings.requiresFacts || !facts.isEmpty) = true ↔
      solution ≠ [] ∨ referee.settings.requireSolutions = some false := by
    rw [← Settings.requiresFacts_eq_false, ne_eq, ← none_left, Bool.or_eq_true,
      Bool.not_eq_true', Bool.not_eq_true', Bool.not_eq_true, or_comm]
  rw [Report.ofReview, Bool.and_eq_true]
  constructor
  · rintro ⟨enough, valid⟩
    exact ⟨⟨_, judged, valid⟩, counted.mp enough⟩
  · rintro ⟨⟨_, ok, valid⟩, enough⟩
    cases judged.symm.trans ok
    exact ⟨counted.mpr enough, valid⟩

theorem report_reported (referee : Referee) (solution : List String) :
    referee.Reported solution (referee.report solution) := by
  rw [report, Puzzle.report]
  cases reviewed : Review.ofSolution referee.puzzle.world solution with
  | error fault =>
    refine .rejected fault ?_
    rw [Puzzle.judge, reviewed]
    rfl
  | ok review => exact .judged _ (Puzzle.judge_of_review reviewed) _ rfl (report_valid reviewed)

/-- A rejected solution is neither valid nor accepted. -/
theorem Reported.valid_iff {referee : Referee} {solution : List String} {report : Report}
    (reported : referee.Reported solution report) :
    report.valid = true ↔ referee.Accepts solution := by
  cases reported with
  | judged _ _ _ _ valid => exact valid
  | rejected fault failed =>
    refine iff_of_false Bool.false_ne_true fun accepts => ?_
    obtain ⟨_, ok, _⟩ := accepts.valid
    cases failed.symm.trans ok

/-! Whole runs. -/

theorem verified_iff (referee : Referee) (solutions : List (List String)) :
    (referee.reports solutions).all (·.valid) = true ↔
      ∀ solution ∈ solutions, referee.Accepts solution := by
  rw [reports_eq_map, List.all_map, List.all_eq_true]
  exact forall₂_congr fun solution _ => (referee.report_reported solution).valid_iff

/-- A trial passes on the right evidence only: a negative one by its exit code, a positive one by
its exit code and every single solution. Without an answer in time nothing passes. -/
theorem run_tried (referee : Referee) (kind : TrialKind) (request : Request) :
    (∀ exitCode output, referee.Tried kind exitCode output
      (referee.run kind request (.answered (.ofOutput exitCode output))).value) ∧
      (referee.run kind request .stalled).value = ⟨kind, .timeout, [], []⟩ ∧
      (referee.run kind request .stalled).value.passed = false := by
  refine ⟨fun exitCode output => ?_, rfl, by cases kind <;> rfl⟩
  constructor
  case solutions => rfl
  case reports =>
    show List.Forall₂ _ _ (referee.reports (answersIn output))
    rw [reports_eq_map, List.forall₂_map_right_iff, List.forall₂_same]
    exact fun solution _ => referee.report_reported solution
  case pooled =>
    intro pool reached settled
    exact (done_of_settled reached.orderly settled).reports.trans
      (referee.reports_eq_map (answersIn output)).symm
  case passed =>
    cases kind with
    | negative => exact beq_iff_eq.trans (SolverStatus.ofExitCode_eq_unsatisfiable exitCode)
    | positive =>
      have status := SolverStatus.ofExitCode_eq_satisfiable exitCode
      exact Bool.and_eq_true_iff.trans
        (and_congr (beq_iff_eq.trans status) (referee.verified_iff _))

end Referee

end PlanReferee
