import PlanReferee.Proofs.Plan.Idle
import PlanReferee.Proofs.Verdict

/-! Sparse and dense time. Where nothing is done, it does not matter whether a time has a step, and
for the errors of a solution not even whether the time is declared. -/

namespace PlanReferee

open Std (ExtTreeMap ExtTreeSet)

/-- The texts of a solution that are no facts of a name. -/
def factsBut (name : String) (solution : List String) : List String :=
  solution.filter fun raw => !(Fact.read? raw).any fun fact => fact.name = name

/-- The facts but for those that are named `time`, be it that they declare one or not. -/
def timeless (facts : List Fact) : List Fact := facts.filter fun fact => fact.name ≠ "time"

/-- No world tells the plans apart. -/
structure SameFindings (plan other : Plan) : Prop where
  replay : Blocks.replay plan = Blocks.replay other
  blocks : Blocks.verify plan = Blocks.verify other
  walk : Statues.Walk.ofPlan plan = Statues.Walk.ofPlan other
  /-- Whichever lights are red. -/
  statues : ∀ state, Statues.verify state plan = Statues.verify state other
  coffee : Coffee.verify plan = Coffee.verify other

/-! Facts. -/

theorem find?_factsBut (name : String) (solution : List String) :
    ((factsBut name solution).find? fun raw => (Fact.read? raw).isNone) =
      solution.find? fun raw => (Fact.read? raw).isNone := by
  rw [factsBut, List.find?_filter]
  refine congrArg (fun p => solution.find? p) (funext fun raw => ?_)
  cases Fact.read? raw <;> simp

theorem filterMap_factsBut (solution : List String) :
    (factsBut "time" solution).filterMap Fact.read? = timeless (solution.filterMap Fact.read?) := by
  rw [factsBut, timeless, List.filter_filterMap, List.filterMap_filter]
  refine List.filterMap_congr fun raw _ => ?_
  cases Fact.read? raw with
  | none => rfl
  | some fact => by_cases h : fact.name = "time" <;> simp [h, Option.filter_some]

theorem filterMap_timeless {α : Type} {pick : Fact → Option α}
    (silent : ∀ fact, fact.name = "time" → pick fact = none) (facts : List Fact) :
    (timeless facts).filterMap pick = facts.filterMap pick := by
  rw [timeless, List.filterMap_filter]
  refine List.filterMap_congr fun fact _ => ?_
  by_cases named : fact.name = "time" <;> simp [named, silent]

/-- A fact of that name declares a time, if it says anything. -/
theorem Fact.time_of_says {fact : Fact} {said : Statement} (named : fact.name = "time")
    (h : fact.Says said) : ∃ t, said = .time t := by
  cases said with
  | time t => exact ⟨t, rfl⟩
  | exec t agent? action => cases agent? <;> simp [Says, Timed, named] at h
  | _ => simp [Says, Timed, named] at h

theorem filterMap_readings {α : Type} {pick : Reading → Option α}
    (silent : ∀ fact t, pick (fact, .time t) = none) {facts other : List Fact}
    (same : timeless facts = timeless other) :
    (readings facts).filterMap pick = (readings other).filterMap pick := by
  have picked : ∀ facts, (readings facts).filterMap pick = (timeless facts).filterMap fun fact =>
      ((Statement.lexicon.read? fact).map fun said => (fact, said)).bind pick := by
    intro facts
    rw [readings, List.filterMap_filterMap, filterMap_timeless]
    intro fact named
    cases read : Statement.lexicon.read? fact with
    | none => rfl
    | some said =>
      obtain ⟨t, rfl⟩ := Fact.time_of_says named ((Statement.read?_eq_some_iff fact said).mp read)
      exact silent fact t
  rw [picked, picked, same]

/-! Plans. -/

namespace Plan

variable {facts other : List Fact}

theorem filterMap_said {α : Type} (pick : Statement → Option α)
    (silent : ∀ t, pick (.time t) = none) (same : timeless facts = timeless other) :
    ((readings facts).map (·.2)).filterMap pick = ((readings other).map (·.2)).filterMap pick := by
  rw [List.filterMap_map, List.filterMap_map]
  exact filterMap_readings (fun _ => silent) same

theorem roster_timeless (same : timeless facts = timeless other) :
    roster ((readings facts).map (·.2)) = roster ((readings other).map (·.2)) := by
  unfold roster
  rw [filterMap_said Statement.agent? (fun _ => rfl) same]

theorem sameDeeds_assemble (same : timeless facts = timeless other) :
    (assemble (readings facts)).plan.SameDeeds (assemble (readings other)).plan := by
  have agents : (assemble (readings facts)).plan.agents =
      (assemble (readings other)).plan.agents := congrArg Prod.fst (roster_timeless same)
  constructor
  case agents => exact agents
  case start => exact filterMap_said Statement.start? (fun _ => rfl) same
  case goal => exact filterMap_said Statement.goal? (fun _ => rfl) same
  case busySteps =>
    refine busySteps_ext fun t step busy => ?_
    have orders := filterMap_said Statement.order? (fun _ => rfl) same
    rw [timeline_assemble, timeline_assemble, agents, orders]
    exact ⟨stored_timelineOf _ _ busy, stored_timelineOf _ _ busy⟩

/-- Two lists of facts make plans of the same deeds, or are at fault for the same. -/
theorem build_timeless (same : timeless facts = timeless other) :
    (∃ fault, build facts = .error fault ∧ build other = .error fault) ∨
      ∃ built built', build facts = .ok built ∧ build other = .ok built' ∧
        built.plan.SameDeeds built'.plan := by
  have strangers : ∀ agents, (readings facts).findSome? (stranger? agents) =
      (readings other).findSome? (stranger? agents) := by
    intro agents
    rw [← List.head?_filterMap, ← List.head?_filterMap, filterMap_readings (fun _ _ => rfl) same]
  have goals := filterMap_said Statement.goal? (fun _ => rfl) same
  unfold build
  dsimp only
  rw [← roster_timeless same, ← strangers, ← goals]
  cases (readings facts).findSome? (stranger? (roster ((readings facts).map (·.2))).1) with
  | some fault => exact .inl ⟨fault, rfl, rfl⟩
  | none =>
    dsimp only
    split
    · exact .inl ⟨.noGoal, rfl, rfl⟩
    · exact .inr ⟨_, _, rfl, rfl, sameDeeds_assemble same⟩

end Plan

/-! Verdicts. -/

theorem Puzzle.knows_time (puzzle : Puzzle) {fact : Fact} (named : fact.name = "time") :
    puzzle.world.knows fact = false := by
  have foreign : ∀ entry ∈ puzzle.world.lexicon, entry.name ≠ "time" := by
    cases puzzle <;> decide +kernel
  rw [World.knows, Lexicon.read?_eq_none (named ▸ foreign), Option.isSome_none]

/-- A world does not notice which times are declared. -/
theorem Puzzle.offerAll_timeless (puzzle : Puzzle) {facts other : List Fact}
    (same : timeless facts = timeless other) :
    puzzle.world.offerAll facts = puzzle.world.offerAll other := by
  have known : ∀ facts : List Fact,
      facts.filter puzzle.world.knows = (timeless facts).filter puzzle.world.knows := by
    intro facts
    rw [timeless, List.filter_filter]
    refine List.filter_congr fun fact _ => ?_
    by_cases named : fact.name = "time"
    · simp [named, puzzle.knows_time named]
    · simp [named]
  rw [← World.offerAll_filter facts, known facts, same, ← known other, World.offerAll_filter]

/-- Declared times are remarked on, which is no error. -/
theorem Puzzle.errors_sameDeeds (puzzle : Puzzle) (state : puzzle.world.State) {plan other : Plan}
    (same : plan.SameDeeds other) :
    (puzzle.world.verify state (some plan)).filter Diagnostic.isError =
      (puzzle.world.verify state (some other)).filter Diagnostic.isError := by
  cases puzzle with
  | blocks => exact Blocks.errors_eq_of_sameMoves same.sameMoves
  | dependencyHell => rfl
  | statues =>
    refine congrArg (List.filter Diagnostic.isError) ?_
    exact congrArg (List.map Statues.Finding.diagnostic) (Statues.check_sameDeeds state same)
  | coffee =>
    have quiet := fun plan => (errorFree_iff_filter _).mp (remarks_errorFree plan)
    exact (quiet plan).trans (quiet other).symm

namespace Review

theorem errors_verdict {world : World} (review : Review world) :
    review.verdict.errors = review.findings.filter Diagnostic.isError := by
  have last : (if review.findings.any Diagnostic.isError then []
      else [Diagnostic.info "No issues found!"]).filter Diagnostic.isError = [] := by
    split <;> rfl
  have ignored := (errorFree_iff_filter _).mp (ignoredLine_errorFree review.ignored.toList)
  rw [Verdict.errors, logs_verdict, List.filter_append, List.filter_append, ignored, last,
    List.append_nil, List.append_nil]

theorem valid_eq_errors {world : World} (review : Review world) :
    review.verdict.valid = review.verdict.errors.isEmpty := by
  rw [Bool.eq_iff_iff, valid_iff, errorFree_iff_filter, ← errors_verdict, List.isEmpty_iff]

/-- The world learns from all facts: none that it knows has gone into the plan. -/
theorem state_of_built {puzzle : Puzzle} {solution : List String} {facts : List Fact}
    {built? : Option Built} (read : Fact.readAll solution = .ok facts)
    (built : buildFor puzzle.world facts = .ok built?) :
    (assemble puzzle.world facts built?).state = puzzle.world.offerAll facts := by
  have left : ∀ fact ∈ facts, puzzle.world.knows fact = true → fact.raw ∉ consumed built? := by
    intro fact member known taken
    cases built? with
    | none => exact ExtTreeSet.not_mem_empty taken
    | some plan =>
      obtain ⟨said, h, _⟩ := (raw_mem_consumed read member (build_of_buildFor built rfl)).mp taken
      rw [puzzle.knows_eq_false h] at known
      cases known
  have same : (facts.filter fun fact => fact.raw ∉ consumed built? ∧
      puzzle.world.knows fact = true) = facts.filter puzzle.world.knows := by
    refine List.filter_congr fun fact member => ?_
    rw [Bool.eq_iff_iff, decide_eq_true_eq]
    exact and_iff_right_of_imp (left fact member)
  rw [state_assemble, same, World.offerAll_filter]

/-- Facts that declare times make no difference to the errors that are found. -/
theorem errors_timeless (puzzle : Puzzle) {facts other : List Fact}
    (same : timeless facts = timeless other) :
    (∃ fault, buildFor puzzle.world facts = .error fault ∧
        buildFor puzzle.world other = .error fault) ∨
      ∃ built? built'?, buildFor puzzle.world facts = .ok built? ∧
        buildFor puzzle.world other = .ok built'? ∧
        ∀ state, (puzzle.world.verify state (built?.map (·.plan))).filter Diagnostic.isError =
          (puzzle.world.verify state (built'?.map (·.plan))).filter Diagnostic.isError := by
  unfold buildFor
  split
  case isTrue =>
    rcases Plan.build_timeless same with
      ⟨fault, failed, failed'⟩ | ⟨built, built', ok, ok', deeds⟩
    · rw [failed, failed']
      exact .inl ⟨fault, rfl, rfl⟩
    · rw [ok, ok']
      exact .inr ⟨_, _, rfl, rfl, fun state => puzzle.errors_sameDeeds state deeds⟩
  case isFalse => exact .inr ⟨none, none, rfl, rfl, fun _ => rfl⟩

theorem ofSolution_timeless (puzzle : Puzzle) {solution other : List String}
    (same : factsBut "time" solution = factsBut "time" other) :
    (∃ fault, ofSolution puzzle.world solution = .error fault ∧
        ofSolution puzzle.world other = .error fault) ∨
      ∃ review review', ofSolution puzzle.world solution = .ok review ∧
        ofSolution puzzle.world other = .ok review' ∧
        review.verdict.errors = review'.verdict.errors := by
  have facts : timeless (solution.filterMap Fact.read?) =
      timeless (other.filterMap Fact.read?) := by
    rw [← filterMap_factsBut, ← filterMap_factsBut, same]
  have malformed : (solution.find? fun raw => (Fact.read? raw).isNone) =
      other.find? fun raw => (Fact.read? raw).isNone := by
    rw [← find?_factsBut "time", ← find?_factsBut "time" other, same]
  rcases Fact.readAll_alike malformed with ⟨fault, failed, failed'⟩ | ⟨read, read'⟩
  · exact .inl ⟨fault, by rw [ofSolution, failed], by rw [ofSolution, failed']⟩
  · rw [ofSolution, ofSolution, read, read']
    dsimp only
    rcases errors_timeless puzzle facts with
      ⟨fault, failed, failed'⟩ | ⟨built?, built'?, ok, ok', errors⟩
    · rw [failed, failed']
      exact .inl ⟨fault, rfl, rfl⟩
    · rw [ok, ok']
      refine .inr ⟨_, _, rfl, rfl, ?_⟩
      rw [errors_verdict, errors_verdict, findings, findings, state_of_built read ok,
        state_of_built read' ok', puzzle.offerAll_timeless facts]
      exact errors _

end Review

theorem Plan.Filled.sameFindings {plan other : Plan} (filled : plan.Filled other) :
    SameFindings plan other := by
  have same := filled.sameDeeds
  have times : plan.declaredTimes = other.declaredTimes := by rw [filled.rest]
  have replay := Blocks.replay_sameDeeds same times
  constructor
  case replay => exact replay
  case blocks => rw [Blocks.verify, Blocks.verify, replay]
  case walk => exact Statues.ofPlan_sameDeeds same
  case statues =>
    intro state
    rw [Statues.verify, Statues.verify, Statues.check_sameDeeds state same]
  case coffee => rw [Coffee.verify, Coffee.verify, same.remarks times]

/-- A plan with steps at used times only is checked like one with idle steps wherever one likes. To
a solution any facts that declare times can be added, and it stays as valid as it is and keeps its
errors, or its fault. -/
theorem sparse_dense :
    (∀ plan other : Plan, plan.Filled other → SameFindings plan other) ∧
      ∀ (puzzle : Puzzle) (solution other : List String),
        factsBut "time" solution = factsBut "time" other →
          (puzzle.judge solution).map (fun judged => (judged.value.valid, judged.value.errors)) =
            (puzzle.judge other).map fun judged => (judged.value.valid, judged.value.errors) := by
  refine ⟨fun _ _ filled => filled.sameFindings, fun puzzle solution other same => ?_⟩
  rw [Puzzle.judge, Puzzle.judge]
  rcases Review.ofSolution_timeless puzzle same with
    ⟨fault, failed, failed'⟩ | ⟨review, review', ok, ok', errors⟩
  · rw [failed, failed']
  · have valid : review.verdict.valid = review'.verdict.valid := by
      rw [review.valid_eq_errors, review'.valid_eq_errors, errors]
    rw [ok, ok']
    exact congrArg Except.ok (Prod.ext valid errors)

/-- A walk with a long rest. -/
def restingWalk : List String :=
  ["start(at(0))", "exec(0,move(1))", "goal(at(2))", "exec(90,move(2))"]

/-- The walk with times declared during and after the rest, one of them twice. -/
def timedWalk : List String :=
  ["time(7)", "start(at(0))", "exec(0,move(1))", "time(4294967295)", "goal(at(2))", "time(7)",
    "exec(90,move(2))", "time(90)"]

def resting : Plan := (Plan.assemble (readings (restingWalk.filterMap Fact.read?))).plan

theorem sparse_dense_walk :
    (resting.steps.length = 2 ∧ (resting.fill [0, 1, 2, 3]).steps.length = 5 ∧
      SameFindings resting (resting.fill [0, 1, 2, 3])) ∧
      (Puzzle.statues.judge restingWalk).map
          (fun judged => (judged.value.valid, judged.value.errors)) =
        (Puzzle.statues.judge timedWalk).map fun judged =>
          (judged.value.valid, judged.value.errors) := by
  have sparse : resting.steps.length = 2 := by decide +kernel
  have dense : (resting.fill [0, 1, 2, 3]).steps.length = 5 := by decide +kernel
  have same : factsBut "time" restingWalk = factsBut "time" timedWalk := by decide +kernel
  exact ⟨⟨sparse, dense, sparse_dense.1 resting _ (resting.filled_fill [0, 1, 2, 3])⟩,
    sparse_dense.2 .statues restingWalk timedWalk same⟩

end PlanReferee
