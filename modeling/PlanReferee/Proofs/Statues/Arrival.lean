import PlanReferee.Proofs.Grammar
import PlanReferee.Proofs.Schedule
import PlanReferee.World.Statues

/-! Walks that arrive. A walk is free of errors exactly when one agent, with at most one action at a
time and none of its moves on red, makes as many moves as lie between start and goal. Positions are
counted without a bound here, so that a walk beyond the last position cannot pass. -/

namespace PlanReferee.Statues

open Std (ExtTreeMap ExtTreeSet)
open Text (Numeral64)

/-- The literal `at(x)`, with digits only and a 64-bit value. -/
def IsPlace (literal : String) (x : Int) : Prop :=
  ∃ digits : String, literal = "at(" ++ digits ++ ")" ∧ Numeral64 digits.toList x

/-- The last place among the literals. -/
def LastPlace (literals : List String) (x : Int) : Prop :=
  ∃ before literal after, literals = before ++ literal :: after ∧ IsPlace literal x ∧
    ∀ later ∈ after, ∀ y, ¬ IsPlace later y

/-- How many actions a step has, over all agents. -/
def actionsAt (step : Step) : Nat := step.foldl (fun count _ actions => count + actions.size) 0

/-- Every scheduled `move` beside its time and its agent. -/
def scheduledMoves (plan : Plan) : List (Time × Agent × Action) :=
  plan.steps.flatMap fun entry =>
    (entry.2.orders.filter fun order => order.2.name = "move").map fun order => (entry.1, order)

def moveTimes (plan : Plan) : List Time := (scheduledMoves plan).map (·.1)

/-- A plan that is a good walk from one place to another. -/
structure Arrives (red : ExtTreeSet Time) (plan : Plan) (x y : Int) : Prop where
  oneAgent : ∃! agent, agent ∈ plan.agents
  start : LastPlace plan.start x
  goal : LastPlace plan.goal y
  distinct : x ≠ y
  oneAction : ∀ (t : Time) (step : Step), plan.timeline[t]? = some step → actionsAt step ≤ 1
  green : ∀ t agent action, plan.Has t agent action → action.name = "move" → t ∉ red
  arrival : x + (scheduledMoves plan).length = y

/-! Positions. -/

theorem read?_place (fact : Fact) (x : Int) :
    place.read? fact = some x ↔ fact.name = "at" ∧ Numeral64 fact.args.toList x := by
  simp only [Entry.read?_eq_some_iff, place, splitArgs?_singleton, ← Text.numeral64_iff]
  refine and_congr_right fun _ => ⟨?_, ?_⟩
  · rintro ⟨_, ⟨digits, rfl⟩, h⟩
    simp only [List.map_cons, List.map_nil, String.ofList_toList] at h
    exact ⟨digits, h⟩
  · rintro ⟨digits, h⟩
    refine ⟨_, ⟨digits, rfl⟩, ?_⟩
    simp only [List.map_cons, List.map_nil, String.ofList_toList]
    exact h

theorem read?_literal (literal : String) (x : Int) :
    (Fact.read? literal).bind place.read? = some x ↔ IsPlace literal x := by
  rw [place.read?_text (by decide) (by decide)]
  simp only [read?_place, IsPlace]
  constructor
  · rintro ⟨digits, text, _, _, value⟩
    exact ⟨digits, text, value⟩
  · rintro ⟨digits, text, value⟩
    have plain : '\n' ∉ digits.toList := by
      obtain ⟨n, numeral, _⟩ := value
      exact Text.not_mem_numeral numeral rfl
    exact ⟨digits, text, plain, rfl, value⟩

theorem position?_eq_some_iff (literals : List String) (x : Int) :
    position? literals = some x ↔ LastPlace literals x := by
  have unread : ∀ literal, (Fact.read? literal).bind place.read? = none ↔
      ∀ y, ¬ IsPlace literal y := by
    intro literal
    simp only [Option.eq_none_iff_forall_ne_some, ne_eq, read?_literal]
  simp only [position?, getLast?_filterMap, read?_literal, unread, LastPlace]

theorem lastPlace_bound {literals : List String} {x : Int} (h : LastPlace literals x) :
    0 ≤ x ∧ x ≤ Int64.maxValue.toInt := by
  obtain ⟨_, _, _, _, ⟨_, _, n, _, rfl, small⟩, _⟩ := h
  exact ⟨Int.natCast_nonneg n, small⟩

/-! Moves. -/

theorem mem_scheduledMoves (plan : Plan) (t : Time) (agent : Agent) (action : Action) :
    (t, agent, action) ∈ scheduledMoves plan ↔
      plan.Has t agent action ∧ action.name = "move" := by
  simp only [scheduledMoves, List.mem_flatMap, Prod.exists, List.mem_map, List.mem_filter,
    Plan.mem_steps, Step.mem_orders, decide_eq_true_eq, Prod.mk.injEq, Plan.Has]
  constructor
  · rintro ⟨_, step, stored, _, _, ⟨has, named⟩, rfl, rfl, rfl⟩
    exact ⟨⟨step, stored, has⟩, named⟩
  · rintro ⟨⟨step, stored, has⟩, named⟩
    exact ⟨t, step, stored, agent, action, ⟨has, named⟩, rfl, rfl, rfl⟩

theorem steps_ofPlan (plan : Plan) : (Walk.ofPlan plan).steps = moveTimes plan := by
  simp only [Walk.ofPlan, Walk.actions, moveTimes, scheduledMoves, List.filter_flatMap,
    List.map_flatMap, List.filter_map, List.map_map]
  refine List.flatMap_congr fun entry _ => ?_
  have same : ((fun pair : Time × Action => Walk.isStep pair.2) ∘
      fun order : Agent × Action => (entry.1, order.2)) =
      fun order => decide (order.2.name = "move") := by
    funext order
    exact beq_eq_decide order.2.name "move"
  rw [← same]
  rfl

theorem length_steps (plan : Plan) :
    (Walk.ofPlan plan).steps.length = (scheduledMoves plan).length := by
  rw [steps_ofPlan, moveTimes, List.length_map]

/-- A walk from a known place ends as many places on as it has steps, if there are so many. -/
theorem reached?_eq {walk : Walk} {start : Int} (known : walk.start = some start) :
    walk.reached? = if start + (walk.steps.length : Int) ≤ Int64.maxValue.toInt then
      some (start + (walk.steps.length : Int)) else none := by
  have high : positions.high = Int64.maxValue.toInt := by decide
  rw [Walk.reached?, known, Option.map_some, Option.filter_some, high]
  simp only [decide_eq_true_eq]

theorem actionsAt_eq_length (step : Step) : actionsAt step = step.orders.length := by
  have along : ∀ (entries : List (Agent × ExtTreeSet Action)) (count : Nat),
      entries.foldl (fun count entry => count + entry.2.size) count =
        count + (entries.flatMap fun entry => entry.2.toList.map (entry.1, ·)).length := by
    intro entries
    induction entries with
    | nil => intro count; rfl
    | cons entry entries ih =>
      intro count
      rw [List.foldl_cons, ih, List.flatMap_cons, List.length_append, List.length_map,
        ExtTreeSet.length_toList, Nat.add_assoc]
  rw [actionsAt, ExtTreeMap.foldl_eq_foldl_toList, along, Nat.zero_add]
  rfl

theorem moveTimes_nodup {plan : Plan}
    (alone : ∀ (t : Time) (step : Step), plan.timeline[t]? = some step → actionsAt step ≤ 1) :
    (moveTimes plan).Nodup := by
  rw [moveTimes, scheduledMoves, List.map_flatMap, List.Nodup, List.pairwise_flatMap]
  constructor
  · -- One action at most leaves no room for two moves at a time.
    rintro ⟨t, step⟩ stored
    have few : (step.orders.filter fun order => order.2.name = "move").length ≤ 1 := by
      refine Nat.le_trans (List.length_filter_le _ _) ?_
      rw [← actionsAt_eq_length]
      exact alone t step ((plan.mem_steps t step).mp stored)
    generalize (step.orders.filter fun order => order.2.name = "move") = kept at few
    match kept, few with
    | [], _ => exact .nil
    | [_], _ => exact List.pairwise_singleton _ _
  · refine plan.steps_ascending.imp ?_
    intro a b earlier s hs s' hs'
    simp only [List.map_map, List.mem_map, Function.comp_apply] at hs hs'
    obtain ⟨_, _, rfl⟩ := hs
    obtain ⟨_, _, rfl⟩ := hs'
    exact fun same => Std.lt_irrefl (same ▸ earlier)

/-! Findings. -/

/-- None of these findings is an error. -/
abbrev Quiet (findings : List Finding) : Prop := ErrorFree (findings.map Finding.diagnostic)

theorem quiet_append (findings more : List Finding) :
    Quiet (findings ++ more) ↔ Quiet findings ∧ Quiet more := by
  rw [Quiet, List.map_append, errorFree_append]

theorem quiet_nil : Quiet [] := by simp [Quiet, ErrorFree]

theorem quiet_singleton (finding : Finding) :
    Quiet [finding] ↔ finding.diagnostic.isError = false := by
  simp [Quiet, ErrorFree]

theorem quiet_ite (p : Prop) [Decidable p] (finding : Finding) :
    Quiet (if p then [finding] else []) ↔ (p → finding.diagnostic.isError = false) := by
  split
  · rename_i h
    simp only [quiet_singleton, h, forall_const]
  · rename_i h
    simp only [quiet_nil, h, false_imp_iff]

theorem quiet_setup (plan : Plan) (walk : Walk) :
    Quiet (setupFindings plan walk) ↔ plan.agents.size = 1 := by
  have unexpected : Quiet (if walk.unexpected.isEmpty then []
      else [.unexpected walk.unexpected.toList]) := by
    split
    · exact quiet_nil
    · exact (quiet_singleton _).mpr rfl
  have agents : Quiet (if plan.agents.size = 1 then [] else [.notOneAgent]) ↔
      plan.agents.size = 1 := by
    split
    · rename_i h
      simp only [quiet_nil, h]
    · rename_i h
      simp [quiet_singleton, h, Finding.diagnostic, Diagnostic.error, Diagnostic.isError]
  rw [setupFindings, quiet_append, quiet_append, quiet_append, quiet_ite, quiet_ite, agents]
  exact ⟨fun h => h.2, fun h => ⟨⟨⟨unexpected, fun _ => rfl⟩, fun _ => rfl⟩, h⟩⟩

theorem quiet_iff_nil {findings : List Finding}
    (errors : ∀ finding ∈ findings, finding.diagnostic.isError = true) :
    Quiet findings ↔ findings = [] := by
  cases findings with
  | nil => simp [quiet_nil]
  | cons finding findings =>
    have error := errors finding List.mem_cons_self
    simp [Quiet, ErrorFree, error]

theorem quiet_walk (state : State) (plan : Plan) (walk : Walk) :
    Quiet (walkFindings state plan walk) ↔
      (∀ (t : Time) (step : Step), plan.timeline[t]? = some step → actionsAt step ≤ 1) ∧
        ∀ t ∈ walk.steps, t ∉ state.redLights := by
  have crowded : ∀ t (step : Step), (if 1 < (step.orders.map (·.2)).length then
      some (Finding.crowded t (step.orders.map (·.2))) else none) = none ↔ actionsAt step ≤ 1 := by
    intro t step
    rw [List.length_map, ← actionsAt_eq_length]
    simp
  rw [walkFindings, quiet_append, quiet_append, quiet_ite, quiet_iff_nil, quiet_iff_nil,
    List.filterMap_eq_nil_iff, List.map_eq_nil_iff, List.filter_eq_nil_iff]
  · simp only [Prod.forall, Plan.mem_steps, crowded, decide_eq_true_eq]
    exact ⟨fun h => h.1, fun h => ⟨h, fun _ => rfl⟩⟩
  · intro finding hf
    obtain ⟨t, _, rfl⟩ := List.mem_map.mp hf
    rfl
  · intro finding hf
    obtain ⟨entry, _, hentry⟩ := List.mem_filterMap.mp hf
    dsimp only at hentry
    split at hentry
    · cases hentry
      rfl
    · cases hentry

theorem quiet_arrival (walk : Walk) {start goal : Int} (known : walk.start = some start)
    (bound : goal ≤ Int64.maxValue.toInt) :
    Quiet (arrivalFindings walk start goal) ↔ start + (walk.steps.length : Int) = goal := by
  rw [arrivalFindings, reached?_eq known]
  by_cases inside : start + (walk.steps.length : Int) ≤ Int64.maxValue.toInt
  · simp only [inside, if_true]
    by_cases hit : start + (walk.steps.length : Int) = goal
    · simp [hit, quiet_nil]
    · simp [hit, quiet_singleton, Finding.diagnostic, Diagnostic.error, Diagnostic.isError]
  · simp only [inside, if_false, quiet_singleton]
    -- The goal is a position, and what lies beyond the last position is none.
    have missed : start + (walk.steps.length : Int) ≠ goal := by omega
    simp [missed, Finding.diagnostic, Diagnostic.error, Diagnostic.isError]

theorem size_eq_one_iff (agents : ExtTreeSet Agent) :
    agents.size = 1 ↔ ∃! agent, agent ∈ agents := by
  rw [← ExtTreeSet.length_toList, List.length_eq_one_iff]
  simp only [← ExtTreeSet.mem_toList]
  have distinct : agents.toList.Nodup := by
    refine ExtTreeSet.distinct_toList.imp ?_
    rintro a b h rfl
    exact h Std.compare_self
  constructor
  · rintro ⟨agent, h⟩
    rw [h]
    exact ⟨agent, List.mem_singleton_self agent, fun other ho => List.mem_singleton.mp ho⟩
  · rintro ⟨agent, member, only⟩
    refine ⟨agent, ?_⟩
    have perm : agents.toList.Perm [agent] := by
      rw [List.perm_ext_iff_of_nodup distinct (List.nodup_singleton agent)]
      intro other
      rw [List.mem_singleton]
      exact ⟨only other, fun he => he ▸ member⟩
    exact List.perm_singleton.mp perm

theorem green_iff (red : ExtTreeSet Time) (plan : Plan) :
    (∀ t ∈ moveTimes plan, t ∉ red) ↔
      ∀ t agent action, plan.Has t agent action → action.name = "move" → t ∉ red := by
  simp only [moveTimes, List.mem_map, Prod.exists, exists_and_right, exists_eq_right,
    mem_scheduledMoves, forall_exists_index, and_imp]

theorem quiet_degenerate (findings : List Finding) (start goal : Int) :
    Quiet (if start = goal then [.startIsGoal] else findings) ↔ start ≠ goal ∧ Quiet findings := by
  split
  · rename_i h
    simp [quiet_singleton, h, Finding.diagnostic, Diagnostic.error, Diagnostic.isError]
  · rename_i h
    simp [h]

theorem quiet_check_known (state : State) (plan : Plan) {x y : Int}
    (start : LastPlace plan.start x) (goal : LastPlace plan.goal y) :
    Quiet (check state plan) ↔ Arrives state.redLights plan x y := by
  have start' : (Walk.ofPlan plan).start = some x := (position?_eq_some_iff plan.start x).mpr start
  have goal' : (Walk.ofPlan plan).goal = some y := (position?_eq_some_iff plan.goal y).mpr goal
  have split : Quiet (check state plan) ↔ plan.agents.size = 1 ∧ x ≠ y ∧
      Quiet (walkFindings state plan (Walk.ofPlan plan)) ∧
      Quiet (arrivalFindings (Walk.ofPlan plan) x y) := by
    have zero : Quiet (if x = 0 then [] else [.startNotZero]) := by
      split
      · exact quiet_nil
      · exact (quiet_singleton _).mpr rfl
    have beyond : Quiet (if y < x then [.startBeyondGoal] else []) :=
      (quiet_ite _ _).mpr fun _ => rfl
    simp only [check, start', goal', quiet_append, quiet_setup, quiet_degenerate, zero, beyond,
      and_true]
  rw [split, quiet_walk, quiet_arrival _ start' (lastPlace_bound goal).2, length_steps,
    steps_ofPlan, green_iff, size_eq_one_iff]
  constructor
  · rintro ⟨agent, distinct, ⟨alone, green⟩, arrival⟩
    exact ⟨agent, start, goal, distinct, alone, green, arrival⟩
  · intro h
    exact ⟨h.oneAgent, h.distinct, ⟨h.oneAction, h.green⟩, h.arrival⟩

theorem places_of_quiet {state : State} {plan : Plan} (quiet : Quiet (check state plan)) :
    (∃ x, LastPlace plan.start x) ∧ ∃ y, LastPlace plan.goal y := by
  simp only [← position?_eq_some_iff, ← Option.isSome_iff_exists]
  unfold check at quiet
  dsimp only at quiet
  split at quiet
  · rename_i x y start goal
    exact ⟨Option.isSome_of_eq_some start, Option.isSome_of_eq_some goal⟩
  · -- The other branch is taken only if a place is missing, and then the place has an error.
    rw [quiet_append, quiet_append, quiet_append, quiet_ite, quiet_ite] at quiet
    have given : ∀ {place? : Option Int}, (place?.isNone = true → true = false) →
        place?.isSome = true := by
      intro place? h
      cases place? with
      | none => exact absurd (h rfl) (by decide)
      | some place => rfl
    exact ⟨given quiet.1.1.2, given quiet.1.2⟩

theorem quiet_check_iff (state : State) (plan : Plan) :
    Quiet (check state plan) ↔ ∃ x y, Arrives state.redLights plan x y := by
  constructor
  · intro quiet
    obtain ⟨⟨x, start⟩, y, goal⟩ := places_of_quiet quiet
    exact ⟨x, y, (quiet_check_known state plan start goal).mp quiet⟩
  · rintro ⟨x, y, h⟩
    exact (quiet_check_known state plan h.start h.goal).mpr h

/-- A good walk goes to the right, one place at each of as many times as there are places to go. -/
theorem Arrives.moves {red : ExtTreeSet Time} {plan : Plan} {x y : Int}
    (h : Arrives red plan x y) : x < y ∧ (moveTimes plan).Nodup ∧
      ((moveTimes plan).length : Int) = y - x ∧ ∀ t ∈ moveTimes plan, t ∉ red := by
  have length : (moveTimes plan).length = (scheduledMoves plan).length := by
    rw [moveTimes, List.length_map]
  have arrival := h.arrival
  have distinct := h.distinct
  refine ⟨by omega, moveTimes_nodup h.oneAction, by omega, ?_⟩
  exact (green_iff red plan).mpr h.green

/-- The verdict on a walk, whatever coordinates are known. Without an error the walk arrives, and
only such walks are without an error: the moves take exactly the right number of distinct times,
none of them red. A walk that leads beyond the last position always has an error. -/
theorem errorFree_iff_arrives (state : State) (plan : Plan) :
    (ErrorFree (world.verify state (some plan)) ↔ ∃ x y, Arrives state.redLights plan x y) ∧
    (ErrorFree (world.verify state (some plan)) →
      ∀ x y, LastPlace plan.start x → LastPlace plan.goal y →
        x < y ∧ (moveTimes plan).Nodup ∧ ((moveTimes plan).length : Int) = y - x ∧
          ∀ t ∈ moveTimes plan, t ∉ state.redLights) ∧
    ∀ x, LastPlace plan.start x →
      Int64.maxValue.toInt < x + ((scheduledMoves plan).length : Int) →
      ¬ ErrorFree (world.verify state (some plan)) := by
  have verdict : ErrorFree (world.verify state (some plan)) ↔ Quiet (check state plan) := Iff.rfl
  rw [verdict]
  refine ⟨quiet_check_iff state plan, ?_, ?_⟩
  · intro quiet x y start goal
    exact ((quiet_check_known state plan start goal).mp quiet).moves
  · intro x start overflow quiet
    obtain ⟨_, y, goal⟩ := places_of_quiet quiet
    have arrival := ((quiet_check_known state plan start goal).mp quiet).arrival
    have bound := (lastPlace_bound goal).2
    omega

end PlanReferee.Statues
