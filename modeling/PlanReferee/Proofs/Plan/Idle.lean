import PlanReferee.Proofs.Blocks.Safety
import PlanReferee.Proofs.Plan.Timeline
import PlanReferee.World.Coffee
import PlanReferee.World.Statues

/-! Idle steps. A timeline may have a step at every time or only where something is done: no world
finds a difference between the two. -/

namespace PlanReferee

open Std (ExtTreeMap ExtTreeSet)

/-- Whoever has an entry in the step does nothing. -/
def Step.Idle (step : Step) : Prop :=
  ∀ (agent : Agent) (actions : ExtTreeSet Action), step[agent]? = some actions → actions = ∅

theorem Step.orders_eq_nil_iff (step : Step) : step.orders = [] ↔ step.Idle := by
  rw [List.eq_nil_iff_forall_not_mem]
  simp only [Prod.forall, mem_orders, Has, not_exists, not_and]
  constructor
  · intro none_ordered agent actions stored
    refine ExtTreeSet.ext_mem fun action => ?_
    exact iff_of_false (none_ordered agent action actions stored) ExtTreeSet.not_mem_empty
  · intro idle agent action actions stored
    rw [idle agent actions stored]
    exact ExtTreeSet.not_mem_empty

theorem Step.idle_idleStep (agents : ExtTreeSet Agent) : (Plan.idleStep agents).Idle := by
  intro agent actions stored
  rw [Plan.getElem?_idleStep] at stored
  split at stored
  · exact (Option.some.inj stored).symm
  · cases stored

namespace Plan

/-- The other plan has idle steps at some of the times without a step, and is the same otherwise. -/
structure Filled (plan other : Plan) : Prop where
  kept : ∀ (t : Time) (step : Step), plan.timeline[t]? = some step → other.timeline[t]? = some step
  idle : ∀ (t : Time) (step : Step), plan.timeline[t]? = none → other.timeline[t]? = some step →
    step.Idle
  rest : other = { plan with timeline := other.timeline }

/-- The steps in which something is done. -/
def busySteps (plan : Plan) : List (Time × Step) :=
  plan.steps.filter fun (_, step) => !step.orders.isEmpty

/-- All that the worlds see of a plan beside its declared times. -/
structure SameDeeds (plan other : Plan) : Prop where
  agents : plan.agents = other.agents
  start : plan.start = other.start
  goal : plan.goal = other.goal
  busySteps : plan.busySteps = other.busySteps

variable {plan other : Plan}

theorem mem_busySteps (plan : Plan) (t : Time) (step : Step) :
    (t, step) ∈ plan.busySteps ↔ plan.timeline[t]? = some step ∧ ¬ step.Idle := by
  rw [busySteps, List.mem_filter, mem_steps, Bool.not_eq_true', List.isEmpty_eq_false_iff,
    ne_eq, Step.orders_eq_nil_iff]

theorem busySteps_ext (same : ∀ (t : Time) (step : Step), ¬ step.Idle →
    (plan.timeline[t]? = some step ↔ other.timeline[t]? = some step)) :
    plan.busySteps = other.busySteps := by
  refine eq_of_ascending (fun _ _ h h' => Std.lt_irrefl (Std.lt_trans h h'))
    (plan.steps_ascending.filter _) (other.steps_ascending.filter _) fun (t, step) => ?_
  refine (mem_busySteps plan t step).trans (Iff.trans ?_ (mem_busySteps other t step).symm)
  exact and_congr_left (same t step)

theorem Filled.sameDeeds (filled : plan.Filled other) : plan.SameDeeds other := by
  obtain ⟨kept, idle, rest⟩ := filled
  constructor
  case agents => rw [rest]
  case start => rw [rest]
  case goal => rw [rest]
  case busySteps =>
    refine busySteps_ext fun t step busy => ⟨kept t step, fun stored => ?_⟩
    cases before : plan.timeline[t]? with
    | none => exact absurd (idle t step before stored) busy
    | some step' => exact (kept t step' before).symm.trans stored

/-- The plan with an idle step for all its agents at those of these times that have none. -/
def fill (plan : Plan) (times : List Time) : Plan :=
  { plan with
    timeline := times.foldl (fun timeline t => timeline.insertIfNew t (idleStep plan.agents))
      plan.timeline }

theorem getElem?_fills (step : Step) (times : List Time) (timeline : ExtTreeMap Time Step)
    (t : Time) : (times.foldl (fun timeline t => timeline.insertIfNew t step) timeline)[t]? =
      timeline[t]?.or (if t ∈ times then some step else none) := by
  induction times generalizing timeline with
  | nil => simp
  | cons s times ih =>
    rw [List.foldl_cons, ih, ExtTreeMap.getElem?_insertIfNew]
    by_cases now : s = t
    · subst now
      cases stored : timeline[s]? <;> simp [ExtTreeMap.mem_iff_isSome_getElem?, stored]
    · simp [now, Ne.symm now]

theorem filled_fill (plan : Plan) (times : List Time) : plan.Filled (plan.fill times) := by
  constructor
  case kept =>
    intro t step stored
    rw [fill, getElem?_fills, stored, Option.some_or]
  case idle =>
    intro t step missing stored
    rw [fill, getElem?_fills, missing, Option.none_or] at stored
    split at stored
    · cases stored
      exact Step.idle_idleStep plan.agents
    · cases stored
  case rest => rfl

/-- Declared times only make idle steps. -/
theorem getD_timelineOf (agents : ExtTreeSet Agent) (times times' : ExtTreeSet Time)
    (orders : List (Time × Agent × Action)) (t : Time) :
    (timelineOf agents times orders)[t]?.getD (idleStep agents) =
      (timelineOf agents times' orders)[t]?.getD (idleStep agents) := by
  have along : ∀ timeline other : ExtTreeMap Time Step,
      (∀ t : Time, timeline[t]?.getD (idleStep agents) = other[t]?.getD (idleStep agents)) →
      (orders.foldl (schedule agents) timeline)[t]?.getD (idleStep agents) =
        (orders.foldl (schedule agents) other)[t]?.getD (idleStep agents) := by
    induction orders with
    | nil => exact fun _ _ alike => alike t
    | cons order orders ih =>
      refine fun timeline other alike => ih _ _ fun s => ?_
      obtain ⟨s', agent, action⟩ := order
      rw [getElem?_schedule, getElem?_schedule, alike s']
      split
      · rfl
      · exact alike s
  refine along _ _ fun s => ?_
  rw [getElem?_idleTimes, getElem?_idleTimes]
  split <;> split <;> rfl

theorem stored_timelineOf {agents : ExtTreeSet Agent} (times times' : ExtTreeSet Time)
    {orders : List (Time × Agent × Action)} {t : Time} {step : Step} (busy : ¬ step.Idle)
    (stored : (timelineOf agents times orders)[t]? = some step) :
    (timelineOf agents times' orders)[t]? = some step := by
  have same := getD_timelineOf agents times times' orders t
  rw [stored, Option.getD_some] at same
  cases stored' : (timelineOf agents times' orders)[t]? with
  | none =>
    rw [stored', Option.getD_none] at same
    exact absurd (same ▸ Step.idle_idleStep agents) busy
  | some step' =>
    rw [stored', Option.getD_some] at same
    rw [same]

/-! What is gathered from the steps. -/

theorem flatMap_busySteps {α : Type} (gather : Time × Step → List α)
    (quiet : ∀ t step, step.orders = [] → gather (t, step) = []) (plan : Plan) :
    plan.busySteps.flatMap gather = plan.steps.flatMap gather := by
  rw [busySteps, Blocks.flatMap_filter]
  refine List.flatMap_congr fun (t, step) _ => ?_
  cases orders : step.orders with
  | nil => simp [orders, quiet t step orders]
  | cons _ _ => simp [orders]

theorem filterMap_busySteps {α : Type} (gather : Time × Step → Option α)
    (quiet : ∀ t step, step.orders = [] → gather (t, step) = none) (plan : Plan) :
    plan.busySteps.filterMap gather = plan.steps.filterMap gather := by
  rw [busySteps, List.filterMap_filter]
  refine List.filterMap_congr fun (t, step) _ => ?_
  cases orders : step.orders with
  | nil => simp [orders, quiet t step orders]
  | cons _ _ => simp [orders]

theorem has_iff_busySteps (plan : Plan) (t : Time) (agent : Agent) (action : Action) :
    plan.Has t agent action ↔ ∃ step, (t, step) ∈ plan.busySteps ∧ step.Has agent action := by
  refine exists_congr fun step => ?_
  rw [mem_busySteps, and_assoc]
  refine and_congr_right fun _ => (and_iff_right_of_imp fun has idle => ?_).symm
  obtain ⟨actions, stored, member⟩ := has
  exact ExtTreeSet.not_mem_empty (idle agent actions stored ▸ member)

theorem SameDeeds.sameMoves (same : plan.SameDeeds other) : Blocks.SameMoves plan other := by
  constructor
  case start => exact same.start
  case moves =>
    intro t arm action _ _
    rw [has_iff_busySteps, has_iff_busySteps, same.busySteps]

theorem SameDeeds.actionCount (same : plan.SameDeeds other) :
    plan.actionCount = other.actionCount := by
  have count : ∀ plan : Plan,
      plan.actionCount = (plan.busySteps.flatMap fun (_, step) => step.orders).length :=
    fun plan => congrArg List.length (flatMap_busySteps _ (fun _ _ none => none) plan).symm
  rw [count, count, same.busySteps]

theorem SameDeeds.remarks (same : plan.SameDeeds other)
    (times : plan.declaredTimes = other.declaredTimes) : plan.remarks = other.remarks := by
  rw [Plan.remarks, Plan.remarks, times, same.actionCount]

end Plan

/-! What the worlds find. -/

namespace Blocks

theorem stepFindings_idle (t : Time) (on : Stacking) {step : Step}
    (none_ordered : step.orders = []) : stepFindings t on step = [] := by
  have idle := (Step.orders_eq_nil_iff step).mp none_ordered
  have arms : ∀ entry ∈ step.toList, armFindings t on entry.1 entry.2.toList = [] := by
    intro entry listed
    have stored := ExtTreeMap.mem_toList_iff_getElem?_eq_some.mp listed
    rw [idle entry.1 entry.2 stored]
    rfl
  rw [stepFindings, List.flatMap_eq_nil_iff.mpr arms, moves, none_ordered]
  rfl

/-- Nothing happens in an idle step. -/
theorem replaySteps_filter (on : Stacking) (steps : List (Time × Step)) :
    replaySteps on (steps.filter fun (_, step) => !step.orders.isEmpty) = replaySteps on steps := by
  induction steps generalizing on with
  | nil => rfl
  | cons entry steps ih =>
    obtain ⟨t, step⟩ := entry
    cases orders : step.orders with
    | nil =>
      have stays : apply on (moves step) = on := by rw [moves, orders]; rfl
      rw [List.filter_cons_of_neg (by simp [orders]), ih, replaySteps, stays,
        stepFindings_idle t on orders, List.nil_append]
    | cons _ _ =>
      rw [List.filter_cons_of_pos (by simp [orders]), replaySteps, replaySteps, ih]

theorem replaySteps_sameDeeds {plan other : Plan} (same : plan.SameDeeds other) :
    replaySteps (initial plan) plan.steps = replaySteps (initial other) other.steps := by
  have busy : ∀ plan : Plan,
      replaySteps (initial plan) plan.steps = replaySteps (initial plan) plan.busySteps :=
    fun plan => (replaySteps_filter (initial plan) plan.steps).symm
  rw [busy, busy, initial, initial, same.start, same.busySteps]

theorem replay_sameDeeds {plan other : Plan} (same : plan.SameDeeds other)
    (times : plan.declaredTimes = other.declaredTimes) : replay plan = replay other := by
  rw [replay, replay, replaySteps_sameDeeds same, same.remarks times]

end Blocks

namespace Statues

theorem actions_sameDeeds {plan other : Plan} (same : plan.SameDeeds other) :
    Walk.actions plan = Walk.actions other := by
  have busy : ∀ plan, Walk.actions plan = plan.busySteps.flatMap fun entry =>
      entry.2.orders.map fun order => (entry.1, order.2) := by
    intro plan
    refine (Plan.flatMap_busySteps _ (fun t step none_ordered => ?_) plan).symm
    exact List.map_eq_nil_iff.mpr none_ordered
  rw [busy, busy, same.busySteps]

theorem ofPlan_sameDeeds {plan other : Plan} (same : plan.SameDeeds other) :
    Walk.ofPlan plan = Walk.ofPlan other := by
  rw [Walk.ofPlan, Walk.ofPlan, actions_sameDeeds same, same.start, same.goal]

theorem walkFindings_sameDeeds (state : State) {plan other : Plan} (same : plan.SameDeeds other)
    (walk : Walk) : walkFindings state plan walk = walkFindings state other walk := by
  have busy : ∀ plan, walkFindings state plan walk =
      (plan.busySteps.filterMap fun (t, step) =>
        let actions := step.orders.map (·.2)
        if 1 < actions.length then some (.crowded t actions) else none)
      ++ ((walk.steps.filter fun t => t ∈ state.redLights).map .movedOnRed)
      ++ (if walk.steps.isEmpty then [.noSteps] else []) := by
    intro plan
    rw [Plan.filterMap_busySteps _ (fun t step none_ordered => by simp [none_ordered])]
    rfl
  rw [busy, busy, same.busySteps]

theorem check_sameDeeds (state : State) {plan other : Plan} (same : plan.SameDeeds other) :
    check state plan = check state other := by
  unfold check setupFindings
  simp only [ofPlan_sameDeeds same, walkFindings_sameDeeds state same, same.agents, same.start,
    same.goal]

end Statues

end PlanReferee
