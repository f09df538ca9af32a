import Mathlib.Data.List.Pairwise
import PlanReferee.Proofs.Schedule
import PlanReferee.World.Blocks

/-! Safe plans: every move takes a block that nothing rests on to a place that nothing rests on, and
no two moves of a step go to one place. The replay finds an error exactly where a step is not safe
on the stacking with which it begins. All errors come from the moves, whatever else the arms do. -/

namespace PlanReferee.Blocks

open Std (ExtTreeMap)

/-- The action is a move, with a source and a target and nothing more. -/
def Reads (action : Action) (m : Move) : Prop :=
  action.name = "move" ∧ action.arguments = [m.source, m.target]

/-- Nothing is in the way of a move at this place. The table always has room. -/
def Clear (on : Stacking) (place : String) : Prop :=
  place = table ∨ ∀ block : String, on[block]? ≠ some place

/-- Two scheduled moves with one target are the same action of the same arm. -/
def Apart (step : Step) : Prop :=
  ∀ arm action m arm' action' m', step.Has arm action → Reads action m →
    step.Has arm' action' → Reads action' m' → m.target = m'.target →
      arm = arm' ∧ action = action'

structure SafeStep (on : Stacking) (step : Step) : Prop where
  sources : ∀ arm action m, step.Has arm action → Reads action m → Clear on m.source
  targets : ∀ arm action m, step.Has arm action → Reads action m → Clear on m.target
  apart : Apart step

/-- The stacking with which a time begins: all moves of earlier times are made, safe or not. -/
def stackingBefore (plan : Plan) (t : Time) : Stacking :=
  apply (initial plan)
    ((plan.steps.filter fun entry => entry.1 < t).flatMap fun entry => moves entry.2)

/-- Two plans that begin alike and schedule the same moves. Their other actions, idle arms and empty
steps may differ. -/
structure SameMoves (plan other : Plan) : Prop where
  start : plan.start = other.start
  moves : ∀ t arm action m, Reads action m → (plan.Has t arm action ↔ other.Has t arm action)

/-! The moves of a step. -/

theorem move?_ofAction (action : Action) (m : Move) :
    (Deed.ofAction action).move? = some m ↔ Reads action m := by
  unfold Deed.ofAction Reads
  by_cases hname : action.name = "move"
  · rw [if_pos hname]
    cases m with
    | mk source target =>
      split
      · rename_i s t hargs
        simp only [Deed.move?, Option.some.injEq, Move.mk.injEq, hname, hargs, List.cons.injEq,
          and_true, true_and]
      · rename_i hargs
        simp [Deed.move?, hargs]
      · rename_i hpair _
        simp only [Deed.move?, reduceCtorEq, false_iff, not_and]
        exact fun _ hargs => hpair source target hargs
  · simp [hname, Deed.move?]

def isMove (order : Agent × Action) : Bool := (Deed.ofAction order.2).move?.isSome

theorem isMove_iff (arm : Agent) (action : Action) :
    isMove (arm, action) = true ↔ ∃ m, Reads action m := by
  rw [isMove, Option.isSome_iff_exists]
  exact exists_congr fun m => move?_ofAction action m

/-- The moves of a step beside their arms, still as actions. -/
def moveOrders (step : Step) : List (Agent × Action) := step.orders.filter isMove

theorem mem_moveOrders (step : Step) (arm : Agent) (action : Action) :
    (arm, action) ∈ moveOrders step ↔ step.Has arm action ∧ ∃ m, Reads action m := by
  rw [moveOrders, List.mem_filter, step.mem_orders, isMove_iff]

def movesOf (orders : List (Agent × Action)) : List Move :=
  orders.filterMap fun order => (Deed.ofAction order.2).move?

theorem movesOf_moveOrders (step : Step) : movesOf (moveOrders step) = moves step := by
  have skip : ∀ order : Agent × Action, isMove order = false →
      (Deed.ofAction order.2).move? = none := by
    intro order h
    exact Option.isSome_eq_false_iff.mp h |> Option.isNone_iff_eq_none.mp
  rw [moveOrders, movesOf, moves, List.filterMap_filter]
  refine List.filterMap_congr fun order _ => ?_
  cases h : isMove order with
  | true => rfl
  | false => exact (skip order h).symm

/-! The errors among the findings of a step, which are those of its moves. -/

def Finding.isError (finding : Finding) : Bool := finding.diagnostic.isError

/-- What is found wrong when these moves start from a stacking. -/
def moveFindings (t : Time) (on : Stacking) (orders : List (Agent × Action)) : List Finding :=
  (orders.flatMap fun order => orderFindings t on order.1 order.2)
    ++ conflictFindings t (movesOf orders)

theorem orderFindings_errors (t : Time) (on : Stacking) (order : Agent × Action) :
    (orderFindings t on order.1 order.2).filter Finding.isError =
      if isMove order then orderFindings t on order.1 order.2 else [] := by
  unfold orderFindings isMove
  cases Deed.ofAction order.2 with
  | move m =>
    simp only [Deed.move?, Option.isSome_some, if_true, List.filter_eq_self]
    intro finding hf
    obtain ⟨place, _, hplace⟩ := List.mem_filterMap.mp hf
    obtain ⟨blocking, _, rfl⟩ := Option.map_eq_some_iff.mp hplace
    rfl
  | extended => rfl
  | other => rfl

theorem conflictsAmong_errors (t : Time) (claimants : ExtTreeMap String String) (ms : List Move) :
    ∀ finding ∈ conflictsAmong t claimants ms, finding.isError = true := by
  induction ms generalizing claimants with
  | nil => simp [conflictsAmong]
  | cons m more ih =>
    unfold conflictsAmong
    split
    · intro finding hf
      rcases List.mem_cons.mp hf with rfl | hf
      · rfl
      · exact ih claimants finding hf
    · exact ih _

theorem conflictFindings_errors (t : Time) (ms : List Move) :
    (conflictFindings t ms).filter Finding.isError = conflictFindings t ms := by
  rw [List.filter_eq_self]
  unfold conflictFindings
  split
  · simp
  · intro finding hf
    rcases List.mem_cons.mp hf with rfl | hf
    · rfl
    · exact conflictsAmong_errors t ∅ _ finding hf

theorem flatMap_filter {α β : Type} (p : α → Bool) (f : α → List β) (xs : List α) :
    (xs.filter p).flatMap f = xs.flatMap fun x => if p x then f x else [] := by
  induction xs with
  | nil => rfl
  | cons x xs ih =>
    cases h : p x <;> simp [h, ih]

theorem armFindings_errors (t : Time) (on : Stacking) (step : Step) :
    (step.toList.flatMap fun entry => armFindings t on entry.1 entry.2.toList).filter
        Finding.isError =
      (moveOrders step).flatMap fun order => orderFindings t on order.1 order.2 := by
  have arm : ∀ entry : Agent × Std.ExtTreeSet Action,
      (armFindings t on entry.1 entry.2.toList).filter Finding.isError =
        entry.2.toList.flatMap fun action =>
          (orderFindings t on entry.1 action).filter Finding.isError := by
    intro entry
    have busy : (if 1 < entry.2.toList.length then
        [Finding.busy t entry.1 entry.2.toList] else []).filter Finding.isError = [] := by
      split <;> rfl
    rw [armFindings, List.filter_append, busy, List.nil_append, List.filter_flatMap]
  rw [List.filter_flatMap, moveOrders, flatMap_filter, Step.orders, List.flatMap_assoc]
  refine List.flatMap_congr fun entry _ => ?_
  rw [arm, List.flatMap_map]
  exact List.flatMap_congr fun action _ => orderFindings_errors t on (entry.1, action)

theorem stepFindings_errors (t : Time) (on : Stacking) (step : Step) :
    (stepFindings t on step).filter Finding.isError = moveFindings t on (moveOrders step) := by
  rw [stepFindings, List.filter_append, conflictFindings_errors, armFindings_errors,
    moveFindings, movesOf_moveOrders]

/-! A step without errors is a safe one. -/

theorem over?_eq_none_iff (on : Stacking) (place : String) :
    over? on place = none ↔ Clear on place := by
  unfold over? Clear
  by_cases h : place = table
  · simp [h]
  · simp only [h, if_false, Option.map_eq_none_iff, List.find?_eq_none, Prod.forall,
      ExtTreeMap.mem_toList_iff_getElem?_eq_some, beq_iff_eq, false_or]
    constructor
    · intro free block hblock
      exact free block place hblock rfl
    · rintro free block support hblock rfl
      exact free block hblock

theorem conflictsAmong_eq_nil_iff (t : Time) (claimants : ExtTreeMap String String)
    (ms : List Move) : conflictsAmong t claimants ms = [] ↔
      (ms.map Move.target).Nodup ∧ ∀ m ∈ ms, m.target ∉ claimants := by
  -- The claimants carry the targets of the moves passed so far.
  induction ms generalizing claimants with
  | nil => simp [conflictsAmong]
  | cons m more ih =>
    simp only [conflictsAmong, List.map_cons, List.nodup_cons, List.mem_cons, forall_eq_or_imp]
    cases h : claimants[m.target]? with
    | some first =>
      have taken : m.target ∈ claimants := ExtTreeMap.mem_iff_isSome_getElem?.mpr (by rw [h]; rfl)
      simp [taken]
    | none =>
      have free : m.target ∉ claimants := by
        rw [ExtTreeMap.mem_iff_isSome_getElem?, h]
        simp
      simp only [ih, ExtTreeMap.mem_insert, Std.compare_eq_iff_eq, not_or, List.mem_map,
        not_exists, not_and]
      constructor
      · rintro ⟨hd, hc⟩
        exact ⟨⟨fun m' hm' he => (hc m' hm').1 he.symm, hd⟩, free, fun m' hm' => (hc m' hm').2⟩
      · rintro ⟨⟨hm, hd⟩, _, hc⟩
        exact ⟨hd, fun m' hm' => ⟨fun he => hm m' hm' he.symm, hc m' hm'⟩⟩

theorem conflictFindings_eq_nil_iff (t : Time) (ms : List Move) :
    conflictFindings t ms = [] ↔ (ms.map Move.target).Nodup := by
  have fresh := conflictsAmong_eq_nil_iff t ∅ ms
  simp only [ExtTreeMap.not_mem_empty, not_false_eq_true, implies_true, and_true] at fresh
  rw [← fresh, conflictFindings]
  split
  · rename_i h
    simp [h]
  · rename_i h
    simpa using h

theorem orderFindings_eq_nil_iff (t : Time) (on : Stacking) (arm : Agent) (action : Action)
    (m : Move) (reads : Reads action m) :
    orderFindings t on arm action = [] ↔ Clear on m.source ∧ Clear on m.target := by
  have deed : Deed.ofAction action = .move m := by
    have h := (move?_ofAction action m).mpr reads
    cases hd : Deed.ofAction action <;> simp_all [Deed.move?]
  simp only [orderFindings, deed, List.filterMap_eq_nil_iff, List.mem_cons, List.not_mem_nil,
    or_false, forall_eq_or_imp, forall_eq, Option.map_eq_none_iff, over?_eq_none_iff]

theorem nodup_targets_iff (step : Step) : ((moves step).map Move.target).Nodup ↔ Apart step := by
  let differ (a b : Agent × Action) : Prop :=
    ∀ m, (Deed.ofAction a.2).move? = some m → ∀ m', (Deed.ofAction b.2).move? = some m' →
      m.target ≠ m'.target
  -- Orders never repeat, so that two places in the list are two orders.
  have symm : Std.Symm differ := ⟨fun a b h m hm m' hm' he => h m' hm' m hm he.symm⟩
  have pairs : ((moves step).map Move.target).Nodup ↔ step.orders.Pairwise differ := by
    rw [List.Nodup, List.pairwise_map, moves, List.pairwise_filterMap]
  rw [pairs]
  constructor
  · intro h arm action m arm' action' m' hstep hm hstep' hm' target
    by_contra other
    refine h.forall ((step.mem_orders arm action).mpr hstep)
      ((step.mem_orders arm' action').mpr hstep') ?_ m ((move?_ofAction action m).mpr hm)
      m' ((move?_ofAction action' m').mpr hm') target
    simpa only [ne_eq, Prod.mk.injEq] using other
  · intro h
    refine step.orders_nodup.pairwise_of_forall_ne ?_
    rintro ⟨arm, action⟩ ha ⟨arm', action'⟩ hb other m hm m' hm' target
    have same := h arm action m arm' action' m' ((step.mem_orders arm action).mp ha)
      ((move?_ofAction action m).mp hm) ((step.mem_orders arm' action').mp hb)
      ((move?_ofAction action' m').mp hm') target
    exact other (Prod.ext same.1 same.2)

theorem moveFindings_eq_nil_iff (t : Time) (on : Stacking) (step : Step) :
    moveFindings t on (moveOrders step) = [] ↔ SafeStep on step := by
  rw [moveFindings, List.append_eq_nil_iff, movesOf_moveOrders, conflictFindings_eq_nil_iff,
    nodup_targets_iff, List.flatMap_eq_nil_iff]
  constructor
  · rintro ⟨clear, apart⟩
    have places : ∀ arm action m, step.Has arm action → Reads action m →
        Clear on m.source ∧ Clear on m.target := by
      intro arm action m hstep hm
      have listed := (mem_moveOrders step arm action).mpr ⟨hstep, m, hm⟩
      exact (orderFindings_eq_nil_iff t on arm action m hm).mp (clear (arm, action) listed)
    exact ⟨fun arm action m hstep hm => (places arm action m hstep hm).1,
      fun arm action m hstep hm => (places arm action m hstep hm).2, apart⟩
  · intro safe
    refine ⟨?_, safe.apart⟩
    rintro ⟨arm, action⟩ listed
    obtain ⟨hstep, m, hm⟩ := (mem_moveOrders step arm action).mp listed
    exact (orderFindings_eq_nil_iff t on arm action m hm).mpr
      ⟨safe.sources arm action m hstep hm, safe.targets arm action m hstep hm⟩

/-! The errors of a replay. -/

/-- What is found wrong along a timeline of moves. -/
def runFindings (on : Stacking) : List (Time × List (Agent × Action)) → List Finding
  | [] => []
  | (t, orders) :: more => moveFindings t on orders ++ runFindings (apply on (movesOf orders)) more

theorem replaySteps_errors (on : Stacking) (steps : List (Time × Step)) :
    (replaySteps on steps).findings.filter Finding.isError =
      runFindings on (steps.map fun entry => (entry.1, moveOrders entry.2)) := by
  induction steps generalizing on with
  | nil => rfl
  | cons entry more ih =>
    simp only [replaySteps, List.filter_append, stepFindings_errors, ih, List.map_cons,
      runFindings, movesOf_moveOrders]

/-- Times without a move find nothing and change nothing. -/
theorem runFindings_filter (on : Stacking) (timeline : List (Time × List (Agent × Action))) :
    runFindings on (timeline.filter fun entry => !entry.2.isEmpty) = runFindings on timeline := by
  induction timeline generalizing on with
  | nil => rfl
  | cons entry more ih =>
    obtain ⟨t, orders⟩ := entry
    cases orders with
    | nil => exact ih on
    | cons order orders => simp only [List.filter_cons, List.isEmpty_cons, Bool.not_false, if_true,
        runFindings, ih]

theorem verify_errors (plan : Plan) :
    (verify plan).filter Diagnostic.isError =
      (runFindings (initial plan)
        (plan.steps.map fun entry => (entry.1, moveOrders entry.2))).map Finding.diagnostic := by
  have remarks : (plan.remarks.map Finding.plan).filter Finding.isError = [] := by
    rw [List.filter_eq_nil_iff]
    intro finding hf
    obtain ⟨remark, member, rfl⟩ := List.mem_map.mp hf
    exact Bool.eq_false_iff.mp (remarks_errorFree plan _ (List.mem_map_of_mem member))
  have errors : (replay plan).findings.filter Finding.isError =
      runFindings (initial plan) (plan.steps.map fun entry => (entry.1, moveOrders entry.2)) := by
    rw [replay, List.filter_append, remarks, List.nil_append, replaySteps_errors]
  rw [verify, List.filter_map, ← errors]
  rfl

theorem errorFree_verify (plan : Plan) :
    ErrorFree (verify plan) ↔ runFindings (initial plan)
      (plan.steps.map fun entry => (entry.1, moveOrders entry.2)) = [] := by
  rw [errorFree_iff_filter, verify_errors, List.map_eq_nil_iff]

theorem runFindings_eq_nil_iff (on : Stacking) (steps : List (Time × Step)) :
    runFindings on (steps.map fun entry => (entry.1, moveOrders entry.2)) = [] ↔
      ∀ before t step after, steps = before ++ (t, step) :: after →
        SafeStep (apply on (before.flatMap fun entry => moves entry.2)) step := by
  -- The rest of the timeline starts from the stacking after the first step, errors or not.
  induction steps generalizing on with
  | nil => simp [runFindings]
  | cons first more ih =>
    simp only [List.map_cons, runFindings, List.append_eq_nil_iff, moveFindings_eq_nil_iff, ih,
      movesOf_moveOrders]
    have shift : ∀ before : List (Time × Step),
        apply on ((first :: before).flatMap fun entry => moves entry.2) =
          apply (apply on (moves first.2)) (before.flatMap fun entry => moves entry.2) := by
      intro before
      rw [List.flatMap_cons, apply, apply, apply, List.foldl_append]
    constructor
    · rintro ⟨now, later⟩ before t step after split
      cases before with
      | nil =>
        cases (List.cons.inj split).1
        exact now
      | cons head before =>
        cases (List.cons.inj split).1
        rw [shift]
        exact later before t step after (List.cons.inj split).2
    · intro safe
      refine ⟨safe [] first.1 first.2 more rfl, ?_⟩
      intro before t step after split
      have := safe (first :: before) t step after (by rw [split]; rfl)
      rwa [shift] at this

theorem safe_splits_iff (plan : Plan) :
    (∀ before t step after, plan.steps = before ++ (t, step) :: after →
        SafeStep (apply (initial plan) (before.flatMap fun entry => moves entry.2)) step) ↔
      ∀ t step, plan.timeline[t]? = some step → SafeStep (stackingBefore plan t) step := by
  constructor
  · intro safe t step stored
    obtain ⟨before, after, split⟩ := List.append_of_mem ((plan.mem_steps t step).mpr stored)
    rw [stackingBefore, Plan.earlier_eq_filter split]
    exact safe before t step after split
  · intro safe before t step after split
    have stored : plan.timeline[t]? = some step := by
      rw [← plan.mem_steps, split]
      exact List.mem_append_right before List.mem_cons_self
    rw [← Plan.earlier_eq_filter split]
    exact safe t step stored

/-! What the arms do beside their moves does not matter. -/

theorem SameMoves.symm {plan other : Plan} (same : SameMoves plan other) :
    SameMoves other plan :=
  ⟨same.start.symm, fun t arm action m hm => (same.moves t arm action m hm).symm⟩

theorem has_iff_of_stored {plan : Plan} {t : Time} {step : Step}
    (stored : plan.timeline[t]? = some step) (arm : Agent) (action : Action) :
    plan.Has t arm action ↔ step.Has arm action := by
  simp only [Plan.Has, stored, Option.some.injEq, exists_eq_left']

theorem moveOrders_eq_of_stored {plan other : Plan} (same : SameMoves plan other) {t : Time}
    {step step' : Step} (stored : plan.timeline[t]? = some step)
    (stored' : other.timeline[t]? = some step') : moveOrders step = moveOrders step' := by
  refine eq_of_ascending Step.before_asymm (step.orders_ascending.filter _)
    (step'.orders_ascending.filter _) ?_
  rintro ⟨arm, action⟩
  rw [mem_moveOrders, mem_moveOrders]
  refine and_congr_left fun ⟨m, hm⟩ => ?_
  rw [← has_iff_of_stored stored, ← has_iff_of_stored stored']
  exact same.moves t arm action m hm

/-- The times of a plan at which something moves, with the moves. -/
def moveTimeline (plan : Plan) : List (Time × List (Agent × Action)) :=
  (plan.steps.map fun entry => (entry.1, moveOrders entry.2)).filter fun entry => !entry.2.isEmpty

theorem mem_moveTimeline (plan : Plan) (t : Time) (orders : List (Agent × Action)) :
    (t, orders) ∈ moveTimeline plan ↔
      orders ≠ [] ∧ ∃ step, plan.timeline[t]? = some step ∧ moveOrders step = orders := by
  simp only [moveTimeline, List.mem_filter, List.mem_map, Prod.exists, Prod.mk.injEq,
    Plan.mem_steps, Bool.not_eq_true', List.isEmpty_eq_false_iff]
  constructor
  · rintro ⟨⟨_, step, stored, rfl, rfl⟩, moving⟩
    exact ⟨moving, step, stored, rfl⟩
  · rintro ⟨moving, step, stored, rfl⟩
    exact ⟨⟨t, step, stored, rfl, rfl⟩, moving⟩

theorem moveTimeline_ascending (plan : Plan) :
    (moveTimeline plan).Pairwise fun a b => a.1 < b.1 := by
  refine List.Pairwise.filter _ ?_
  rw [List.pairwise_map]
  exact plan.steps_ascending

theorem mem_moveTimeline_of_same {plan other : Plan} (same : SameMoves plan other)
    (entry : Time × List (Agent × Action)) (listed : entry ∈ moveTimeline plan) :
    entry ∈ moveTimeline other := by
  obtain ⟨t, orders⟩ := entry
  obtain ⟨moving, step, stored, rfl⟩ := (mem_moveTimeline plan t orders).mp listed
  -- One of the moves is enough to find the step of the other plan.
  obtain ⟨⟨arm, action⟩, member⟩ := List.exists_mem_of_ne_nil _ moving
  obtain ⟨has, m, hm⟩ := (mem_moveOrders step arm action).mp member
  obtain ⟨step', stored', _⟩ := (same.moves t arm action m hm).mp ⟨step, stored, has⟩
  exact (mem_moveTimeline other t _).mpr
    ⟨moving, step', stored', (moveOrders_eq_of_stored same stored stored').symm⟩

theorem moveTimeline_eq {plan other : Plan} (same : SameMoves plan other) :
    moveTimeline plan = moveTimeline other := by
  refine eq_of_ascending (fun a b h h' => ?_) (moveTimeline_ascending plan)
    (moveTimeline_ascending other) fun entry => ?_
  · exact Std.lt_irrefl (Std.lt_trans h h')
  · exact ⟨mem_moveTimeline_of_same same entry, mem_moveTimeline_of_same same.symm entry⟩

theorem errors_eq_of_sameMoves {plan other : Plan} (same : SameMoves plan other) :
    (verify plan).filter Diagnostic.isError = (verify other).filter Diagnostic.isError := by
  have start : initial plan = initial other := by rw [initial, initial, same.start]
  rw [verify_errors, verify_errors, ← runFindings_filter, ← runFindings_filter (initial other),
    ← moveTimeline, ← moveTimeline, moveTimeline_eq same, start]

/-- The verdict on a plan, whatever arms and blocks are known: no error is found exactly when every
step is safe on the stacking with which it begins. Plans with the same moves get the same errors, so
that nothing but moves counts, at the time itself and at all later ones. -/
theorem verify_sound_complete (state : State) (plan : Plan) :
    (ErrorFree (world.verify state (some plan)) ↔
      ∀ t step, plan.timeline[t]? = some step → SafeStep (stackingBefore plan t) step) ∧
    ∀ other, SameMoves plan other →
      (world.verify state (some plan)).filter Diagnostic.isError =
        (world.verify state (some other)).filter Diagnostic.isError := by
  constructor
  · rw [← safe_splits_iff, ← runFindings_eq_nil_iff]
    exact errorFree_verify plan
  · intro other same
    exact errors_eq_of_sameMoves same

end PlanReferee.Blocks
