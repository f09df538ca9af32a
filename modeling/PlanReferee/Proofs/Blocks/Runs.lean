import Mathlib.Data.List.Induction
import PlanReferee.Proofs.Blocks.Safety

/-! Runs of moves. After some moves a block rests where the last of them put it, and where it was if
none took it. A replay without errors is a run of safe steps, so that what every safe step keeps
holds after each of them. -/

namespace PlanReferee.Blocks

open Std (ExtTreeMap)

/-! Making moves. -/

/-- Where moves put the blocks that they take, each block where it is put last. -/
def landing (ms : List Move) : Stacking := apply ∅ ms

theorem apply_append (on : Stacking) (ms more : List Move) :
    apply on (ms ++ more) = apply (apply on ms) more :=
  List.foldl_append

theorem getElem?_apply (on : Stacking) (ms : List Move) (block : String) :
    (apply on ms)[block]? = (landing ms)[block]?.or on[block]? := by
  have step : ∀ (on : Stacking) (m : Move) (more : List Move),
      apply on (m :: more) = apply (on.insert m.source m.target) more := fun _ _ _ => rfl
  unfold landing
  induction ms generalizing on with
  | nil => simp [apply]
  | cons m more ih =>
    rw [step, step, ih, ih (ExtTreeMap.insert ∅ m.source m.target), Option.or_assoc]
    congr 1
    simp only [ExtTreeMap.getElem?_insert, ExtTreeMap.getElem?_empty]
    split <;> rfl

theorem mem_of_landing {ms : List Move} {block support : String}
    (h : (landing ms)[block]? = some support) : ⟨block, support⟩ ∈ ms := by
  induction ms with
  | nil => simp [landing, apply] at h
  | cons m more ih =>
    have first : landing (m :: more) = apply (ExtTreeMap.insert ∅ m.source m.target) more := rfl
    rw [first, getElem?_apply, Option.or_eq_some_iff] at h
    rcases h with later | ⟨_, now⟩
    · exact List.mem_cons_of_mem m (ih later)
    · simp only [ExtTreeMap.getElem?_insert, Std.compare_eq_iff_eq, ExtTreeMap.getElem?_empty]
        at now
      split at now
      · rename_i source
        rw [← source, ← Option.some.inj now]
        exact List.mem_cons_self
      · cases now

theorem mem_moves (step : Step) (m : Move) :
    m ∈ moves step ↔ ∃ arm action, step.Has arm action ∧ Reads action m := by
  simp only [moves, List.mem_filterMap, Prod.exists, step.mem_orders, move?_ofAction]

theorem reads_unique {action : Action} {m m' : Move} (h : Reads action m)
    (h' : Reads action m') : m = m' := by
  have arguments := h.2.symm.trans h'.2
  cases m
  cases m'
  simp_all

/-! Runs. -/

theorem on_replaySteps (on : Stacking) (steps : List (Time × Step)) :
    (replaySteps on steps).on = apply on (steps.flatMap fun entry => moves entry.2) := by
  induction steps generalizing on with
  | nil => rfl
  | cons entry more ih =>
    rw [List.flatMap_cons, apply_append, ← ih]
    rfl

/-- The steps up to a stored one are those before it and the step itself. -/
theorem upTo_eq_filter {plan : Plan} {before after : List (Time × Step)} {t : Time} {step : Step}
    (split : plan.steps = before ++ (t, step) :: after) :
    plan.steps.filter (fun entry => entry.1 ≤ t) = before ++ [(t, step)] := by
  have ascending := plan.steps_ascending
  rw [split] at ascending ⊢
  obtain ⟨_, later, across⟩ := List.pairwise_append.mp ascending
  have kept : ∀ entry ∈ before, entry.1 ≤ t :=
    fun entry he => Std.le_of_lt (across entry he (t, step) List.mem_cons_self)
  have dropped : ∀ entry ∈ after, ¬ entry.1 ≤ t :=
    fun entry he => Std.not_le.mpr ((List.pairwise_cons.mp later).1 entry he)
  rw [List.filter_append, List.filter_cons, if_pos (decide_eq_true (Std.le_refl t)),
    List.filter_eq_self.mpr, List.filter_eq_nil_iff.mpr]
  · exact fun entry he h => dropped entry he (of_decide_eq_true h)
  · exact fun entry he => decide_eq_true (kept entry he)

theorem stackingAt_of_split {plan : Plan} {before after : List (Time × Step)} {t : Time}
    {step : Step} (split : plan.steps = before ++ (t, step) :: after) :
    stackingAt plan t =
      apply (initial plan) ((before ++ [(t, step)]).flatMap fun entry => moves entry.2) := by
  rw [stackingAt, on_replaySteps, upTo_eq_filter split]

theorem stackingAt_of_stored {plan : Plan} {t : Time} {step : Step}
    (stored : plan.timeline[t]? = some step) :
    stackingAt plan t = apply (stackingBefore plan t) (moves step) := by
  obtain ⟨before, after, split⟩ := List.append_of_mem ((plan.mem_steps t step).mpr stored)
  rw [stackingAt_of_split split, stackingBefore, Plan.earlier_eq_filter split, List.flatMap_append,
    apply_append, List.flatMap_singleton]

/-- What holds at first and is kept by every safe step of a plan holds after any first part of its
steps, if no error is found. -/
theorem run_of_errorFree {Keeps : Stacking → Prop} {plan : Plan} (free : ErrorFree (verify plan))
    (start : Keeps (initial plan))
    (safe : ∀ (t : Time) (step : Step) (on : Stacking), plan.timeline[t]? = some step →
      SafeStep on step → Keeps on → Keeps (apply on (moves step)))
    {before after : List (Time × Step)} (split : plan.steps = before ++ after) :
    Keeps (apply (initial plan) (before.flatMap fun entry => moves entry.2)) := by
  have steps := (runFindings_eq_nil_iff _ _).mp ((errorFree_verify plan).mp free)
  -- The last step of the first part is safe on what the steps before it lead to.
  induction before using List.reverseRecOn generalizing after with
  | nil => exact start
  | append_singleton front entry ih =>
    obtain ⟨t, step⟩ := entry
    have split : plan.steps = front ++ (t, step) :: after := by rw [split, ← List.append_cons]
    have stored : plan.timeline[t]? = some step := by
      rw [← plan.mem_steps, split]
      exact List.mem_append_right front List.mem_cons_self
    rw [List.flatMap_append, apply_append, List.flatMap_singleton]
    exact safe t step _ stored (steps front t step after split) (ih split)

theorem stackingAt_of_errorFree {Keeps : Stacking → Prop} {plan : Plan}
    (free : ErrorFree (verify plan)) (start : Keeps (initial plan))
    (safe : ∀ (t : Time) (step : Step) (on : Stacking), plan.timeline[t]? = some step →
      SafeStep on step → Keeps on → Keeps (apply on (moves step)))
    {t : Time} (stored : t ∈ plan.timeline) : Keeps (stackingAt plan t) := by
  obtain ⟨step, stored⟩ := Option.isSome_iff_exists.mp
    (ExtTreeMap.mem_iff_isSome_getElem?.mp stored)
  obtain ⟨before, after, split⟩ := List.append_of_mem ((plan.mem_steps t step).mpr stored)
  rw [stackingAt_of_split split]
  exact run_of_errorFree free start safe (by rw [split, List.append_cons])

end PlanReferee.Blocks
