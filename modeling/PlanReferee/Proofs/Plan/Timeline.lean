import PlanReferee.Plan.Build
import PlanReferee.Proofs.Schedule

/-! The timeline that orders build up. One order makes its step if there is none, gives its agent an
entry there and adds its action; nothing else changes. A whole list of orders does what its members
do, in whatever order they come. -/

namespace PlanReferee

open Std (ExtTreeMap ExtTreeSet)

/-- Filing a value under a key adds that one and no other. -/
theorem filed_iff {κ ν : Type} [Ord κ] [Std.TransOrd κ] [Std.LawfulEqOrd κ] [DecidableEq κ]
    [Ord ν] [Std.TransOrd ν] [Std.LawfulEqOrd ν] (files : ExtTreeMap κ (ExtTreeSet ν))
    (key key' : κ) (value value' : ν) :
    (∃ values, (files.alter key fun values? => some ((values?.getD ∅).insert value))[key']? =
        some values ∧ value' ∈ values) ↔
      (∃ values, files[key']? = some values ∧ value' ∈ values) ∨ key' = key ∧ value' = value := by
  simp only [ExtTreeMap.getElem?_alter, Std.compare_eq_iff_eq]
  by_cases h : key = key'
  · subst h
    simp only [if_true, Option.some.injEq, exists_eq_left', true_and, ExtTreeSet.mem_insert,
      Std.compare_eq_iff_eq]
    cases files[key]? with
    | none => simp [eq_comm]
    | some values => simp [eq_comm, or_comm]
  · simp only [h, if_false, Ne.symm h, false_and, or_false]

/-- Filling in one value under each of the keys. -/
theorem getElem?_fill {κ ν : Type} [Ord κ] [Std.TransOrd κ] [Std.LawfulEqOrd κ] [DecidableEq κ]
    (keys : ExtTreeSet κ) (value : ν) (key : κ) :
    (keys.toList.foldl (fun filled key => filled.insert key value) (∅ : ExtTreeMap κ ν))[key]? =
      if key ∈ keys then some value else none := by
  have along : ∀ (listed : List κ) (filled : ExtTreeMap κ ν),
      (listed.foldl (fun filled key => filled.insert key value) filled)[key]? =
        if key ∈ listed then some value else filled[key]? := by
    intro listed
    induction listed with
    | nil => intro filled; simp
    | cons first listed ih =>
      intro filled
      simp only [List.foldl_cons, ih, ExtTreeMap.getElem?_insert, Std.compare_eq_iff_eq,
        List.mem_cons]
      by_cases h : first = key
      · simp [h]
      · simp [h, Ne.symm h]
  simp only [along, ExtTreeSet.mem_toList, ExtTreeMap.getElem?_empty]

namespace Plan

/-- A step with one more action. -/
def assign (step : Step) (agent : Agent) (action : Action) : Step :=
  step.alter agent fun actions? => some ((actions?.getD ∅).insert action)

theorem has_assign (step : Step) (agent agent' : Agent) (action action' : Action) :
    (assign step agent action).Has agent' action' ↔
      step.Has agent' action' ∨ agent' = agent ∧ action' = action :=
  filed_iff step agent agent' action action'

theorem mem_assign (step : Step) (agent agent' : Agent) (action : Action) :
    agent' ∈ assign step agent action ↔ agent' ∈ step ∨ agent' = agent := by
  simp only [assign, ExtTreeMap.mem_alter, Std.compare_eq_iff_eq]
  by_cases h : agent = agent'
  · simp [h]
  · simp [h, Ne.symm h]

theorem getElem?_idleStep (agents : ExtTreeSet Agent) (agent : Agent) :
    (idleStep agents)[agent]? = if agent ∈ agents then some ∅ else none :=
  getElem?_fill agents ∅ agent

theorem mem_idleStep (agents : ExtTreeSet Agent) (agent : Agent) :
    agent ∈ idleStep agents ↔ agent ∈ agents := by
  rw [ExtTreeMap.mem_iff_isSome_getElem?, getElem?_idleStep]
  split <;> simp_all

theorem not_has_idleStep (agents : ExtTreeSet Agent) (agent : Agent) (action : Action) :
    ¬ (idleStep agents).Has agent action := by
  rintro ⟨actions, stored, member⟩
  rw [getElem?_idleStep] at stored
  split at stored
  · cases stored
    exact ExtTreeSet.not_mem_empty member
  · cases stored

/-! One order. -/

/-- An action is scheduled in a timeline. -/
def Does (timeline : ExtTreeMap Time Step) (t : Time) (agent : Agent) (action : Action) : Prop :=
  ∃ step, timeline[t]? = some step ∧ step.Has agent action

/-- An agent has an entry in a timeline, be it an idle one. -/
def Listed (timeline : ExtTreeMap Time Step) (t : Time) (agent : Agent) : Prop :=
  ∃ step, timeline[t]? = some step ∧ agent ∈ step

theorem getElem?_schedule (agents : ExtTreeSet Agent) (timeline : ExtTreeMap Time Step)
    (t t' : Time) (agent : Agent) (action : Action) :
    (schedule agents timeline (t, agent, action))[t']? =
      if t' = t then some (assign (timeline[t]?.getD (idleStep agents)) agent action)
      else timeline[t']? := by
  simp only [schedule, ExtTreeMap.getElem?_alter, Std.compare_eq_iff_eq]
  by_cases h : t = t'
  · simp [h, assign]
  · simp [h, Ne.symm h]

theorem mem_schedule (agents : ExtTreeSet Agent) (timeline : ExtTreeMap Time Step)
    (order : Time × Agent × Action) (t : Time) :
    t ∈ schedule agents timeline order ↔ t ∈ timeline ∨ t = order.1 := by
  obtain ⟨s, agent, action⟩ := order
  rw [ExtTreeMap.mem_iff_isSome_getElem?, getElem?_schedule, ExtTreeMap.mem_iff_isSome_getElem?]
  by_cases h : t = s <;> simp [h]

theorem does_schedule (agents : ExtTreeSet Agent) (timeline : ExtTreeMap Time Step)
    (order : Time × Agent × Action) (t : Time) (agent : Agent) (action : Action) :
    Does (schedule agents timeline order) t agent action ↔
      Does timeline t agent action ∨ (t, agent, action) = order := by
  obtain ⟨s, agent', action'⟩ := order
  rw [Does, getElem?_schedule]
  by_cases h : t = s
  · subst h
    simp only [if_true, Option.some.injEq, exists_eq_left', has_assign, Does, Prod.mk.injEq,
      true_and]
    cases timeline[t]? with
    | none => simp [not_has_idleStep]
    | some step => simp
  · simp [h, Does]

/-- Every stored step has an entry for each of these agents. -/
def Complete (agents : ExtTreeSet Agent) (timeline : ExtTreeMap Time Step) : Prop :=
  ∀ (t : Time) (step : Step), timeline[t]? = some step → ∀ agent ∈ agents, agent ∈ step

theorem complete_schedule (agents : ExtTreeSet Agent) (timeline : ExtTreeMap Time Step)
    (order : Time × Agent × Action) (h : Complete agents timeline) :
    Complete agents (schedule agents timeline order) := by
  intro t step stored agent member
  rw [getElem?_schedule] at stored
  split at stored
  · cases stored
    refine (mem_assign _ _ _ _).mpr (.inl ?_)
    cases known : timeline[order.1]? with
    | none => exact (mem_idleStep agents agent).mpr member
    | some step => exact h _ step known agent member
  · exact h t step stored agent member

theorem listed_schedule (agents : ExtTreeSet Agent) (timeline : ExtTreeMap Time Step)
    (order : Time × Agent × Action) (t : Time) (agent : Agent)
    (h : Listed (schedule agents timeline order) t agent) :
    Listed timeline t agent ∨ agent ∈ agents ∨ t = order.1 ∧ agent = order.2.1 := by
  obtain ⟨step, stored, member⟩ := h
  rw [getElem?_schedule] at stored
  split at stored
  · rename_i now
    cases stored
    rcases (mem_assign _ _ _ _).mp member with member | same
    · cases known : timeline[order.1]? with
      | none =>
        rw [known] at member
        exact .inr (.inl ((mem_idleStep agents agent).mp member))
      | some step =>
        rw [known] at member
        exact .inl ⟨step, now ▸ known, member⟩
    · exact .inr (.inr ⟨now, same⟩)
  · exact .inl ⟨step, stored, member⟩

/-! All orders. -/

theorem mem_schedules (agents : ExtTreeSet Agent) (orders : List (Time × Agent × Action))
    (timeline : ExtTreeMap Time Step) (t : Time) :
    t ∈ orders.foldl (schedule agents) timeline ↔ t ∈ timeline ∨ ∃ order ∈ orders, t = order.1 := by
  induction orders generalizing timeline with
  | nil => simp
  | cons order orders ih =>
    rw [List.foldl_cons, ih, mem_schedule, or_assoc]
    simp only [List.mem_cons, exists_eq_or_imp]

theorem does_schedules (agents : ExtTreeSet Agent) (orders : List (Time × Agent × Action))
    (timeline : ExtTreeMap Time Step) (t : Time) (agent : Agent) (action : Action) :
    Does (orders.foldl (schedule agents) timeline) t agent action ↔
      Does timeline t agent action ∨ (t, agent, action) ∈ orders := by
  induction orders generalizing timeline with
  | nil => simp
  | cons order orders ih =>
    rw [List.foldl_cons, ih, does_schedule, or_assoc, List.mem_cons]

theorem complete_schedules (agents : ExtTreeSet Agent) (orders : List (Time × Agent × Action))
    (timeline : ExtTreeMap Time Step) (h : Complete agents timeline) :
    Complete agents (orders.foldl (schedule agents) timeline) := by
  induction orders generalizing timeline with
  | nil => exact h
  | cons order orders ih => exact ih _ (complete_schedule agents timeline order h)

theorem listed_schedules (agents : ExtTreeSet Agent) (orders : List (Time × Agent × Action))
    (timeline : ExtTreeMap Time Step) (t : Time) (agent : Agent)
    (h : Listed (orders.foldl (schedule agents) timeline) t agent) :
    Listed timeline t agent ∨ agent ∈ agents ∨ ∃ action, (t, agent, action) ∈ orders := by
  -- Steps are only made for orders, idle entries for declared agents and others for orders alone.
  induction orders generalizing timeline with
  | nil => exact .inl h
  | cons order orders ih =>
    rcases ih _ h with h | h | ⟨action, member⟩
    · rcases listed_schedule agents timeline order t agent h with h | h | ⟨rfl, rfl⟩
      · exact .inl h
      · exact .inr (.inl h)
      · exact .inr (.inr ⟨order.2.2, List.mem_cons_self⟩)
    · exact .inr (.inl h)
    · exact .inr (.inr ⟨action, List.mem_cons_of_mem _ member⟩)

/-! The timeline of a plan, which begins with an idle step for each declared time. -/

theorem getElem?_idleTimes (agents : ExtTreeSet Agent) (times : ExtTreeSet Time) (t : Time) :
    (times.toList.foldl (fun timeline t => timeline.insert t (idleStep agents))
      (∅ : ExtTreeMap Time Step))[t]? = if t ∈ times then some (idleStep agents) else none :=
  getElem?_fill times (idleStep agents) t

theorem mem_timelineOf (agents : ExtTreeSet Agent) (times : ExtTreeSet Time)
    (orders : List (Time × Agent × Action)) (t : Time) :
    t ∈ timelineOf agents times orders ↔ t ∈ times ∨ ∃ order ∈ orders, t = order.1 := by
  rw [timelineOf, mem_schedules, ExtTreeMap.mem_iff_isSome_getElem?, getElem?_idleTimes]
  by_cases h : t ∈ times <;> simp [h]

theorem does_timelineOf (agents : ExtTreeSet Agent) (times : ExtTreeSet Time)
    (orders : List (Time × Agent × Action)) (t : Time) (agent : Agent) (action : Action) :
    Does (timelineOf agents times orders) t agent action ↔ (t, agent, action) ∈ orders := by
  rw [timelineOf, does_schedules, or_iff_right]
  rintro ⟨step, stored, has⟩
  rw [getElem?_idleTimes] at stored
  split at stored
  · cases stored
    exact not_has_idleStep agents agent action has
  · cases stored

theorem complete_timelineOf (agents : ExtTreeSet Agent) (times : ExtTreeSet Time)
    (orders : List (Time × Agent × Action)) : Complete agents (timelineOf agents times orders) := by
  refine complete_schedules agents orders _ ?_
  intro t step stored agent member
  rw [getElem?_idleTimes] at stored
  split at stored
  · cases stored
    exact (mem_idleStep agents agent).mpr member
  · cases stored

theorem listed_timelineOf (agents : ExtTreeSet Agent) (times : ExtTreeSet Time)
    (orders : List (Time × Agent × Action)) (t : Time) (agent : Agent)
    (h : Listed (timelineOf agents times orders) t agent) :
    agent ∈ agents ∨ ∃ action, (t, agent, action) ∈ orders := by
  rcases listed_schedules agents orders _ t agent h with ⟨step, stored, member⟩ | h
  · rw [getElem?_idleTimes] at stored
    split at stored
    · cases stored
      exact .inl ((mem_idleStep agents agent).mp member)
    · cases stored
  · exact h

/-! What holds. -/

theorem mem_records (entries : List (Time × String))
    (holds : ExtTreeMap Time (ExtTreeSet String)) (t : Time) (literal : String) :
    (∃ literals, (entries.foldl record holds)[t]? = some literals ∧ literal ∈ literals) ↔
      (∃ literals, holds[t]? = some literals ∧ literal ∈ literals) ∨ (t, literal) ∈ entries := by
  induction entries generalizing holds with
  | nil => simp
  | cons entry entries ih =>
    rw [List.foldl_cons, ih, List.mem_cons, ← or_assoc, Prod.ext_iff]
    exact or_congr_left (filed_iff holds entry.1 t entry.2 literal)

end Plan

end PlanReferee
