import PlanReferee.Proofs.Plan.Description

/-! Plans do not depend on the order of the facts, nor on how often a fact is given. Only start and
goal literals keep their order. A plan that cannot be built from some facts cannot be built from
them in another order either, though another fact may then be the first to blame. -/

namespace PlanReferee

open Std (ExtTreeMap ExtTreeSet)

/-! Outcomes. -/

/-- Two faults of one kind, whatever fact they blame. -/
def Fault.SameKind : Fault → Fault → Prop
  | .malformed _, .malformed _ => True
  | .noGoal, .noGoal => True
  | .unknownAgent _ _, .unknownAgent _ _ => True
  | _, _ => False

/-- Two attempts come to results that are so related, or fail for one kind of fault. -/
inductive Alike {α : Type} (related : α → α → Prop) : Except Fault α → Except Fault α → Prop
  | ok {a b : α} (h : related a b) : Alike related (.ok a) (.ok b)
  | error {fault other : Fault} (h : fault.SameKind other) :
    Alike related (.error fault) (.error other)

theorem Alike.map {α β : Type} {related : α → α → Prop} {related' : β → β → Prop} {f g : α → β}
    (keeps : ∀ a b, related a b → related' (f a) (g b)) {x y : Except Fault α}
    (h : Alike related x y) : Alike related' (x.map f) (y.map g) := by
  cases h with
  | ok h => exact .ok (keeps _ _ h)
  | error h => exact .error h

/-! Trees with the same content. -/

theorem map_ext {κ ν : Type} [Ord κ] [Std.TransOrd κ] [Std.LawfulEqOrd κ]
    {entries other : ExtTreeMap κ ν} (keys : ∀ key, key ∈ entries ↔ key ∈ other)
    (values : ∀ (key : κ) (value value' : ν), entries[key]? = some value →
      other[key]? = some value' → value = value') : entries = other := by
  refine ExtTreeMap.ext_getElem? fun key => ?_
  have same := keys key
  rw [ExtTreeMap.mem_iff_isSome_getElem?, ExtTreeMap.mem_iff_isSome_getElem?] at same
  cases h : entries[key]? with
  | none =>
    rw [h] at same
    exact (Option.not_isSome_iff_eq_none.mp fun some => Bool.noConfusion (same.mpr some)).symm
  | some value =>
    rw [h] at same
    obtain ⟨value', h'⟩ := Option.isSome_iff_exists.mp (same.mp rfl)
    rw [h', values key value value' h h']

theorem files_ext {κ ν : Type} [Ord κ] [Std.TransOrd κ] [Std.LawfulEqOrd κ] [Ord ν]
    [Std.TransOrd ν] [Std.LawfulEqOrd ν] {files other : ExtTreeMap κ (ExtTreeSet ν)}
    (keys : ∀ key, key ∈ files ↔ key ∈ other)
    (filed : ∀ (key : κ) (value : ν), (∃ values, files[key]? = some values ∧ value ∈ values) ↔
      ∃ values, other[key]? = some values ∧ value ∈ values) : files = other := by
  refine map_ext keys fun key values values' h h' => ExtTreeSet.ext_mem fun value => ?_
  have same := filed key value
  simpa only [h, h', Option.some.injEq, exists_eq_left'] using same

theorem ofList_congr {α : Type} [Ord α] [Std.TransOrd α] [Std.LawfulEqOrd α] [DecidableEq α]
    {xs ys : List α} (same : ∀ a, a ∈ xs ↔ a ∈ ys) :
    ExtTreeSet.ofList xs = ExtTreeSet.ofList ys := by
  refine ExtTreeSet.ext_mem fun a => ?_
  rw [ExtTreeSet.mem_ofList, ExtTreeSet.mem_ofList, List.contains_iff_mem, List.contains_iff_mem]
  exact same a

namespace Plan

theorem listed_timelineOf_iff (agents : ExtTreeSet Agent) (times : ExtTreeSet Time)
    (orders : List (Time × Agent × Action)) (t : Time) (agent : Agent) :
    Listed (timelineOf agents times orders) t agent ↔ t ∈ timelineOf agents times orders ∧
      (agent ∈ agents ∨ ∃ action, (t, agent, action) ∈ orders) := by
  constructor
  · intro listed
    have stored : t ∈ timelineOf agents times orders := by
      obtain ⟨step, stored, _⟩ := listed
      rw [ExtTreeMap.mem_iff_isSome_getElem?, stored]
      rfl
    exact ⟨stored, listed_timelineOf agents times orders t agent listed⟩
  · rintro ⟨stored, member | ⟨action, ordered⟩⟩
    · obtain ⟨step, stored⟩ := Option.isSome_iff_exists.mp
        (ExtTreeMap.mem_iff_isSome_getElem?.mp stored)
      exact ⟨step, stored, complete_timelineOf agents times orders t step stored agent member⟩
    · obtain ⟨step, stored, actions, entry, _⟩ :=
        (does_timelineOf agents times orders t agent action).mpr ordered
      refine ⟨step, stored, ?_⟩
      rw [ExtTreeMap.mem_iff_isSome_getElem?, entry]
      rfl

theorem timeline_ext {timeline other : ExtTreeMap Time Step}
    (times : ∀ t, t ∈ timeline ↔ t ∈ other)
    (listed : ∀ t agent, Listed timeline t agent ↔ Listed other t agent)
    (does : ∀ t agent action, Does timeline t agent action ↔ Does other t agent action) :
    timeline = other := by
  refine map_ext times fun t step step' stored stored' => files_ext ?_ ?_
  · intro agent
    simpa only [Listed, stored, stored', Option.some.injEq, exists_eq_left'] using listed t agent
  · intro agent action
    have same := does t agent action
    simpa only [Does, stored, stored', Option.some.injEq, exists_eq_left', Step.Has] using same

/-- A timeline depends on the orders, but not on their order. -/
theorem timelineOf_congr (agents : ExtTreeSet Agent) (times : ExtTreeSet Time)
    {orders other : List (Time × Agent × Action)} (same : ∀ order, order ∈ orders ↔ order ∈ other) :
    timelineOf agents times orders = timelineOf agents times other := by
  have times_eq : ∀ t,
      t ∈ timelineOf agents times orders ↔ t ∈ timelineOf agents times other := by
    intro t
    simp only [mem_timelineOf, same]
  refine timeline_ext times_eq ?_ ?_
  · intro t agent
    simp only [listed_timelineOf_iff, times_eq, same]
  · intro t agent action
    simp only [does_timelineOf, same]

theorem mem_records_time (entries : List (Time × String))
    (holds : ExtTreeMap Time (ExtTreeSet String)) (t : Time) :
    t ∈ entries.foldl record holds ↔ t ∈ holds ∨ ∃ literal, (t, literal) ∈ entries := by
  induction entries generalizing holds with
  | nil => simp
  | cons entry entries ih =>
    have one : t ∈ record holds entry ↔ t ∈ holds ∨ t = entry.1 := by
      simp only [record, ExtTreeMap.mem_alter, Std.compare_eq_iff_eq]
      by_cases h : entry.1 = t
      · simp [h]
      · simp [h, Ne.symm h]
    rw [List.foldl_cons, ih, one, or_assoc]
    refine or_congr_right ?_
    simp only [List.mem_cons, Prod.ext_iff, exists_or, exists_and_left, exists_eq, and_true]

theorem records_congr {entries other : List (Time × String)}
    (same : ∀ entry, entry ∈ entries ↔ entry ∈ other) :
    entries.foldl record ∅ = other.foldl record ∅ := by
  refine files_ext ?_ ?_
  · intro t
    simp only [mem_records_time, same]
  · intro t literal
    simp only [mem_records, same]

end Plan

/-! Plans from the same facts. -/

/-- The facts of two lists are the same, and their start and goal literals come in one order. -/
structure SameFacts (facts other : List Fact) : Prop where
  members : ∀ fact, fact ∈ facts ↔ fact ∈ other
  start : (facts.filter fun fact => fact.name = "start") =
    other.filter fun fact => fact.name = "start"
  goal : (facts.filter fun fact => fact.name = "goal") =
    other.filter fun fact => fact.name = "goal"

namespace SameFacts

variable {facts other : List Fact}

theorem said_iff (same : SameFacts facts other) (said : Statement) :
    Said facts said ↔ Said other said := by
  simp only [Said, same.members]

theorem mem_readings_iff (same : SameFacts facts other) (reading : Reading) :
    reading ∈ readings facts ↔ reading ∈ readings other := by
  obtain ⟨fact, said⟩ := reading
  rw [mem_readings, mem_readings, same.members]

theorem collected_eq {α : Type} [Ord α] [Std.TransOrd α] [Std.LawfulEqOrd α] [DecidableEq α]
    {pick : Statement → Option α} {make : α → Statement}
    (inverse : ∀ said a, pick said = some a ↔ said = make a) (same : SameFacts facts other) :
    ExtTreeSet.ofList (((readings facts).map (·.2)).filterMap pick) =
      ExtTreeSet.ofList (((readings other).map (·.2)).filterMap pick) := by
  refine ofList_congr fun a => ?_
  rw [mem_filterMap_said inverse, mem_filterMap_said inverse, same.said_iff]

theorem starts_eq (same : SameFacts facts other) :
    ((readings facts).map (·.2)).filterMap Statement.start? =
      ((readings other).map (·.2)).filterMap Statement.start? := by
  have starts := literals_said start?_inverse fun (_ : Fact) _ => Iff.rfl
  rw [starts facts, starts other, same.start]

theorem goals_eq (same : SameFacts facts other) :
    ((readings facts).map (·.2)).filterMap Statement.goal? =
      ((readings other).map (·.2)).filterMap Statement.goal? := by
  have goals := literals_said goal?_inverse fun (_ : Fact) _ => Iff.rfl
  rw [goals facts, goals other, same.goal]

end SameFacts

attribute [ext] Plan

namespace Plan

variable {facts other : List Fact}

theorem agents_congr (same : SameFacts facts other) :
    (roster ((readings facts).map (·.2))).1 = (roster ((readings other).map (·.2))).1 := by
  ext agent
  have known := mem_agents_assemble facts agent
  have known' := mem_agents_assemble other agent
  simp only [same.said_iff] at known
  exact known.trans known'.symm

theorem timeline_congr (same : SameFacts facts other) :
    (assemble (readings facts)).plan.timeline = (assemble (readings other)).plan.timeline := by
  have agents : (assemble (readings facts)).plan.agents =
      (assemble (readings other)).plan.agents := agents_congr same
  rw [timeline_assemble, timeline_assemble, agents, same.collected_eq time?_inverse]
  refine timelineOf_congr _ _ ?_
  rintro ⟨t, agent, action⟩
  simp only [mem_orders_said, same.said_iff]

theorem endTime_congr (same : SameFacts facts other) :
    (assemble (readings facts)).plan.endTime = (assemble (readings other)).plan.endTime := by
  rw [endTime, endTime, lastTime?, lastTime?, timeline_congr same]

theorem holds_congr (same : SameFacts facts other) :
    (assemble (readings facts)).plan.holds = (assemble (readings other)).plan.holds := by
  have holds : ∀ facts, (assemble (readings facts)).plan.holds =
      (((readings facts).filter fun reading =>
        (late? (assemble (readings facts)).plan.endTime reading).isNone).filterMap
          fun reading => reading.2.holding?).foldl record ∅ := fun _ => rfl
  rw [holds, holds]
  refine records_congr ?_
  rintro ⟨t, literal⟩
  rw [mem_kept_holding, mem_kept_holding, same.said_iff, endTime_congr same]

theorem plan_congr (same : SameFacts facts other) :
    (assemble (readings facts)).plan = (assemble (readings other)).plan := by
  have singleAgent : (assemble (readings facts)).plan.singleAgent =
      (assemble (readings other)).plan.singleAgent := by
    rw [Bool.eq_iff_iff, singleAgent_assemble, singleAgent_assemble]
    simp only [same.said_iff]
  exact Plan.ext (agents_congr same) singleAgent (same.collected_eq time?_inverse)
    (timeline_congr same) (holds_congr same) (same.collected_eq fluent?_inverse)
    (same.collected_eq droppedFluent?_inverse) (same.collected_eq actionSchema?_inverse)
    same.starts_eq same.goals_eq

theorem recognized_congr (same : SameFacts facts other) :
    (assemble (readings facts)).recognized = (assemble (readings other)).recognized := by
  ext raw
  simp only [mem_recognized_assemble, same.members, endTime_congr same]

/-- The same facts make the same plan, or are at fault for the same kind of reason. -/
theorem build_alike (same : SameFacts facts other) :
    Alike (fun built built' => built.plan = built'.plan ∧ built.recognized = built'.recognized)
      (build facts) (build other) := by
  have known_iff : (∀ reading ∈ readings facts,
      stranger? (roster ((readings facts).map (·.2))).1 reading = none) ↔
        ∀ reading ∈ readings other,
          stranger? (roster ((readings other).map (·.2))).1 reading = none := by
    simp only [agents_congr same, same.mem_readings_iff]
  -- A stranger may come first in one order and late in the other, but is one in both.
  rcases build_cases facts with ⟨reading, member, agent, raw, strange, failed⟩ | ⟨known, ended⟩ <;>
    rcases build_cases other with ⟨reading', member', agent', raw', strange', failed'⟩ |
      ⟨known', ended'⟩
  · rw [failed, failed']
    exact .error trivial
  · rw [known_iff.mpr known' reading member] at strange
    cases strange
  · rw [known_iff.mp known reading' member'] at strange'
    cases strange'
  · rw [ended, ended', same.goals_eq]
    split
    · exact .error trivial
    · exact .ok ⟨plan_congr same, recognized_congr same⟩

end Plan

end PlanReferee
