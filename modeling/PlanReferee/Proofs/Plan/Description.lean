import PlanReferee.Proofs.Plan.Statements
import PlanReferee.Proofs.Plan.Timeline

/-! What a built plan holds, in terms of what the facts say, wherever in the list they stand. -/

namespace PlanReferee

open Std (ExtTreeMap ExtTreeSet)

/-- Some fact of the list says this. -/
def Said (facts : List Fact) (said : Statement) : Prop := ∃ fact ∈ facts, fact.Says said

/-- A plan that is just what the facts say, with the raw texts of the facts that went into it. -/
structure Describes (facts : List Fact) (built : Built) : Prop where
  agents : ∀ agent, agent ∈ built.plan.agents ↔
    Said facts (.agent agent) ∨ agent = .default ∧ ∀ other, ¬ Said facts (.agent other)
  singleAgent : built.plan.singleAgent = true ↔ ∀ agent, ¬ Said facts (.agent agent)
  declaredTimes : ∀ t, t ∈ built.plan.declaredTimes ↔ Said facts (.time t)
  times : ∀ t, t ∈ built.plan.timeline ↔
    Said facts (.time t) ∨ ∃ agent? action, Said facts (.exec t agent? action)
  complete : ∀ (t : Time) (step : Step), built.plan.timeline[t]? = some step →
    ∀ agent ∈ built.plan.agents, agent ∈ step
  /-- Only the default agent may have an entry without being on the roster. -/
  guests : ∀ (t : Time) (step : Step), built.plan.timeline[t]? = some step →
    ∀ agent ∈ step, agent ∉ built.plan.agents →
      agent = .default ∧ ∃ action, Said facts (.exec t none action)
  actions : ∀ t agent action, built.plan.Has t agent action ↔
    ∃ agent?, Said facts (.exec t agent? action) ∧ agent?.getD .default = agent
  start : built.plan.start = (facts.filter fun fact => fact.name = "start").map (·.args)
  goal : built.plan.goal = (facts.filter fun fact => fact.name = "goal").map (·.args)
  goal_ne_nil : built.plan.goal ≠ []
  endTime_empty : (∀ t, t ∉ built.plan.timeline) → built.plan.endTime = 0
  endTime_last : ∀ last ∈ built.plan.timeline, (∀ t ∈ built.plan.timeline, t ≤ last) →
    built.plan.endTime.toNat = min (last.toNat + 1) (UInt32.size - 1)
  holdingAt_none : ∀ t, built.plan.holdingAt? t = none ↔ built.plan.endTime < t
  holdingAt_some : ∀ t literals, built.plan.holdingAt? t = some literals →
    ∀ literal, literal ∈ literals ↔ Said facts (.holds t literal)
  fluents : ∀ literal, literal ∈ built.plan.fluents ↔ Said facts (.fluent literal)
  droppedFluents : ∀ literal,
    literal ∈ built.plan.droppedFluents ↔ Said facts (.droppedFluent literal)
  actionSchemas : ∀ schema, schema ∈ built.plan.actionSchemas ↔ Said facts (.actionSchema schema)
  /-- All facts that say something, but for a `holds` after the end. -/
  recognized : ∀ raw, raw ∈ built.recognized ↔ ∃ fact ∈ facts, fact.raw = raw ∧
    ∃ said, fact.Says said ∧ ∀ t literal, said = .holds t literal → t ≤ built.plan.endTime

theorem mem_readings (facts : List Fact) (fact : Fact) (said : Statement) :
    (fact, said) ∈ readings facts ↔ fact ∈ facts ∧ fact.Says said := by
  simp only [readings, List.mem_filterMap, Option.map_eq_some_iff, Prod.mk.injEq,
    Statement.read?_eq_some_iff]
  constructor
  · rintro ⟨_, member, _, h, rfl, rfl⟩
    exact ⟨member, h⟩
  · rintro ⟨member, h⟩
    exact ⟨fact, member, said, h, rfl, rfl⟩

theorem mem_said (facts : List Fact) (said : Statement) :
    said ∈ (readings facts).map (·.2) ↔ Said facts said := by
  simp only [List.mem_map, Prod.exists, mem_readings, exists_eq_right, Said]

/-- A part of the statements is picked by a partial function that inverts its constructor. -/
theorem mem_filterMap_said {α : Type} {pick : Statement → Option α} {make : α → Statement}
    (inverse : ∀ said a, pick said = some a ↔ said = make a) (facts : List Fact) (a : α) :
    a ∈ ((readings facts).map (·.2)).filterMap pick ↔ Said facts (make a) := by
  simp only [List.mem_filterMap, inverse, exists_eq_right, mem_said]

theorem agent?_inverse (said : Statement) (agent : Agent) :
    said.agent? = some agent ↔ said = .agent agent := by
  cases said <;> simp [Statement.agent?]

theorem time?_inverse (said : Statement) (t : Time) : said.time? = some t ↔ said = .time t := by
  cases said <;> simp [Statement.time?]

theorem fluent?_inverse (said : Statement) (literal : String) :
    said.fluent? = some literal ↔ said = .fluent literal := by
  cases said <;> simp [Statement.fluent?]

theorem droppedFluent?_inverse (said : Statement) (literal : String) :
    said.droppedFluent? = some literal ↔ said = .droppedFluent literal := by
  cases said <;> simp [Statement.droppedFluent?]

theorem actionSchema?_inverse (said : Statement) (schema : String) :
    said.actionSchema? = some schema ↔ said = .actionSchema schema := by
  cases said <;> simp [Statement.actionSchema?]

theorem start?_inverse (said : Statement) (literal : String) :
    said.start? = some literal ↔ said = .start literal := by
  cases said <;> simp [Statement.start?]

theorem goal?_inverse (said : Statement) (literal : String) :
    said.goal? = some literal ↔ said = .goal literal := by
  cases said <;> simp [Statement.goal?]

theorem holding?_inverse (said : Statement) (t : Time) (literal : String) :
    said.holding? = some (t, literal) ↔ said = .holds t literal := by
  cases said <;> simp [Statement.holding?]

theorem order?_eq_some_iff (said : Statement) (t : Time) (agent : Agent) (action : Action) :
    said.order? = some (t, agent, action) ↔
      ∃ agent?, said = .exec t agent? action ∧ agent?.getD .default = agent := by
  cases said with
  | exec s agent? action' =>
    simp only [Statement.order?, Option.some.injEq, Prod.mk.injEq, Statement.exec.injEq]
    constructor
    · rintro ⟨rfl, rfl, rfl⟩
      exact ⟨agent?, ⟨rfl, rfl, rfl⟩, rfl⟩
    · rintro ⟨_, ⟨rfl, rfl, rfl⟩, rfl⟩
      exact ⟨rfl, rfl, rfl⟩
  | _ => simp [Statement.order?]

theorem mem_orders_said (facts : List Fact) (t : Time) (agent : Agent) (action : Action) :
    (t, agent, action) ∈ ((readings facts).map (·.2)).filterMap Statement.order? ↔
      ∃ agent?, Said facts (.exec t agent? action) ∧ agent?.getD .default = agent := by
  simp only [List.mem_filterMap, order?_eq_some_iff, mem_said]
  constructor
  · rintro ⟨_, said, agent?, rfl, h⟩
    exact ⟨agent?, said, h⟩
  · rintro ⟨agent?, said, h⟩
    exact ⟨_, said, agent?, rfl, h⟩

/-- Literals keep the order of their facts, and as often as they are given. -/
theorem literals_said {pick : Statement → Option String} {make : String → Statement}
    {name : String} (inverse : ∀ said literal, pick said = some literal ↔ said = make literal)
    (form : ∀ (fact : Fact) literal, fact.Says (make literal) ↔
      fact.name = name ∧ literal = fact.args) (facts : List Fact) :
    ((readings facts).map (·.2)).filterMap pick =
      (facts.filter fun fact => fact.name = name).map (·.args) := by
  have picked : ∀ fact : Fact, (Statement.lexicon.read? fact).bind pick =
      if fact.name = name then some fact.args else none := by
    intro fact
    ext literal
    simp only [Option.bind_eq_some_iff, inverse, exists_eq_right, Statement.read?_eq_some_iff, form]
    split
    · rename_i h
      simp only [h, true_and, Option.some.injEq, eq_comm]
    · rename_i h
      simp [h]
  have read : (readings facts).map (·.2) = facts.filterMap fun fact =>
      Statement.lexicon.read? fact := by
    rw [readings, List.map_filterMap]
    refine List.filterMap_congr fun fact _ => ?_
    cases Statement.lexicon.read? fact <;> rfl
  rw [read, List.filterMap_filterMap, ← List.filterMap_eq_map', List.filterMap_filter]
  refine List.filterMap_congr fun fact _ => ?_
  rw [picked]
  simp only [decide_eq_true_eq]

namespace Plan

theorem mem_roster (said : List Statement) (agent : Agent) :
    agent ∈ (roster said).1 ↔ agent ∈ said.filterMap Statement.agent? ∨
      agent = .default ∧ said.filterMap Statement.agent? = [] := by
  rw [roster]
  generalize said.filterMap Statement.agent? = agents
  cases agents with
  | nil =>
    rw [ExtTreeSet.mem_ofList]
    simp
  | cons first agents => simp [ExtTreeSet.mem_ofList]

theorem roster_singleAgent (said : List Statement) :
    (roster said).2 = true ↔ said.filterMap Statement.agent? = [] := by
  rw [roster]
  generalize said.filterMap Statement.agent? = agents
  cases agents <;> simp

theorem stranger?_eq_some {agents : ExtTreeSet Agent} {reading : Reading} {fault : Fault}
    (h : stranger? agents reading = some fault) :
    ∃ agent raw, fault = .unknownAgent agent raw := by
  unfold stranger? at h
  split at h
  · split at h
    · cases h
    · exact ⟨_, _, (Option.some.inj h).symm⟩
  · cases h

/-- A build fails for a stranger, for the lack of a goal, or not at all. -/
theorem build_cases (facts : List Fact) :
    (∃ reading ∈ readings facts, ∃ agent raw,
        stranger? (roster ((readings facts).map (·.2))).1 reading = some (.unknownAgent agent raw) ∧
        build facts = .error (.unknownAgent agent raw)) ∨
      (∀ reading ∈ readings facts,
        stranger? (roster ((readings facts).map (·.2))).1 reading = none) ∧
        build facts = if ((readings facts).map (·.2)).filterMap Statement.goal? = [] then
          .error .noGoal else .ok (assemble (readings facts)) := by
  cases first : (readings facts).findSome? (stranger? (roster ((readings facts).map (·.2))).1) with
  | some fault =>
    obtain ⟨reading, member, strange⟩ := List.exists_of_findSome?_eq_some first
    obtain ⟨agent, raw, rfl⟩ := stranger?_eq_some strange
    refine .inl ⟨reading, member, agent, raw, strange, ?_⟩
    simp only [build, first]
  | none =>
    refine .inr ⟨List.findSome?_eq_none_iff.mp first, ?_⟩
    simp only [build, first, List.isEmpty_iff]

theorem build_eq_ok {facts : List Fact} {built : Built} (h : build facts = .ok built) :
    (∀ reading ∈ readings facts,
        stranger? (roster ((readings facts).map (·.2))).1 reading = none) ∧
      ((readings facts).map (·.2)).filterMap Statement.goal? ≠ [] ∧
      built = assemble (readings facts) := by
  rcases build_cases facts with ⟨_, _, _, _, _, failed⟩ | ⟨known, ended⟩
  · cases failed.symm.trans h
  · rw [ended] at h
    split at h
    · cases h
    · rename_i goals
      cases h
      exact ⟨known, goals, rfl⟩

/-- Without a fault, a named agent that is to act is on the roster. -/
theorem rostered_of_known {facts : List Fact} {agents : ExtTreeSet Agent}
    (known : ∀ reading ∈ readings facts, stranger? agents reading = none)
    {t : Time} {agent : Agent} {action : Action}
    (said : Said facts (.exec t (some agent) action)) : agent ∈ agents := by
  obtain ⟨fact, member, h⟩ := said
  have fault := known _ ((mem_readings facts fact _).mpr ⟨member, h⟩)
  by_contra stranger
  simp [stranger?, stranger] at fault

/-! The end of a plan. -/

theorem toNat_next (t : Time) : t.next.toNat = min (t.toNat + 1) (UInt32.size - 1) := by
  have bound := t.toNat_lt
  have size : UInt32.size = 2 ^ 32 := rfl
  rw [Time.next, size]
  split
  · rename_i h
    rw [UInt32.toNat_add, UInt32.toNat_one, Nat.mod_eq_of_lt h]
    omega
  · omega

theorem endTime_of_empty {plan : Plan} (empty : ∀ t, t ∉ plan.timeline) : plan.endTime = 0 := by
  have bare : plan.timeline = ∅ := by
    ext t step
    rw [ExtTreeMap.getElem?_eq_none (empty t), ExtTreeMap.getElem?_empty]
  rw [endTime, lastTime?, bare, ExtTreeMap.maxKey?_empty]
  rfl

theorem endTime_of_last {plan : Plan} {last : Time} (stored : last ∈ plan.timeline)
    (latest : ∀ t ∈ plan.timeline, t ≤ last) :
    plan.endTime.toNat = min (last.toNat + 1) (UInt32.size - 1) := by
  have max : plan.lastTime? = some last := by
    rw [lastTime?, ExtTreeMap.maxKey?_eq_some_iff_mem_and_forall]
    exact ⟨stored, fun t ht => Std.isLE_compare.mpr (latest t ht)⟩
  rw [endTime, max, Option.map_some, Option.getD_some, toNat_next]

theorem holdingAt?_eq_none_iff (plan : Plan) (t : Time) :
    plan.holdingAt? t = none ↔ plan.endTime < t := by
  rw [holdingAt?]
  split <;> simp_all

theorem mem_holdingAt? {plan : Plan} {t : Time} {literals : ExtTreeSet String}
    (h : plan.holdingAt? t = some literals) (literal : String) :
    literal ∈ literals ↔ ∃ stored, plan.holds[t]? = some stored ∧ literal ∈ stored := by
  rw [holdingAt?] at h
  split at h
  · cases h
  · cases h
    rw [ExtTreeMap.getD_eq_getD_getElem?]
    cases plan.holds[t]? <;> simp

/-! What the assembled plan is made of. -/

theorem late?_isNone (last : Time) (fact : Fact) (said : Statement) :
    (late? last (fact, said)).isNone = true ↔ ∀ t literal, said = .holds t literal → t ≤ last := by
  cases said with
  | holds t literal =>
    simp only [late?, Statement.holds.injEq, and_imp, forall_eq', forall_apply_eq_imp_iff]
    split <;> simp_all
  | _ => simp [late?]

theorem mem_kept_holding (facts : List Fact) (last t : Time) (literal : String) :
    (t, literal) ∈ ((readings facts).filter fun reading => (late? last reading).isNone).filterMap
        (fun reading => reading.2.holding?) ↔ Said facts (.holds t literal) ∧ t ≤ last := by
  simp only [List.mem_filterMap, List.mem_filter, Prod.exists, mem_readings, late?_isNone,
    holding?_inverse, Said]
  constructor
  · rintro ⟨fact, _, ⟨⟨member, h⟩, kept⟩, rfl⟩
    exact ⟨⟨fact, member, h⟩, kept t literal rfl⟩
  · rintro ⟨⟨fact, member, h⟩, inside⟩
    refine ⟨fact, _, ⟨⟨member, h⟩, ?_⟩, rfl⟩
    rintro _ _ ⟨⟩
    exact inside

theorem mem_agents_assemble (facts : List Fact) (agent : Agent) :
    agent ∈ (assemble (readings facts)).plan.agents ↔
      Said facts (.agent agent) ∨ agent = .default ∧ ∀ other, ¬ Said facts (.agent other) := by
  have agents : (assemble (readings facts)).plan.agents =
      (roster ((readings facts).map (·.2))).1 := rfl
  rw [agents, mem_roster, mem_filterMap_said agent?_inverse, List.eq_nil_iff_forall_not_mem]
  simp only [mem_filterMap_said agent?_inverse]

theorem singleAgent_assemble (facts : List Fact) :
    (assemble (readings facts)).plan.singleAgent = true ↔
      ∀ agent, ¬ Said facts (.agent agent) := by
  have single : (assemble (readings facts)).plan.singleAgent =
      (roster ((readings facts).map (·.2))).2 := rfl
  rw [single, roster_singleAgent, List.eq_nil_iff_forall_not_mem]
  simp only [mem_filterMap_said agent?_inverse]

theorem timeline_assemble (facts : List Fact) :
    (assemble (readings facts)).plan.timeline =
      timelineOf (assemble (readings facts)).plan.agents
        (.ofList (((readings facts).map (·.2)).filterMap Statement.time?))
        (((readings facts).map (·.2)).filterMap Statement.order?) :=
  rfl

theorem mem_ofList_said {α : Type} [Ord α] [Std.TransOrd α] [Std.LawfulEqOrd α] [DecidableEq α]
    {pick : Statement → Option α} {make : α → Statement}
    (inverse : ∀ said a, pick said = some a ↔ said = make a) (facts : List Fact) (a : α) :
    a ∈ ExtTreeSet.ofList (((readings facts).map (·.2)).filterMap pick) ↔
      Said facts (make a) := by
  rw [ExtTreeSet.mem_ofList, List.contains_iff_mem, mem_filterMap_said inverse]

theorem mem_timeline_assemble (facts : List Fact) (t : Time) :
    t ∈ (assemble (readings facts)).plan.timeline ↔
      Said facts (.time t) ∨ ∃ agent? action, Said facts (.exec t agent? action) := by
  rw [timeline_assemble, mem_timelineOf, mem_ofList_said time?_inverse]
  refine or_congr_right ?_
  simp only [Prod.exists, mem_orders_said]
  constructor
  · rintro ⟨_, _, action, ⟨agent?, said, _⟩, rfl⟩
    exact ⟨agent?, action, said⟩
  · rintro ⟨agent?, action, said⟩
    exact ⟨t, _, action, ⟨agent?, said, rfl⟩, rfl⟩

theorem has_assemble (facts : List Fact) (t : Time) (agent : Agent) (action : Action) :
    (assemble (readings facts)).plan.Has t agent action ↔
      ∃ agent?, Said facts (.exec t agent? action) ∧ agent?.getD .default = agent := by
  change Does (assemble (readings facts)).plan.timeline t agent action ↔ _
  rw [timeline_assemble, does_timelineOf, mem_orders_said]

/-- An agent with an entry and no place on the roster is the default one, since an action for any
other would have been a fault. -/
theorem guest_assemble {facts : List Fact}
    (known : ∀ reading ∈ readings facts,
      stranger? (assemble (readings facts)).plan.agents reading = none)
    {t : Time} {step : Step} (stored : (assemble (readings facts)).plan.timeline[t]? = some step)
    {agent : Agent} (entry : agent ∈ step)
    (guest : agent ∉ (assemble (readings facts)).plan.agents) :
    agent = .default ∧ ∃ action, Said facts (.exec t none action) := by
  have listed : Listed (assemble (readings facts)).plan.timeline t agent := ⟨step, stored, entry⟩
  rw [timeline_assemble] at listed
  rcases listed_timelineOf _ _ _ t agent listed with member | ⟨action, ordered⟩
  · exact absurd member guest
  · obtain ⟨agent?, said, named⟩ := (mem_orders_said facts t agent action).mp ordered
    cases agent? with
    | none => exact ⟨named.symm, action, said⟩
    | some other =>
      have named : other = agent := named
      exact absurd (rostered_of_known known (named ▸ said)) guest

theorem mem_holds_assemble (facts : List Fact) (t : Time) (literal : String) :
    (∃ literals, (assemble (readings facts)).plan.holds[t]? = some literals ∧
        literal ∈ literals) ↔
      Said facts (.holds t literal) ∧ t ≤ (assemble (readings facts)).plan.endTime := by
  have holds : (assemble (readings facts)).plan.holds =
      (((readings facts).filter fun reading =>
        (late? (assemble (readings facts)).plan.endTime reading).isNone).filterMap
          fun reading => reading.2.holding?).foldl record ∅ := rfl
  rw [holds, mem_records, mem_kept_holding]
  simp

theorem mem_recognized_assemble (facts : List Fact) (raw : String) :
    raw ∈ (assemble (readings facts)).recognized ↔ ∃ fact ∈ facts, fact.raw = raw ∧
      ∃ said, fact.Says said ∧ ∀ t literal, said = .holds t literal →
        t ≤ (assemble (readings facts)).plan.endTime := by
  have recognized : (assemble (readings facts)).recognized =
      .ofList (((readings facts).filter fun reading =>
        (late? (assemble (readings facts)).plan.endTime reading).isNone).map
          fun reading => reading.1.raw) := rfl
  rw [recognized, ExtTreeSet.mem_ofList, List.contains_iff_mem]
  simp only [List.mem_map, List.mem_filter, Prod.exists, mem_readings, late?_isNone]
  constructor
  · rintro ⟨fact, said, ⟨⟨member, h⟩, kept⟩, rfl⟩
    exact ⟨fact, member, rfl, said, h, kept⟩
  · rintro ⟨fact, member, rfl, said, h, kept⟩
    exact ⟨fact, said, ⟨⟨member, h⟩, kept⟩, rfl⟩

/-- A plan that can be built is just what the facts say: agents and times wherever they are
declared, each action at its time and for its agent, and what holds up to the end, also where that
end is set by an action that comes later in the list. -/
theorem build_describes (facts : List Fact) (built : Built) (ok : build facts = .ok built) :
    Describes facts built := by
  obtain ⟨known, goals, rfl⟩ := build_eq_ok ok
  have goal : (assemble (readings facts)).plan.goal =
      ((readings facts).map (·.2)).filterMap Statement.goal? := rfl
  have start : (assemble (readings facts)).plan.start =
      ((readings facts).map (·.2)).filterMap Statement.start? := rfl
  constructor
  case agents => exact mem_agents_assemble facts
  case singleAgent => exact singleAgent_assemble facts
  case declaredTimes => exact mem_ofList_said time?_inverse facts
  case times => exact mem_timeline_assemble facts
  case complete =>
    rw [timeline_assemble]
    exact complete_timelineOf _ _ _
  case guests =>
    intro t step stored agent entry guest
    exact guest_assemble known stored entry guest
  case actions => exact has_assemble facts
  case start =>
    rw [start]
    exact literals_said start?_inverse (fun _ _ => Iff.rfl) facts
  case goal =>
    rw [goal]
    exact literals_said goal?_inverse (fun _ _ => Iff.rfl) facts
  case goal_ne_nil => exact goals
  case endTime_empty => exact endTime_of_empty
  case endTime_last =>
    intro last stored latest
    exact endTime_of_last stored latest
  case holdingAt_none => exact holdingAt?_eq_none_iff _
  case holdingAt_some =>
    intro t literals h literal
    have inside : t ≤ (assemble (readings facts)).plan.endTime := by
      have := (holdingAt?_eq_none_iff (assemble (readings facts)).plan t).not.mp (by simp [h])
      exact Std.not_lt.mp this
    rw [mem_holdingAt? h, mem_holds_assemble]
    simp only [inside, and_true]
  case fluents => exact mem_ofList_said fluent?_inverse facts
  case droppedFluents => exact mem_ofList_said droppedFluent?_inverse facts
  case actionSchemas => exact mem_ofList_said actionSchema?_inverse facts
  case recognized => exact mem_recognized_assemble facts

/-- The default agent acts without being on the roster, and what holds after the end is dropped. -/
theorem build_guest : ∃ built,
    build [⟨"holds(3,done)", "holds", "3,done"⟩, ⟨"agent(r1)", "agent", "r1"⟩,
      ⟨"goal(done)", "goal", "done"⟩, ⟨"exec(2,wait)", "exec", "2,wait"⟩,
      ⟨"exec(1,r1,wait)", "exec", "1,r1,wait"⟩, ⟨"holds(9,late)", "holds", "9,late"⟩] = .ok built ∧
    Describes [⟨"holds(3,done)", "holds", "3,done"⟩, ⟨"agent(r1)", "agent", "r1"⟩,
      ⟨"goal(done)", "goal", "done"⟩, ⟨"exec(2,wait)", "exec", "2,wait"⟩,
      ⟨"exec(1,r1,wait)", "exec", "1,r1,wait"⟩, ⟨"holds(9,late)", "holds", "9,late"⟩] built := by
  have possible : (build [⟨"holds(3,done)", "holds", "3,done"⟩, ⟨"agent(r1)", "agent", "r1"⟩,
      ⟨"goal(done)", "goal", "done"⟩, ⟨"exec(2,wait)", "exec", "2,wait"⟩,
      ⟨"exec(1,r1,wait)", "exec", "1,r1,wait"⟩,
      ⟨"holds(9,late)", "holds", "9,late"⟩]).isOk = true := by decide +kernel
  cases ok : build _ with
  | ok built => exact ⟨built, rfl, build_describes _ built ok⟩
  | error fault =>
    rw [ok] at possible
    cases possible

end Plan

end PlanReferee
