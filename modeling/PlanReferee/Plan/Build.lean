import PlanReferee.Plan.Statement

/-! Building a plan from facts. Agents and times count wherever they are declared; what holds is kept
only up to the time after the last step, which is known when all actions have their places. -/

namespace PlanReferee

open Std (ExtTreeMap ExtTreeSet)

abbrev Reading := Fact × Statement

def readings (facts : List Fact) : List Reading :=
  facts.filterMap fun fact => (Statement.lexicon.read? fact).map fun said => (fact, said)

namespace Statement

def agent? : Statement → Option Agent
  | agent a => some a
  | _ => none

def time? : Statement → Option Time
  | time t => some t
  | _ => none

def fluent? : Statement → Option String
  | fluent literal => some literal
  | _ => none

def droppedFluent? : Statement → Option String
  | droppedFluent literal => some literal
  | _ => none

def actionSchema? : Statement → Option String
  | actionSchema schema => some schema
  | _ => none

def start? : Statement → Option String
  | start literal => some literal
  | _ => none

def goal? : Statement → Option String
  | goal literal => some literal
  | _ => none

/-- The time, the agent and the action that an `exec` schedules. -/
def order? : Statement → Option (Time × Agent × Action)
  | exec t agent? action => some (t, agent?.getD Agent.default, action)
  | _ => none

def holding? : Statement → Option (Time × String)
  | holds t literal => some (t, literal)
  | _ => none

end Statement

namespace Plan

/-- The facts' agents, and whether the default one had to stand in. -/
def roster (said : List Statement) : ExtTreeSet Agent × Bool :=
  match said.filterMap Statement.agent? with
  | [] => (ExtTreeSet.ofList [Agent.default], true)
  | agents => (ExtTreeSet.ofList agents, false)

/-- The fault of an action scheduled for an agent that is not on the roster. -/
def stranger? (agents : ExtTreeSet Agent) : Reading → Option Fault
  | (fact, .exec _ (some agent) _) =>
    if agent ∈ agents then none else some (.unknownAgent agent.name fact.raw)
  | _ => none

def idleStep (agents : ExtTreeSet Agent) : Step :=
  agents.toList.foldl (fun step agent => step.insert agent ∅) ∅

/-- Adds an action to the step of its time, which is made if it is missing. -/
def schedule (agents : ExtTreeSet Agent) (timeline : ExtTreeMap Time Step) :
    Time × Agent × Action → ExtTreeMap Time Step
  | (t, agent, action) =>
    timeline.alter t fun step? =>
      some ((step?.getD (idleStep agents)).alter agent fun actions? =>
        some ((actions?.getD ∅).insert action))

/-- Every declared time has a step, and so has every time with an action. -/
def timelineOf (agents : ExtTreeSet Agent) (times : ExtTreeSet Time)
    (orders : List (Time × Agent × Action)) : ExtTreeMap Time Step :=
  orders.foldl (schedule agents)
    (times.toList.foldl (fun timeline t => timeline.insert t (idleStep agents)) ∅)

def record (holds : ExtTreeMap Time (ExtTreeSet String)) :
    Time × String → ExtTreeMap Time (ExtTreeSet String)
  | (t, literal) => holds.alter t fun literals? => some ((literals?.getD ∅).insert literal)

/-- The plan that statements describe, with nothing noted as holding. -/
def outline (said : List Statement) : Plan :=
  let (agents, singleAgent) := roster said
  let times := ExtTreeSet.ofList (said.filterMap Statement.time?)
  { agents
    singleAgent
    declaredTimes := times
    timeline := timelineOf agents times (said.filterMap Statement.order?)
    holds := ∅
    fluents := .ofList (said.filterMap Statement.fluent?)
    droppedFluents := .ofList (said.filterMap Statement.droppedFluent?)
    actionSchemas := .ofList (said.filterMap Statement.actionSchema?)
    start := said.filterMap Statement.start?
    goal := said.filterMap Statement.goal? }

end Plan

/-- A `holds` beyond the end time. -/
structure LateHolds where
  time : Time
  last : Time
  raw : String
deriving DecidableEq, Repr

/-- A plan, the raw facts that went into it, and those that came too late for it. -/
structure Built where
  plan : Plan
  recognized : ExtTreeSet String
  late : List LateHolds
deriving DecidableEq

namespace Plan

/-- The `holds` of a reading that lies beyond a time. -/
def late? (last : Time) : Reading → Option LateHolds
  | (fact, .holds t _) => if last < t then some ⟨t, last, fact.raw⟩ else none
  | _ => none

/-- Completes an outline with what holds up to its end time. -/
def assemble (read : List Reading) : Built :=
  let plan := outline (read.map (·.2))
  let last := plan.endTime
  let kept := read.filter fun reading => (late? last reading).isNone
  { plan := { plan with holds := (kept.filterMap fun (_, said) => said.holding?).foldl record ∅ }
    recognized := .ofList (kept.map fun (fact, _) => fact.raw)
    late := read.filterMap (late? last) }

/-- The first action for an undeclared agent is a fault; after that, so is the lack of a goal. -/
def build (facts : List Fact) : Except Fault Built :=
  let read := readings facts
  let said := read.map (·.2)
  match read.findSome? (stranger? (roster said).1) with
  | some fault => .error fault
  | none => if (said.filterMap Statement.goal?).isEmpty then .error .noGoal else .ok (assemble read)

end Plan

end PlanReferee
