import Std.Data.ExtTreeMap
import Std.Data.ExtTreeSet
import PlanReferee.Diagnostic
import PlanReferee.Plan.Action

/-! Plans: who does what at which time, and what is said to hold. Only times with something to store
have a step, so that a plan may reach far without being long. -/

namespace PlanReferee

open Std (ExtTreeMap ExtTreeSet)

abbrev Time := UInt32

/-- The next time. The last one has none and stays. -/
def Time.next (t : Time) : Time := if t.toNat + 1 < UInt32.size then t + 1 else t

abbrev Step := ExtTreeMap Agent (ExtTreeSet Action)

/-- Each scheduled action beside its agent, in the order of agents, then of actions. -/
def Step.orders (step : Step) : List (Agent × Action) :=
  step.toList.flatMap fun (agent, actions) => actions.toList.map fun action => (agent, action)

structure Plan where
  agents : ExtTreeSet Agent
  /-- Set when no agent was declared and the default one stands in. -/
  singleAgent : Bool
  declaredTimes : ExtTreeSet Time
  timeline : ExtTreeMap Time Step
  holds : ExtTreeMap Time (ExtTreeSet String)
  fluents : ExtTreeSet String
  droppedFluents : ExtTreeSet String
  actionSchemas : ExtTreeSet String
  start : List String
  goal : List String
deriving DecidableEq

namespace Plan

def steps (plan : Plan) : List (Time × Step) := plan.timeline.toList

def lastTime? (plan : Plan) : Option Time := plan.timeline.maxKey?

/-- The time after the last step, which sees what the whole plan has brought about. -/
def endTime (plan : Plan) : Time := (plan.lastTime?.map Time.next).getD 0

/-- What is said to hold at a time, up to the end time. -/
def holdingAt? (plan : Plan) (t : Time) : Option (ExtTreeSet String) :=
  if plan.endTime < t then none else some (plan.holds.getD t ∅)

def actionCount (plan : Plan) : Nat :=
  (plan.steps.flatMap fun (_, step) => step.orders).length

/-- Remarks that do not depend on the world the plan is made for. -/
inductive Remark where
  | noTime
  | noAction
deriving DecidableEq, Repr

def Remark.diagnostic : Remark → Diagnostic
  | noTime => .warning "No time defined!"
  | noAction => .warning "Empty plan, no actions executed (`exec` is empty)."

def remarks (plan : Plan) : List Remark :=
  (if plan.declaredTimes.isEmpty then [.noTime] else [])
    ++ (if plan.actionCount = 0 then [.noAction] else [])

/-- The timeline on one line, or with any other separator between its steps. -/
def summary (separator : String) (plan : Plan) : String :=
  "Plan: [" ++ separator.intercalate (plan.steps.map stepText) ++ "]"
where
  listText (items : List String) : String := "\x7b" ++ ", ".intercalate items ++ "\x7d"
  agentText : Agent × ExtTreeSet Action → String
    | (agent, actions) => agent.name ++ ": " ++ listText (actions.toList.map Action.text)
  stepText : Time × Step → String
    | (t, step) => toString t ++ ": " ++ listText (step.toList.map agentText)

end Plan

end PlanReferee
