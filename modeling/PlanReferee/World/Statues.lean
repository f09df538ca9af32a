import PlanReferee.World

/-! Statues: a single walker goes one place on with every `move` and must stand still while the light
is red. -/

namespace PlanReferee.Statues

open Std (ExtTreeSet)
open Text (IntRange)

inductive Record where
  | red (t : Time)
  | coordinate (x : UInt32)
deriving DecidableEq, Repr

def lexicon : Lexicon Record := [.unaryNumber "isRed" .red, .unaryNumber "x" .coordinate]

structure State where
  redLights : ExtTreeSet Time := ∅
  coordinates : ExtTreeSet UInt32 := ∅
deriving DecidableEq

def State.note (state : State) : Record → State
  | .red t => { state with redLights := state.redLights.insert t }
  | .coordinate x => { state with coordinates := state.coordinates.insert x }

/-- Positions are 64-bit numbers. -/
def positions : IntRange := .signed 64

def place : Entry Int where
  name := "at"
  slots := [.digits]
  record?
    | [x] => positions.read? x.toList
    | _ => none

/-- The position that literals give. The last word on it counts. -/
def position? (literals : List String) : Option Int :=
  (literals.filterMap fun literal => (Fact.read? literal).bind place.read?).getLast?

/-- A plan read as a walk. A time is listed once for each action of its kind. -/
structure Walk where
  start : Option Int
  goal : Option Int
  steps : List Time
  pauses : List Time
  unexpected : ExtTreeSet String
deriving DecidableEq

namespace Walk

def isStep (action : Action) : Bool := action.name == "move"

def isPause (action : Action) : Bool := action.name == "wait" || action.name == "stay"

def actions (plan : Plan) : List (Time × Action) :=
  plan.steps.flatMap fun (t, step) => step.orders.map fun (_, action) => (t, action)

def ofPlan (plan : Plan) : Walk where
  start := position? plan.start
  goal := position? plan.goal
  steps := ((actions plan).filter fun (_, action) => isStep action).map (·.1)
  pauses := ((actions plan).filter fun (_, action) => isPause action).map (·.1)
  unexpected := .ofList (((actions plan).filter fun (_, action) =>
    !isStep action && !isPause action).map fun (_, action) => action.name)

/-- Where the steps lead from the start, unless that is beyond the last position. -/
def reached? (walk : Walk) : Option Int :=
  (walk.start.map fun start => start + (walk.steps.length : Int)).filter fun reached =>
    reached ≤ positions.high

end Walk

inductive Finding where
  | unexpected (names : List String)
  | severalStarts
  | severalGoals
  | notOneAgent
  | noStart
  | noGoal
  | startNotZero
  | startBeyondGoal
  | startIsGoal
  | crowded (t : Time) (actions : List Action)
  | movedOnRed (t : Time)
  | noSteps
  | missed (goal reached : Int)
  | overflow (steps : Nat) (start : Int)
deriving DecidableEq, Repr

def Finding.diagnostic : Finding → Diagnostic
  | unexpected names =>
    .warning ("Got unexpected actions: [" ++ ", ".intercalate names ++ "]")
  | severalStarts => .warning "Multiple starting positions may be defined."
  | severalGoals => .warning "Multiple goal positions may be defined."
  | notOneAgent => .error "Multiple agents defined."
  | noStart => .error "No starting position `at(x)` defined."
  | noGoal => .error "No goal position `at(x)` defined."
  | startNotZero => .warning "Start position does not start at 0!"
  | startBeyondGoal => .warning "Start position is to the right of the goal position."
  | startIsGoal => .error "Start position is the same as the end position."
  | crowded t actions =>
    .error (s!"Multiple actions executed at time {t}: ["
      ++ ", ".intercalate (actions.map Action.text) ++ "]")
  | movedOnRed t => .error s!"At time={t} the light is red, but a `move` was planned."
  | noSteps => .warning "No steps taken. Is there something wrong?"
  | missed goal reached => .error s!"Goal position was {goal}, but got to {reached} instead."
  | overflow steps start => .error s!"Walking {steps} steps from {start} overflows the position."

def setupFindings (plan : Plan) (walk : Walk) : List Finding :=
  (if walk.unexpected.isEmpty then [] else [.unexpected walk.unexpected.toList])
    ++ (if 1 < plan.start.length then [.severalStarts] else [])
    ++ (if 1 < plan.goal.length then [.severalGoals] else [])
    ++ (if plan.agents.size = 1 then [] else [.notOneAgent])

def walkFindings (state : State) (plan : Plan) (walk : Walk) : List Finding :=
  (plan.steps.filterMap fun (t, step) =>
      let actions := step.orders.map (·.2)
      if 1 < actions.length then some (.crowded t actions) else none)
    ++ ((walk.steps.filter fun t => t ∈ state.redLights).map .movedOnRed)
    ++ (if walk.steps.isEmpty then [.noSteps] else [])

def arrivalFindings (walk : Walk) (start goal : Int) : List Finding :=
  match walk.reached? with
  | some reached => if reached = goal then [] else [.missed goal reached]
  | none => [.overflow walk.steps.length start]

/-- A walk that is to end where it starts is not replayed. -/
def check (state : State) (plan : Plan) : List Finding :=
  let walk := Walk.ofPlan plan
  match walk.start, walk.goal with
  | some start, some goal =>
    setupFindings plan walk
      ++ (if start = 0 then [] else [.startNotZero])
      ++ (if goal < start then [.startBeyondGoal] else [])
      ++ (if start = goal then [.startIsGoal]
          else walkFindings state plan walk ++ arrivalFindings walk start goal)
  | start?, goal? =>
    setupFindings plan walk
      ++ (if start?.isNone then [.noStart] else [])
      ++ (if goal?.isNone then [.noGoal] else [])
      ++ walkFindings state plan walk

def verify (state : State) (plan : Plan) : List Diagnostic :=
  (check state plan).map Finding.diagnostic

def world : World where
  name := "statues"
  usesTimeline := true
  State := State
  Record := Record
  fresh := {}
  lexicon := lexicon
  note := State.note
  verify state plan? := (plan?.map (verify state)).getD []
  summary _ plan? := World.planSummary plan?

end PlanReferee.Statues
