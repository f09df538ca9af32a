import PlanReferee.World

/-! Blocks: arms move blocks between stacks and the table. A step is checked against the stacking
with which it begins, and then all of its moves are made, safe or not, so that one pass finds every
fault of a plan. -/

namespace PlanReferee.Blocks

open Std (ExtTreeMap ExtTreeSet)

/-- Has room for any number of blocks. -/
def table : String := "table"

/-- What each block rests on. -/
abbrev Stacking := ExtTreeMap String String

inductive Record where
  | arm (name : String)
  | block (name : String)
deriving DecidableEq, Repr

def lexicon : Lexicon Record := [.unary "arm" .arm, .unary "block" .block]

structure State where
  arms : ExtTreeSet String := ∅
  blocks : ExtTreeSet String := ∅
deriving DecidableEq

def State.note (state : State) : Record → State
  | .arm name => { state with arms := state.arms.insert name }
  | .block name => { state with blocks := state.blocks.insert name }

structure Move where
  source : String
  target : String
deriving DecidableEq, Repr

inductive Deed where
  | move (move : Move)
  /-- A `move` with more to it than a source and a target. -/
  | extended
  | other
deriving DecidableEq, Repr

def Deed.ofAction (action : Action) : Deed :=
  if action.name = "move" then
    match action.arguments with
    | [source, target] => .move ⟨source, target⟩
    | _ :: _ :: _ :: _ => .extended
    | _ => .other
  else .other

def Deed.move? : Deed → Option Move
  | move m => some m
  | _ => none

def moves (step : Step) : List Move :=
  step.orders.filterMap fun (_, action) => (Deed.ofAction action).move?

/-- The first block that rests on a support. Nothing is ever in the way on the table. -/
def over? (on : Stacking) (support : String) : Option String :=
  if support = table then none else (on.toList.find? fun pair => pair.2 == support).map (·.1)

inductive Finding where
  | plan (remark : Plan.Remark)
  | busy (t : Time) (arm : Agent) (actions : List Action)
  | extended (t : Time) (arm : Agent) (action : Action)
  | foreign (action : Action)
  /-- A block stands in the way of a move, on its source or on its target. -/
  | blocked (t : Time) (arm : Agent) (move : Move) (blocking place : String)
  | conflicts (t : Time)
  /-- A move goes where an earlier one of the step, with the source given, goes already. -/
  | conflict (t : Time) (move : Move) (first : String)
deriving DecidableEq, Repr

def Finding.diagnostic : Finding → Diagnostic
  | plan remark => remark.diagnostic
  | busy t arm actions =>
    .warning (s!"Arm '{arm.name}' is executing multiple actions at t={t}: ["
      ++ ", ".intercalate (actions.map Action.text) ++ "]")
  | extended t arm action =>
    .info (s!"Arm '{arm.name}' is executing {action.text} at t={t}, "
      ++ "but only move/2 can be verified.")
  | foreign action =>
    .warning s!"`move/2` should be the only action. Can't parse '{action.text}'"
  | blocked t arm move blocking place =>
    .error (s!"Arm '{arm.name}' is executing move({move.source}, {move.target}), "
      ++ s!"but at t={t} {blocking} is blocking {place}.")
  | conflicts t => .error s!"There are conflicts at t={t}."
  | conflict t move first =>
    .error (s!"Executing conflicting actions move({move.source}, {move.target}) "
      ++ s!"and move({first}, {move.target}) at t={t}.")

def orderFindings (t : Time) (on : Stacking) (arm : Agent) (action : Action) : List Finding :=
  match Deed.ofAction action with
  | .move m =>
    [m.source, m.target].filterMap fun place =>
      (over? on place).map fun blocking => .blocked t arm m blocking place
  | .extended => [.extended t arm action]
  | .other => [.foreign action]

def armFindings (t : Time) (on : Stacking) (arm : Agent) (actions : List Action) : List Finding :=
  (if 1 < actions.length then [.busy t arm actions] else [])
    ++ actions.flatMap (orderFindings t on arm)

/-- The moves whose target has a claimant by then. The first move to a target becomes its claimant,
by its source. -/
def conflictsAmong (t : Time) (claimants : ExtTreeMap String String) : List Move → List Finding
  | [] => []
  | m :: more =>
    match claimants[m.target]? with
    | some first => .conflict t m first :: conflictsAmong t claimants more
    | none => conflictsAmong t (claimants.insert m.target m.source) more

def conflictFindings (t : Time) (ms : List Move) : List Finding :=
  match conflictsAmong t ∅ ms with
  | [] => []
  | found => .conflicts t :: found

def stepFindings (t : Time) (on : Stacking) (step : Step) : List Finding :=
  (step.toList.flatMap fun (arm, actions) => armFindings t on arm actions.toList)
    ++ conflictFindings t (moves step)

/-- Makes moves in turn, without asking whether they are safe. -/
def apply (on : Stacking) (ms : List Move) : Stacking :=
  ms.foldl (fun on m => on.insert m.source m.target) on

/-- How the stacking ends, and what was found on the way. -/
structure Replay where
  on : Stacking
  findings : List Finding
deriving DecidableEq

def replaySteps (on : Stacking) : List (Time × Step) → Replay
  | [] => ⟨on, []⟩
  | (t, step) :: more =>
    let rest := replaySteps (apply on (moves step)) more
    ⟨rest.on, stepFindings t on step ++ rest.findings⟩

def restsOn : Entry (String × String) where
  name := "on"
  slots := [.word, .word]
  record?
    | [block, support] => some (block, support)
    | _ => none

/-- The stacking that the start literals describe. The last word on a block counts, and literals of
another form do not. -/
def initial (plan : Plan) : Stacking :=
  .ofList (plan.start.filterMap fun literal => (Fact.read? literal).bind restsOn.read?)

def replay (plan : Plan) : Replay :=
  let run := replaySteps (initial plan) plan.steps
  ⟨run.on, plan.remarks.map .plan ++ run.findings⟩

/-- The stacking when all steps up to a time are made. -/
def stackingAt (plan : Plan) (t : Time) : Stacking :=
  (replaySteps (initial plan) (plan.steps.filter fun (s, _) => s ≤ t)).on

def verify (plan : Plan) : List Diagnostic := (replay plan).findings.map Finding.diagnostic

def world : World where
  name := "blocks"
  usesTimeline := true
  State := State
  Record := Record
  fresh := {}
  lexicon := lexicon
  note := State.note
  verify _ plan? := (plan?.map verify).getD []
  summary _ plan? := World.planSummary plan?

end PlanReferee.Blocks
