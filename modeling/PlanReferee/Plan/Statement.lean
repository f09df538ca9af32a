import PlanReferee.Plan.Basic

/-! The statements that a solution makes about its plan, whatever the world. -/

namespace PlanReferee

open Text

inductive Statement where
  | agent (agent : Agent)
  | time (t : Time)
  | fluent (literal : String)
  | droppedFluent (literal : String)
  | actionSchema (schema : String)
  /-- A condition or an effect of an action schema, which is not interpreted. -/
  | condition
  | start (literal : String)
  | goal (literal : String)
  /-- Schedules an action, for the default agent if none is named. -/
  | exec (t : Time) (agent? : Option Agent) (action : Action)
  | holds (t : Time) (literal : String)
deriving DecidableEq, Repr

namespace Statement

/-- Reads a fact whose first argument is a time and whose second is any text. -/
def timed (name : String) (record : Time → String → Statement) : Entry Statement where
  name
  slots := [.digits, .any]
  record?
    | [t, value] => (readUInt32? t.toList).map fun t => record t value
    | _ => none

/-- An `exec` of three arguments stands before the one of two, because an action may itself hold
commas. -/
def lexicon : Lexicon Statement :=
  [.unary "agent" fun name => .agent ⟨name⟩,
   .unaryNumber "time" .time,
   .unary "fluent" .fluent,
   .unary "fluent_dropped" .droppedFluent,
   .unary "action" .actionSchema,
   .unary "action_ppre" fun _ => .condition,
   .unary "action_npre" fun _ => .condition,
   .unary "action_add" fun _ => .condition,
   .unary "action_del" fun _ => .condition,
   .unary "start" .start,
   .unary "goal" .goal,
   { name := "exec"
     slots := [.digits, .word, .any]
     record?
       | [t, name, action] =>
         (readUInt32? t.toList).map fun t => .exec t (some ⟨name⟩) (Action.read action)
       | _ => none },
   timed "exec" fun t action => .exec t none (Action.read action),
   timed "holds" .holds]

end Statement

end PlanReferee
