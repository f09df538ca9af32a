import PlanReferee.Json.Record
import PlanReferee.Referee

/-! The JSON forms of the library's types. -/

namespace PlanReferee

open Json (Codec KeyCodec Fields)

def Severity.codec : Codec Severity := .choice [.info, .warning, .error] Severity.label

def Puzzle.codec : Codec Puzzle := .choice Puzzle.all Puzzle.name

def SolverStatus.all : List SolverStatus :=
  [.satisfiable, .unsatisfiable, .ok, .unknown, .timeout, .syntaxError]

def SolverStatus.name : SolverStatus → String
  | satisfiable => "Satisfiable"
  | unsatisfiable => "Unsatisfiable"
  | ok => "Ok"
  | unknown => "Unknown"
  | timeout => "Timeout"
  | syntaxError => "SyntaxError"

def SolverStatus.codec : Codec SolverStatus := .choice SolverStatus.all SolverStatus.name

def TrialKind.name : TrialKind → String
  | positive => "Positive"
  | negative => "Negative"

def TrialKind.codec : Codec TrialKind := .choice [.positive, .negative] TrialKind.name

def Agent.codec : Codec Agent := Codec.text.along Agent.mk Agent.name

def Agent.keyCodec : KeyCodec Agent := KeyCodec.text.along Agent.mk Agent.name

def Action.codec : Codec Action :=
  .record (.required "name" .text <| .required "args" .text .done)
    (fun action => (action.name, action.args, ()))
    (fun (name, args, ()) => { name, args })

def Fact.codec : Codec Fact :=
  .record (.required "raw" .text <| .required "name" .text <| .required "args" .text .done)
    (fun fact => (fact.raw, fact.name, fact.args, ()))
    (fun (raw, name, args, ()) => { raw, name, args })

def Diagnostic.codec : Codec Diagnostic :=
  .record (.required "severity" Severity.codec <| .required "message" .text .done)
    (fun d => (d.severity, d.message, ()))
    (fun (severity, message, ()) => { severity, message })

def Verdict.codec : Codec Verdict :=
  .record
    (.required "valid" .bool <|
      .required "logs" (.list Diagnostic.codec) <|
      .required "recognized" (.set .text) .done)
    (fun v => (v.valid, v.logs, v.recognized, ()))
    (fun (valid, logs, recognized, ()) => { valid, logs, recognized })

def Report.codec : Codec Report :=
  .record
    (.required "instance_summary" .text <|
      .required "valid" .bool <|
      .required "logs" (.list Diagnostic.codec) .done)
    (fun r => (r.summary, r.valid, r.logs, ()))
    (fun (summary, valid, logs, ()) => { summary, valid, logs })

def Step.codec : Codec Step := .map Agent.keyCodec (.set Action.codec)

def Plan.codec : Codec Plan :=
  .record
    (.required "agents" (.set Agent.codec) <|
      .required "single_agent" .bool <|
      .required "declared_times" (.set .uint32) <|
      .required "timeline" (.map .uint32 Step.codec) <|
      .required "holds" (.map .uint32 (.set .text)) <|
      .required "fluents" (.set .text) <|
      .required "dropped_fluents" (.set .text) <|
      .required "action_schemas" (.set .text) <|
      .required "start" (.list .text) <|
      .required "goal" (.list .text) .done)
    (fun p => (p.agents, p.singleAgent, p.declaredTimes, p.timeline, p.holds, p.fluents,
      p.droppedFluents, p.actionSchemas, p.start, p.goal, ()))
    (fun (agents, singleAgent, declaredTimes, timeline, holds, fluents, droppedFluents,
      actionSchemas, start, goal, ()) =>
      { agents, singleAgent, declaredTimes, timeline, holds, fluents, droppedFluents,
        actionSchemas, start, goal })

def Request.codec : Codec Request :=
  .record
    (.required "instance" .text <|
      .required "test" .text <|
      .required "models" .uint32 <|
      .required "constants" (.map .text .text) <|
      .required "single_agent" .bool .done)
    (fun r => (r.problem, r.test, r.models, r.constants, r.singleAgent, ()))
    (fun (problem, test, models, constants, singleAgent, ()) =>
      { problem, test, models, constants, singleAgent })

def Outcome.codec : Codec Outcome :=
  .record
    (.required "status" SolverStatus.codec <|
      .required "solutions" (.list (.list .text)) .done)
    (fun o => (o.status, o.solutions, ()))
    (fun (status, solutions, ()) => { status, solutions })

namespace Settings

/-- The members of the settings, each of which may be missing. -/
def fields :
    Fields (Option UInt64 × Option UInt32 × Option UInt64 × Option Bool × Option Bool × Unit) :=
  .optional "timeout_ms" .uint64 <|
    .optional "default_models" .uint32 <|
    .optional "max_workers" .uint64 <|
    .optional "single_agent" .bool <|
    .optional "require_solutions" .bool .done

def values (s : Settings) :
    Option UInt64 × Option UInt32 × Option UInt64 × Option Bool × Option Bool × Unit :=
  (s.timeoutMs, s.defaultModels, s.maxWorkers, s.singleAgent, s.requireSolutions, ())

def codec : Codec Settings :=
  .record fields values
    (fun (timeoutMs, defaultModels, maxWorkers, singleAgent, requireSolutions, ()) =>
      { timeoutMs, defaultModels, maxWorkers, singleAgent, requireSolutions })

end Settings

end PlanReferee
