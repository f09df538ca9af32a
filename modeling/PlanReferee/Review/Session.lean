import PlanReferee.Review.Report

/-! Sessions: questions to one review. The verdict is reached when it is first needed, and kept. -/

namespace PlanReferee

open Std (ExtTreeSet)

inductive Query where
  | sketch
  | listing
  | isValid
  | verdict
  | coloured
  | summary
  | facts
  | recognized
  | plan
  | worldName
  | report (requireFacts : Bool)
deriving DecidableEq, Repr

inductive Answer where
  | text (text : String)
  | flag (flag : Bool)
  | verdict (verdict : Verdict)
  | lines (lines : List String)
  | facts (facts : List Fact)
  | recognized (raws : ExtTreeSet String)
  | plan (plan? : Option Plan)
  | report (report : Report)
deriving DecidableEq

structure Session (world : World) where
  review : Review world
  /-- The verdict, once it is reached. -/
  kept? : Option Verdict
  events : List Event

namespace Session

variable {world : World}

def start (review : Review world) : Session world := ⟨review, none, review.openingEvents⟩

/-- The verdict, kept from an earlier question or reached now. -/
def verdict (session : Session world) : Verdict × Session world :=
  match session.kept? with
  | some verdict => (verdict, session)
  | none =>
    let verdict := session.review.verdict
    (verdict, { session with
      kept? := some verdict
      events := session.events ++ session.review.verdictEvents })

def judged (session : Session world) (answer : Verdict → Answer) : Answer × Session world :=
  let (verdict, next) := session.verdict
  (answer verdict, next)

def ask (session : Session world) : Query → Answer × Session world
  | .sketch => (.text (session.review.sketch session.kept?.isSome), session)
  | .listing => session.judged fun verdict => .text (session.review.listing verdict)
  | .isValid => session.judged fun verdict => .flag verdict.valid
  | .verdict => session.judged .verdict
  | .coloured => session.judged fun verdict => .lines (verdict.logs.map Diagnostic.coloured)
  | .summary => (.text session.review.summary, session)
  | .facts => (.facts session.review.facts, session)
  | .recognized => (.recognized session.review.recognized, session)
  | .plan => (.plan session.review.plan?, session)
  | .worldName => (.text world.name, session)
  | .report requireFacts => session.judged fun verdict =>
    .report (.ofReview session.review verdict requireFacts)

def askAll (session : Session world) : List Query → List Answer × Session world
  | [] => ([], session)
  | query :: queries =>
    let (answer, next) := session.ask query
    let (answers, last) := next.askAll queries
    (answer :: answers, last)

end Session

end PlanReferee
