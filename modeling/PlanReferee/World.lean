import PlanReferee.Plan.Basic

/-! Worlds: the rules of one kind of puzzle. A world keeps what the facts of its own lexicon say and
checks a plan against it. -/

namespace PlanReferee

structure World where
  name : String
  /-- Unset where a solution is no plan in time, so that none is built and no goal is needed. -/
  usesTimeline : Bool
  State : Type
  Record : Type
  fresh : State
  lexicon : Lexicon Record
  note : State → Record → State
  verify : State → Option Plan → List Diagnostic
  summary : State → Option Plan → String

namespace World

/-- Whether a fact is of a kind that the world's lexicon has. -/
def knows (world : World) (fact : Fact) : Bool := (world.lexicon.read? fact).isSome

def offer (world : World) (state : world.State) (fact : Fact) : world.State :=
  match world.lexicon.read? fact with
  | some record => world.note state record
  | none => state

def offerAll (world : World) (facts : List Fact) : world.State :=
  facts.foldl world.offer world.fresh

/-- Most worlds describe themselves by their plan. -/
def planSummary (plan? : Option Plan) : String := (plan?.map (Plan.summary ", ")).getD ""

end World

end PlanReferee
