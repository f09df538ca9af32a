import PlanReferee.World

/-! Coffee: robots carry drinks from kitchens to offices through doors. Rooms, doors, drinks and which
rooms adjoin are known; of a plan only what holds for all plans is checked. -/

namespace PlanReferee.Coffee

open Std (ExtTreeMap ExtTreeSet)

inductive RoomKind where
  | plain
  | office
  | kitchen
deriving DecidableEq, Repr

structure Room where
  name : String
  kind : RoomKind := .plain
  drinks : ExtTreeSet String := ∅
deriving DecidableEq

structure Door where
  name : String
  /-- The two rooms that the door joins, when they are known. -/
  joins : Option (String × String) := none
  isOpen : Bool := false
deriving DecidableEq, Repr

inductive Record where
  | door (name : String)
  | room (name : String) (kind : RoomKind)
  | drink (name : String)
  | connected (source target door : String)
deriving DecidableEq, Repr

def lexicon : Lexicon Record :=
  [.unary "door" .door,
   .unary "room" fun name => .room name .plain,
   .unary "office" fun name => .room name .office,
   .unary "kitchen" fun name => .room name .kitchen,
   .unary "drink" .drink,
   { name := "connected"
     slots := [.any, .any, .any]
     record?
       | [a, b, through] => some (.connected a b through)
       | _ => none }]

structure State where
  rooms : ExtTreeMap String Room := ∅
  doors : ExtTreeMap String Door := ∅
  drinks : ExtTreeSet String := ∅
  adjacency : ExtTreeMap String (ExtTreeSet String) := ∅

def adjoin (adjacency : ExtTreeMap String (ExtTreeSet String)) (room next : String) :
    ExtTreeMap String (ExtTreeSet String) :=
  adjacency.alter room fun known? => some ((known?.getD ∅).insert next)

/-- A room keeps being an office or a kitchen when it is called a plain room, and a door keeps the
rooms it joins when it is only named. -/
def State.note (state : State) : Record → State
  | .door name => { state with doors := state.doors.insertIfNew name { name } }
  | .room name .plain => { state with rooms := state.rooms.insertIfNew name { name } }
  | .room name kind =>
    { state with
      rooms := state.rooms.alter name fun known? => some { known?.getD { name } with kind } }
  | .drink name => { state with drinks := state.drinks.insert name }
  | .connected a b door =>
    { state with
      doors := state.doors.alter door fun known? =>
        some { known?.getD { name := door } with joins := some (a, b) }
      adjacency := adjoin (adjoin state.adjacency a b) b a }

def State.nextTo (state : State) (room : String) : List String :=
  ((state.adjacency[room]?.map fun known => known.toList).getD [])

def verify (plan : Plan) : List Diagnostic := plan.remarks.map Plan.Remark.diagnostic

def world : World where
  name := "coffee"
  usesTimeline := true
  State := State
  Record := Record
  fresh := {}
  lexicon := lexicon
  note := State.note
  verify _ plan? := (plan?.map verify).getD []
  summary _ plan? := World.planSummary plan?

end PlanReferee.Coffee
