import PlanReferee.World.Blocks
import PlanReferee.World.Coffee
import PlanReferee.World.Packages
import PlanReferee.World.Statues

/-! The puzzles and their worlds. -/

namespace PlanReferee

inductive Puzzle where
  | blocks
  | dependencyHell
  | statues
  | coffee
deriving DecidableEq, Repr

namespace Puzzle

def all : List Puzzle := [blocks, dependencyHell, statues, coffee]

def world : Puzzle → World
  | blocks => Blocks.world
  | dependencyHell => Packages.world
  | statues => Statues.world
  | coffee => Coffee.world

/-- The name by which a puzzle is asked for, which is its world's. -/
def name (puzzle : Puzzle) : String := puzzle.world.name

def ofName? (name : String) : Option Puzzle := all.find? fun puzzle => puzzle.name == name

def label : Puzzle → String
  | blocks => "Blocks"
  | dependencyHell => "DependencyHell"
  | statues => "Statues"
  | coffee => "Coffee"

end Puzzle

end PlanReferee
