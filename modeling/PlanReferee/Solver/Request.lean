import PlanReferee.Settings
import PlanReferee.Solver.Header

/-! What a solver is asked for. -/

namespace PlanReferee

open Std (ExtTreeMap)

structure Request where
  problem : String
  test : String
  models : UInt32
  constants : ExtTreeMap String String
  singleAgent : Bool
deriving DecidableEq

namespace Request

/-- The request for one test on one problem. The test's header goes before the settings. -/
def ofTest (problem test source : String) (settings : Settings) : Logged Request :=
  let header := Header.read source
  ⟨{ problem
     test
     models := header.value.models.getD settings.models
     constants := header.value.constants
     singleAgent := settings.hasSingleAgent },
   header.events⟩

end Request

end PlanReferee
