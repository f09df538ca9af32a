import PlanReferee.Proofs.Blocks.Conflicts
import PlanReferee.Proofs.Blocks.Independence
import PlanReferee.Proofs.Blocks.Placement
import PlanReferee.Proofs.Coffee.Doors
import PlanReferee.Proofs.Faults
import PlanReferee.Proofs.FirstFit
import PlanReferee.Proofs.Json.Forms
import PlanReferee.Proofs.Lossless
import PlanReferee.Proofs.Packages.Audit
import PlanReferee.Proofs.Packages.Monotone
import PlanReferee.Proofs.Packages.Satisfaction
import PlanReferee.Proofs.Packages.Window
import PlanReferee.Proofs.Padding
import PlanReferee.Proofs.Permits
import PlanReferee.Proofs.Plan.Routing
import PlanReferee.Proofs.Session
import PlanReferee.Proofs.Solver.Answers
import PlanReferee.Proofs.Solver.Header
import PlanReferee.Proofs.SparseTime
import PlanReferee.Proofs.Statues.Tally
import PlanReferee.Proofs.Statues.Walker
import PlanReferee.Proofs.Trial
