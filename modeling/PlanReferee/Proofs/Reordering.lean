import PlanReferee.Proofs.Packages.Records
import PlanReferee.Proofs.Plan.Reordering

/-! What a solution comes to does not depend on the order of its facts, nor on how often a fact is
given, as long as start and goal literals keep their order where the world has a timeline. -/

namespace PlanReferee

open Std (ExtTreeSet)

/-! What worlds make of facts in another order. -/

/-- Facts may be offered in any order and repeatedly, without a change in what the world finds and
shows. -/
def World.Unordered (world : World) : Prop :=
  ∀ facts other : List Fact, (∀ fact, fact ∈ facts ↔ fact ∈ other) → ∀ plan?,
    world.verify (world.offerAll facts) plan? = world.verify (world.offerAll other) plan? ∧
      world.summary (world.offerAll facts) plan? = world.summary (world.offerAll other) plan?

namespace Statues

def State.Knows (state : State) : Record → Prop
  | .red t => t ∈ state.redLights
  | .coordinate x => x ∈ state.coordinates

theorem knows_note (state : State) (record other : Record) :
    (state.note record).Knows other ↔ record = other ∨ state.Knows other := by
  cases record <;> cases other <;> simp [State.note, State.Knows, ExtTreeSet.mem_insert]

theorem State.ext_knows {state other : State}
    (knows : ∀ record, state.Knows record ↔ other.Knows record) : state = other := by
  have redLights : state.redLights = other.redLights :=
    ExtTreeSet.ext_mem fun t => knows (.red t)
  have coordinates : state.coordinates = other.coordinates :=
    ExtTreeSet.ext_mem fun x => knows (.coordinate x)
  cases state
  cases other
  simp_all

theorem unordered : world.Unordered := by
  intro facts other same plan?
  have fresh : ∀ record, ¬ State.Knows {} record := by
    intro record
    cases record <;> exact ExtTreeSet.not_mem_empty
  have knows := @World.knows_congr world State.Knows fresh knows_note facts other same
  have state : world.offerAll facts = world.offerAll other := State.ext_knows knows
  rw [state]
  exact ⟨rfl, rfl⟩

end Statues

namespace Packages

/-- Which libraries and programs there are in all is not asked, so that it does not matter here. -/
theorem State.same_of_knows {state other : State}
    (knows : ∀ record, state.Knows record ↔ other.Knows record) :
    state.verify = other.verify ∧ state.summary = other.summary := by
  have installed : state.installed = other.installed :=
    ExtTreeSet.ext_mem fun library => knows (.installed library)
  have bounds : state.bounds = other.bounds :=
    ExtTreeSet.ext_mem fun bound => knows (.bound bound)
  have wanted : state.wanted = other.wanted :=
    ExtTreeSet.ext_mem fun program => knows (.wants program)
  have shouldDelete : state.shouldDelete = other.shouldDelete :=
    ExtTreeSet.ext_mem fun library => knows (.shouldDelete library)
  have shouldInstall : state.shouldInstall = other.shouldInstall :=
    ExtTreeSet.ext_mem fun library => knows (.shouldInstall library)
  clear knows
  cases state
  cases other
  dsimp only at *
  subst installed bounds wanted shouldDelete shouldInstall
  exact ⟨rfl, rfl⟩

theorem unordered : world.Unordered := by
  intro facts other same plan?
  refine State.same_of_knows fun record => ?_
  simp only [knows_facts, same]

end Packages

theorem Puzzle.unordered (puzzle : Puzzle) : puzzle.world.Unordered := by
  cases puzzle with
  | dependencyHell => exact Packages.unordered
  | statues => exact Statues.unordered
  -- Blocks and coffee rooms are noted, but neither checked nor shown.
  | blocks => exact fun _ _ _ _ => ⟨rfl, rfl⟩
  | coffee => exact fun _ _ _ _ => ⟨rfl, rfl⟩

/-! Reviews. -/

namespace Review

variable {world : World}

/-- Two reviews come to one verdict and show one summary. -/
def Agree (review other : Review world) : Prop :=
  review.verdict = other.verdict ∧ review.summary = other.summary

theorem mem_inserts (facts : List Fact) (known : ExtTreeSet String) (raw : String) :
    raw ∈ facts.foldl (fun known fact => known.insert fact.raw) known ↔
      raw ∈ known ∨ ∃ fact ∈ facts, fact.raw = raw := by
  induction facts generalizing known with
  | nil => simp
  | cons fact facts ih =>
    rw [List.foldl_cons, ih, ExtTreeSet.mem_insert, Std.compare_eq_iff_eq]
    simp only [List.mem_cons, exists_eq_or_imp, or_assoc, or_left_comm]

theorem assemble_agree (unordered : world.Unordered) {facts other : List Fact}
    (same : ∀ fact, fact ∈ facts ↔ fact ∈ other) {built? built'? : Option Built}
    (plan : built?.map (·.plan) = built'?.map (·.plan)) (took : consumed built? = consumed built'?) :
    Agree (assemble world facts built?) (assemble world other built'?) := by
  have offers : ∀ fact, fact ∈ offered built? facts ↔ fact ∈ offered built'? other := by
    intro fact
    simp only [offered, List.mem_filter, took, same]
  have recognized : (assemble world facts built?).recognized =
      (assemble world other built'?).recognized := by
    ext raw
    simp only [assemble, mem_inserts, List.mem_filter, offers, took]
  have ignored : (assemble world facts built?).ignored =
      (assemble world other built'?).ignored := by
    refine ofList_congr fun name => ?_
    simp only [recognized, List.mem_map, List.mem_filter]
    simp only [assemble, same]
  have findings : (assemble world facts built?).findings =
      (assemble world other built'?).findings := by
    rw [findings, findings, plan?, plan?]
    simp only [assemble, plan]
    exact (unordered _ _ offers _).1
  have summary : (assemble world facts built?).summary =
      (assemble world other built'?).summary := by
    rw [summary, summary, plan?, plan?]
    simp only [assemble, plan]
    exact (unordered _ _ offers _).2
  refine ⟨?_, summary⟩
  rw [verdict, verdict, findings, ignored, recognized]

theorem buildFor_alike {facts other : List Fact}
    (same : world.usesTimeline = true → SameFacts facts other) :
    Alike (fun built? built'? => built?.map (·.plan) = built'?.map (·.plan) ∧
      consumed built? = consumed built'?) (buildFor world facts) (buildFor world other) := by
  unfold buildFor
  split
  case isTrue timed =>
    refine (Plan.build_alike (same timed)).map ?_
    rintro built built' ⟨plan, recognized⟩
    exact ⟨congrArg some plan, recognized⟩
  case isFalse => exact .ok ⟨rfl, rfl⟩

end Review

/-! Solutions. -/

/-- The texts of a solution that are facts of a name, in their order. -/
def factsNamed (name : String) (solution : List String) : List String :=
  solution.filter fun raw => (Fact.read? raw).any fun fact => fact.name = name

/-- The facts of two solutions are the same, and so is the order of start and goal literals where
there is a timeline. -/
structure SameSolution (puzzle : Puzzle) (solution other : List String) : Prop where
  members : ∀ raw, raw ∈ solution ↔ raw ∈ other
  start : puzzle ≠ .dependencyHell → factsNamed "start" solution = factsNamed "start" other
  goal : puzzle ≠ .dependencyHell → factsNamed "goal" solution = factsNamed "goal" other

theorem filter_readable (name : String) (solution : List String) :
    ((solution.filterMap Fact.read?).filter fun fact => fact.name = name) =
      (factsNamed name solution).filterMap Fact.read? := by
  rw [factsNamed, List.filter_filterMap, List.filterMap_filter]
  refine List.filterMap_congr fun raw _ => ?_
  cases Fact.read? raw with
  | none => rfl
  | some fact => by_cases h : fact.name = name <;> simp [h]

theorem mem_readable {solution other : List String}
    (members : ∀ raw, raw ∈ solution ↔ raw ∈ other) (fact : Fact) :
    fact ∈ solution.filterMap Fact.read? ↔ fact ∈ other.filterMap Fact.read? := by
  simp only [List.mem_filterMap, members]

namespace SameSolution

variable {puzzle : Puzzle} {solution other : List String}

theorem sameFacts (same : SameSolution puzzle solution other)
    (timed : puzzle.world.usesTimeline = true) :
    SameFacts (solution.filterMap Fact.read?) (other.filterMap Fact.read?) := by
  have timeline : puzzle ≠ .dependencyHell := by
    rintro rfl
    cases timed
  constructor
  case members => exact mem_readable same.members
  case start => rw [filter_readable, filter_readable, same.start timeline]
  case goal => rw [filter_readable, filter_readable, same.goal timeline]

end SameSolution

/-- Solutions of the same facts come to one verdict, with one log and one set of recognized facts,
and show one summary; or neither can be judged, for one kind of fault. -/
theorem review_alike (puzzle : Puzzle) (solution other : List String)
    (same : SameSolution puzzle solution other) :
    Alike Review.Agree (Review.ofSolution puzzle.world solution)
      (Review.ofSolution puzzle.world other) := by
  have formed_iff : (∀ raw ∈ solution, Fact.read? raw ≠ none) ↔
      ∀ raw ∈ other, Fact.read? raw ≠ none := by
    simp only [same.members]
  rcases Fact.readAll_cases solution with ⟨formed, read⟩ | ⟨raw, member, malformed, failed⟩ <;>
    rcases Fact.readAll_cases other with ⟨formed', read'⟩ | ⟨raw', member', malformed', failed'⟩
  · rw [Review.ofSolution, Review.ofSolution, read, read']
    refine (Review.buildFor_alike same.sameFacts).map ?_
    rintro built? built'? ⟨plan, took⟩
    exact Review.assemble_agree puzzle.unordered (mem_readable same.members) plan took
  · exact absurd malformed' (formed_iff.mp formed raw' member')
  · exact absurd malformed (formed_iff.mpr formed' raw member)
  · rw [Review.ofSolution, Review.ofSolution, failed, failed']
    exact .error trivial

/-- An office that is a kitchen, too, and an agent declared after it acts. -/
def errand : List String :=
  ["office(k)", "kitchen(k)", "exec(0,r1,wait)", "agent(r1)", "goal(done)"]

/-- The facts of `errand` in another order, one of them twice. -/
def shuffledErrand : List String :=
  ["goal(done)", "agent(r1)", "kitchen(k)", "office(k)", "kitchen(k)", "exec(0,r1,wait)"]

theorem errand_shuffled : SameSolution .coffee errand shuffledErrand := by
  have there : errand ⊆ shuffledErrand := by decide +kernel
  have back : shuffledErrand ⊆ errand := by decide +kernel
  constructor
  case members => exact fun raw => ⟨fun h => there h, fun h => back h⟩
  case start =>
    have start : factsNamed "start" errand = [] := by decide +kernel
    exact fun _ => start.trans (by decide +kernel)
  case goal =>
    have goal : factsNamed "goal" errand = ["goal(done)"] := by decide +kernel
    exact fun _ => goal.trans (by decide +kernel)

theorem review_alike_errand : SameSolution .coffee errand shuffledErrand ∧
    Alike Review.Agree (Review.ofSolution Puzzle.coffee.world errand)
      (Review.ofSolution Puzzle.coffee.world shuffledErrand) :=
  ⟨errand_shuffled, review_alike .coffee errand shuffledErrand errand_shuffled⟩

end PlanReferee
