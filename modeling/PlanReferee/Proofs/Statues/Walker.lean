import PlanReferee.Proofs.Plan.Description
import PlanReferee.Proofs.Review
import PlanReferee.Proofs.Statues.Arrival

/-! Who walks. A valid solution has one agent on its roster, and an action for a named agent is for
that one. An action that names none is for the default agent, though, on the roster or not, so that
it may bring a second walker in. -/

namespace PlanReferee

namespace Statues

/-- A valid solution makes a plan in which nothing is found wrong. -/
theorem judge_quiet {solution : List String} {judged : Logged Verdict}
    (ok : Puzzle.statues.judge solution = .ok judged) (valid : judged.value.valid = true) :
    ∃ facts built state, Fact.readAll solution = .ok facts ∧ Plan.build facts = .ok built ∧
      Quiet (check state built.plan) := by
  obtain ⟨review, reviewed, verdict⟩ := Review.judge_eq_ok ok
  obtain ⟨facts, built?, read, buildable, rfl⟩ := Review.ofSolution_eq_ok reviewed
  obtain ⟨built, hbuilt, rfl⟩ := Review.buildFor_eq_ok rfl buildable
  rw [verdict, Review.valid_iff] at valid
  exact ⟨facts, built, _, read, hbuilt, valid⟩

/-- In a valid solution the roster has one agent. All actions are for that one just if it is the
default agent, or if every action names its agent. -/
theorem judge_walker_iff (solution : List String) (judged : Logged Verdict)
    (ok : Puzzle.statues.judge solution = .ok judged) (valid : judged.value.valid = true) :
    ∃ facts built walker, Fact.readAll solution = .ok facts ∧ Plan.build facts = .ok built ∧
      (∀ agent, agent ∈ built.plan.agents ↔ agent = walker) ∧
      ((∀ t agent action, built.plan.Has t agent action → agent = walker) ↔
        walker = .default ∨ ∀ t action, ¬ Said facts (.exec t none action)) := by
  obtain ⟨facts, built, state, read, hbuilt, quiet⟩ := judge_quiet ok valid
  obtain ⟨x, y, arrives⟩ := (quiet_check_iff state built.plan).mp quiet
  obtain ⟨walker, member, only⟩ := arrives.oneAgent
  have roster : ∀ agent, agent ∈ built.plan.agents ↔ agent = walker :=
    fun agent => ⟨only agent, fun same => same ▸ member⟩
  have has : ∀ t agent action, built.plan.Has t agent action ↔
      ∃ agent?, Said facts (.exec t agent? action) ∧ agent?.getD .default = agent := by
    obtain ⟨_, _, rfl⟩ := Plan.build_eq_ok hbuilt
    exact Plan.has_assemble facts
  have rostered : ∀ {t agent action}, Said facts (.exec t (some agent) action) →
      agent ∈ built.plan.agents := by
    obtain ⟨known, _, rfl⟩ := Plan.build_eq_ok hbuilt
    exact Plan.rostered_of_known known
  refine ⟨facts, built, walker, read, hbuilt, roster, ?_, ?_⟩
  · intro alone
    by_contra mixed
    rw [not_or] at mixed
    obtain ⟨other, unnamed⟩ := mixed
    simp only [not_forall, not_not] at unnamed
    obtain ⟨t, action, said⟩ := unnamed
    exact other (alone t .default action ((has t _ action).mpr ⟨none, said, rfl⟩)).symm
  · intro settled t agent action scheduled
    obtain ⟨agent?, said, rfl⟩ := (has t agent action).mp scheduled
    cases agent? with
    | some agent => exact only agent (rostered said)
    | none =>
      rcases settled with rfl | named
      · rfl
      · exact absurd said (named t action)

theorem judged_of_valid (puzzle : Puzzle) (solution : List String)
    (valid : (puzzle.judge solution).map (·.value.valid) = .ok true) :
    ∃ judged, puzzle.judge solution = .ok judged ∧ judged.value.valid = true := by
  cases h : puzzle.judge solution with
  | error fault =>
    rw [h] at valid
    cases valid
  | ok judged =>
    rw [h] at valid
    exact ⟨judged, rfl, Except.ok.inj valid⟩

/-- The default agent is declared, and acts by its name and without it. -/
theorem judge_default_walker : ∃ judged,
    Puzzle.statues.judge ["agent(defaultAgent)", "start(at(0))", "goal(at(2))",
      "exec(0,move(1))", "exec(1,defaultAgent,move(2))"] = .ok judged ∧
    judged.value.valid = true ∧ ∃ facts built walker,
      Fact.readAll ["agent(defaultAgent)", "start(at(0))", "goal(at(2))",
        "exec(0,move(1))", "exec(1,defaultAgent,move(2))"] = .ok facts ∧
      Plan.build facts = .ok built ∧ (∀ agent, agent ∈ built.plan.agents ↔ agent = walker) ∧
      ((∀ t agent action, built.plan.Has t agent action → agent = walker) ↔
        walker = .default ∨ ∀ t action, ¬ Said facts (.exec t none action)) := by
  obtain ⟨judged, ok, valid⟩ := judged_of_valid .statues
    ["agent(defaultAgent)", "start(at(0))", "goal(at(2))", "exec(0,move(1))",
      "exec(1,defaultAgent,move(2))"] (by decide +kernel)
  exact ⟨judged, ok, valid, judge_walker_iff _ judged ok valid⟩

/-- The declared agent takes the first step, and the default one the second. -/
def relay : List String :=
  ["agent(r1)", "start(at(0))", "goal(at(2))", "exec(0,r1,move(1))", "exec(1,move(2))"]

def relayFacts : List Fact :=
  [⟨"agent(r1)", "agent", "r1"⟩, ⟨"start(at(0))", "start", "at(0)"⟩,
    ⟨"goal(at(2))", "goal", "at(2)"⟩, ⟨"exec(0,r1,move(1))", "exec", "0,r1,move(1)"⟩,
    ⟨"exec(1,move(2))", "exec", "1,move(2)"⟩]

/-- A valid solution with two walkers, of which one is not on the roster. -/
theorem judge_relay : ∃ judged facts built, Puzzle.statues.judge relay = .ok judged ∧
    judged.value.valid = true ∧ Fact.readAll relay = .ok facts ∧ Plan.build facts = .ok built ∧
    built.plan.Has 0 ⟨"r1"⟩ ⟨"move", "1"⟩ ∧ built.plan.Has 1 .default ⟨"move", "2"⟩ ∧
    Agent.default ∉ built.plan.agents := by
  obtain ⟨judged, ok, valid⟩ := judged_of_valid .statues relay (by decide +kernel)
  obtain ⟨facts, built, _, read, hbuilt, _⟩ := judge_quiet ok valid
  have readRelay : Fact.readAll relay = .ok relayFacts := by decide +kernel
  obtain rfl : relayFacts = facts := Except.ok.inj (readRelay.symm.trans read)
  obtain ⟨_, _, rfl⟩ := Plan.build_eq_ok hbuilt
  have first : Said relayFacts (.exec 0 (some ⟨"r1"⟩) ⟨"move", "1"⟩) :=
    ⟨⟨"exec(0,r1,move(1))", "exec", "0,r1,move(1)"⟩, by decide,
      (Statement.read?_eq_some_iff _ _).mp (by decide +kernel)⟩
  have second : Said relayFacts (.exec 1 none ⟨"move", "2"⟩) :=
    ⟨⟨"exec(1,move(2))", "exec", "1,move(2)"⟩, by decide,
      (Statement.read?_eq_some_iff _ _).mp (by decide +kernel)⟩
  exact ⟨judged, relayFacts, _, ok, valid, read, hbuilt,
    (Plan.has_assemble _ _ _ _).mpr ⟨_, first, rfl⟩,
    (Plan.has_assemble _ _ _ _).mpr ⟨_, second, rfl⟩, by decide +kernel⟩

end Statues

end PlanReferee
