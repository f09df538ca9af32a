import PlanReferee.Proofs.Plan.Description
import PlanReferee.Proofs.Review

/-! Which solutions cannot be judged, and what is blamed for it. A malformed text comes before all
else, then an action for an agent that nobody declares, then the lack of a goal. Of several texts that
are at fault in one way, the first in the list is blamed. -/

namespace PlanReferee

/-- The first member of a list with a property. -/
def FirstWith {α : Type} (p : α → Prop) (xs : List α) (x : α) : Prop :=
  ∃ before after, xs = before ++ x :: after ∧ p x ∧ ∀ y ∈ before, ¬ p y

def Malformed (raw : String) : Prop := ∀ name args, ¬ HasShape raw name args

/-- A text is a fact that says something about a plan. -/
def Tells (raw : String) (said : Statement) : Prop :=
  ∃ name args, HasShape raw name args ∧ Fact.Says ⟨raw, name, args⟩ said

def Declared (solution : List String) (agent : Agent) : Prop :=
  ∃ raw ∈ solution, Tells raw (.agent agent)

/-- A text schedules an action for an agent that is not declared anywhere in the solution. Where no
agent is declared at all, the default one may be named. -/
def Strange (solution : List String) (agent : Agent) (raw : String) : Prop :=
  (∃ t action, Tells raw (.exec t (some agent) action)) ∧ ¬ Declared solution agent ∧
    ¬ (agent = .default ∧ ∀ other, ¬ Declared solution other)

/-- What is blamed for a solution that cannot be judged. -/
inductive Blamed (puzzle : Puzzle) (solution : List String) : Fault → Prop
  | malformed (raw : String) (first : FirstWith Malformed solution raw) :
    Blamed puzzle solution (.malformed raw)
  | unknownAgent (agent : Agent) (raw : String) (formed : ∀ raw ∈ solution, ¬ Malformed raw)
    (timed : puzzle ≠ .dependencyHell)
    (first : FirstWith (fun raw => ∃ agent, Strange solution agent raw) solution raw)
    (strange : Strange solution agent raw) : Blamed puzzle solution (.unknownAgent agent.name raw)
  | noGoal (formed : ∀ raw ∈ solution, ¬ Malformed raw) (timed : puzzle ≠ .dependencyHell)
    (known : ∀ raw ∈ solution, ∀ agent, ¬ Strange solution agent raw)
    (aimless : ∀ raw ∈ solution, ∀ args, ¬ HasShape raw "goal" args) :
    Blamed puzzle solution .noGoal

/-! The first of several. -/

theorem find?_eq_some_iff_firstWith {α : Type} (p : α → Bool) (xs : List α) (x : α) :
    xs.find? p = some x ↔ FirstWith (fun y => p y = true) xs x := by
  simp only [List.find?_eq_some_iff_append, FirstWith, Bool.not_eq_true', Bool.not_eq_true,
    exists_and_right]
  constructor
  · rintro ⟨holds, before, ⟨after, split⟩, none⟩
    exact ⟨before, ⟨after, split⟩, holds, none⟩
  · rintro ⟨before, ⟨after, split⟩, holds, none⟩
    exact ⟨holds, before, ⟨after, split⟩, none⟩

theorem FirstWith.unique {α : Type} {p : α → Prop} {xs : List α} {x y : α}
    (h : FirstWith p xs x) (h' : FirstWith p xs y) : x = y := by
  classical
  have found : ∀ z, FirstWith p xs z → xs.find? (fun z => decide (p z)) = some z := by
    intro z hz
    rw [find?_eq_some_iff_firstWith]
    simpa only [decide_eq_true_eq] using hz
  exact Option.some.inj ((found x h).symm.trans (found y h'))

theorem FirstWith.mem {α : Type} {p : α → Prop} {xs : List α} {x : α}
    (h : FirstWith p xs x) : x ∈ xs ∧ p x := by
  obtain ⟨before, after, rfl, holds, _⟩ := h
  exact ⟨List.mem_append_right before List.mem_cons_self, holds⟩

theorem findSome?_filterMap {α β γ : Type} (f : α → Option β) (g : β → Option γ) (xs : List α) :
    (xs.filterMap f).findSome? g = xs.findSome? fun x => (f x).bind g := by
  rw [← List.head?_filterMap, List.filterMap_filterMap, List.head?_filterMap]

/-! What is blamed. -/

/-- Nothing is at fault in a solution. -/
structure Judgeable (puzzle : Puzzle) (solution : List String) : Prop where
  formed : ∀ raw ∈ solution, ¬ Malformed raw
  known : puzzle ≠ .dependencyHell → ∀ raw ∈ solution, ∀ agent, ¬ Strange solution agent raw
  aim : puzzle ≠ .dependencyHell → ∃ raw ∈ solution, ∃ args, HasShape raw "goal" args

theorem Blamed.not_judgeable {puzzle : Puzzle} {solution : List String} {fault : Fault}
    (blamed : Blamed puzzle solution fault) : ¬ Judgeable puzzle solution := by
  intro judgeable
  cases blamed with
  | malformed raw first => exact judgeable.formed raw first.mem.1 first.mem.2
  | unknownAgent agent raw formed timed first strange =>
    exact judgeable.known timed raw first.mem.1 agent strange
  | noGoal formed timed known aimless =>
    obtain ⟨raw, member, args, shape⟩ := judgeable.aim timed
    exact aimless raw member args shape

/-! Texts and the facts they are read to. -/

theorem malformed_iff (raw : String) : Malformed raw ↔ Fact.read? raw = none := by
  simp only [Option.eq_none_iff_forall_ne_some, ne_eq, read?_eq_some_iff_hasShape, Malformed]
  constructor
  · rintro none fact ⟨_, shape⟩
    exact none _ _ shape
  · intro none name args shape
    exact none ⟨raw, name, args⟩ ⟨rfl, shape⟩

theorem tells_iff (raw : String) (said : Statement) :
    Tells raw said ↔ ∃ fact, Fact.read? raw = some fact ∧ fact.Says said := by
  simp only [read?_eq_some_iff_hasShape, Tells]
  constructor
  · rintro ⟨name, args, shape, h⟩
    exact ⟨⟨raw, name, args⟩, ⟨rfl, shape⟩, h⟩
  · rintro ⟨fact, ⟨rfl, shape⟩, h⟩
    exact ⟨fact.name, fact.args, shape, h⟩

theorem Tells.unique {raw : String} {said other : Statement} (h : Tells raw said)
    (h' : Tells raw other) : said = other := by
  obtain ⟨fact, read, first⟩ := (tells_iff raw said).mp h
  obtain ⟨fact', read', second⟩ := (tells_iff raw other).mp h'
  cases read.symm.trans read'
  exact Statement.said_unique first second

theorem Strange.unique {solution : List String} {raw : String} {agent other : Agent}
    (h : Strange solution agent raw) (h' : Strange solution other raw) : agent = other := by
  obtain ⟨⟨t, action, tells⟩, _⟩ := h
  obtain ⟨⟨t', action', tells'⟩, _⟩ := h'
  cases tells.unique tells'
  rfl

theorem Blamed.unique {puzzle : Puzzle} {solution : List String} {fault other : Fault}
    (blamed : Blamed puzzle solution fault) (blamed' : Blamed puzzle solution other) :
    fault = other := by
  cases blamed with
  | malformed raw first =>
    cases blamed' with
    | malformed raw' first' => rw [first.unique first']
    | unknownAgent agent raw' formed timed first' strange =>
      exact absurd first.mem.2 (formed raw first.mem.1)
    | noGoal formed timed known aimless => exact absurd first.mem.2 (formed raw first.mem.1)
  | unknownAgent agent raw formed timed first strange =>
    cases blamed' with
    | malformed raw' first' => exact absurd first'.mem.2 (formed raw' first'.mem.1)
    | unknownAgent agent' raw' formed' timed' first' strange' =>
      cases first.unique first'
      rw [strange.unique strange']
    | noGoal formed' timed' known aimless => exact absurd strange (known raw first.mem.1 agent)
  | noGoal formed timed known aimless =>
    cases blamed' with
    | malformed raw first => exact absurd first.mem.2 (formed raw first.mem.1)
    | unknownAgent agent raw formed' timed' first strange =>
      exact absurd strange (known raw first.mem.1 agent)
    | noGoal formed' timed' known' aimless' => rfl

theorem declared_iff (solution : List String) (agent : Agent) :
    Declared solution agent ↔ Said (solution.filterMap Fact.read?) (.agent agent) := by
  simp only [Declared, tells_iff, Said, List.mem_filterMap]
  constructor
  · rintro ⟨raw, member, fact, read, h⟩
    exact ⟨fact, ⟨raw, member, read⟩, h⟩
  · rintro ⟨fact, ⟨raw, member, read⟩, h⟩
    exact ⟨raw, member, fact, read, h⟩

/-! Strangers. -/

namespace Plan

theorem stranger?_eq_some_iff (agents : Std.ExtTreeSet Agent) (fact : Fact) (said : Statement)
    (fault : Fault) : stranger? agents (fact, said) = some fault ↔
      ∃ t agent action, said = .exec t (some agent) action ∧ agent ∉ agents ∧
        fault = .unknownAgent agent.name fact.raw := by
  unfold stranger?
  split
  · rename_i t agent action h
    cases h
    simp only [Statement.exec.injEq, Option.some.injEq]
    split
    · rename_i member
      simp only [reduceCtorEq, false_iff]
      rintro ⟨_, _, _, ⟨rfl, rfl, rfl⟩, absent, _⟩
      exact absent member
    · rename_i absent
      simp only [Option.some.injEq]
      constructor
      · rintro rfl
        exact ⟨t, agent, action, ⟨rfl, rfl, rfl⟩, absent, rfl⟩
      · rintro ⟨_, _, _, ⟨rfl, rfl, rfl⟩, _, rfl⟩
        rfl
  · rename_i other
    simp only [reduceCtorEq, false_iff]
    rintro ⟨t, agent, action, rfl, _⟩
    exact other fact t agent action rfl

def agentsOf (solution : List String) : Std.ExtTreeSet Agent :=
  (roster ((readings (solution.filterMap Fact.read?)).map (·.2))).1

theorem not_mem_agentsOf (solution : List String) (agent : Agent) :
    agent ∉ agentsOf solution ↔ ¬ Declared solution agent ∧
      ¬ (agent = .default ∧ ∀ other, ¬ Declared solution other) := by
  have member := mem_agents_assemble (solution.filterMap Fact.read?) agent
  simp only [← declared_iff] at member
  rw [← not_or]
  exact not_congr member

/-- The fault of one text, whatever stands around it. -/
def blame? (agents : Std.ExtTreeSet Agent) (raw : String) : Option Fault :=
  (Fact.read? raw).bind fun fact => (Statement.lexicon.read? fact).bind fun said =>
    stranger? agents (fact, said)

theorem blame?_eq_some_iff (solution : List String) (raw : String) (fault : Fault) :
    blame? (agentsOf solution) raw = some fault ↔
      ∃ agent, Strange solution agent raw ∧ fault = .unknownAgent agent.name raw := by
  simp only [blame?, Option.bind_eq_some_iff, stranger?_eq_some_iff, not_mem_agentsOf,
    Statement.read?_eq_some_iff, Strange, tells_iff]
  constructor
  · rintro ⟨fact, read, _, h, t, agent, action, rfl, unknown, rfl⟩
    rw [((Fact.read?_eq_some_iff raw fact).mp read).1]
    exact ⟨agent, ⟨⟨t, action, fact, read, h⟩, unknown⟩, rfl⟩
  · rintro ⟨agent, ⟨⟨t, action, fact, read, h⟩, unknown⟩, rfl⟩
    have raw_eq := ((Fact.read?_eq_some_iff raw fact).mp read).1
    exact ⟨fact, read, _, h, t, agent, action, rfl, unknown, by rw [raw_eq]⟩

theorem findSome?_readings (agents : Std.ExtTreeSet Agent) (solution : List String) :
    (readings (solution.filterMap Fact.read?)).findSome? (stranger? agents) =
      solution.findSome? (blame? agents) := by
  rw [readings, findSome?_filterMap, findSome?_filterMap]
  refine congrArg (fun f => solution.findSome? f) (funext fun raw => ?_)
  rw [blame?]
  refine Option.bind_congr fun fact _ => ?_
  rw [Option.bind_map]
  rfl

theorem goals_eq_nil_iff (solution : List String) :
    ((readings (solution.filterMap Fact.read?)).map (·.2)).filterMap Statement.goal? = [] ↔
      ∀ raw ∈ solution, ∀ args, ¬ HasShape raw "goal" args := by
  rw [literals_said goal?_inverse (fun _ _ => Iff.rfl), List.map_eq_nil_iff, List.filter_eq_nil_iff]
  simp only [List.mem_filterMap, read?_eq_some_iff_hasShape, decide_eq_true_eq]
  constructor
  · intro none raw member args shape
    exact none ⟨raw, "goal", args⟩ ⟨raw, member, rfl, shape⟩ rfl
  · rintro none fact ⟨raw, member, _, shape⟩ named
    exact none raw member fact.args (named ▸ shape)

theorem build_of_stranger {solution : List String} {fault : Fault}
    (found : solution.findSome? (blame? (agentsOf solution)) = some fault) :
    build (solution.filterMap Fact.read?) = .error fault ∧ ∃ agent raw,
      FirstWith (fun raw => ∃ agent, Strange solution agent raw) solution raw ∧
        Strange solution agent raw ∧ fault = .unknownAgent agent.name raw := by
  have failed : build (solution.filterMap Fact.read?) = .error fault := by
    rw [← findSome?_readings] at found
    unfold build
    simp only [agentsOf] at found
    simp only [found]
  obtain ⟨before, raw, after, split, blamed, others⟩ := List.findSome?_eq_some_iff.mp found
  obtain ⟨agent, strange, named⟩ := (blame?_eq_some_iff solution raw fault).mp blamed
  refine ⟨failed, agent, raw, ⟨before, after, split, ⟨agent, strange⟩, ?_⟩, strange, named⟩
  rintro earlier member ⟨other, strange'⟩
  have blamed' := (blame?_eq_some_iff solution earlier _).mpr ⟨other, strange', rfl⟩
  rw [others earlier member] at blamed'
  cases blamed'

theorem build_of_no_stranger {solution : List String}
    (none : solution.findSome? (blame? (agentsOf solution)) = none) :
    (∀ raw ∈ solution, ∀ agent, ¬ Strange solution agent raw) ∧
      build (solution.filterMap Fact.read?) =
        if ((readings (solution.filterMap Fact.read?)).map (·.2)).filterMap Statement.goal? = [] then
          .error .noGoal else .ok (assemble (readings (solution.filterMap Fact.read?))) := by
  constructor
  · intro raw member agent strange
    have blamed := (blame?_eq_some_iff solution raw _).mpr ⟨agent, strange, rfl⟩
    rw [List.findSome?_eq_none_iff.mp none raw member] at blamed
    cases blamed
  · rw [← findSome?_readings] at none
    unfold build
    simp only [agentsOf] at none
    simp only [none, List.isEmpty_iff]

end Plan

/-! Outcomes. -/

namespace Review

/-- With a timeline, texts of the right form can still fail to make a plan. -/
theorem buildFor_cases {puzzle : Puzzle} (timed : puzzle ≠ .dependencyHell) {solution : List String}
    (formed : ∀ raw ∈ solution, ¬ Malformed raw) :
    (∃ fault, buildFor puzzle.world (solution.filterMap Fact.read?) = .error fault ∧
        Blamed puzzle solution fault) ∨
      (∃ built?, buildFor puzzle.world (solution.filterMap Fact.read?) = .ok built?) ∧
        Judgeable puzzle solution := by
  rw [buildFor, if_pos (puzzle.usesTimeline_iff.mpr timed)]
  cases found : solution.findSome? (Plan.blame? (Plan.agentsOf solution)) with
  | some fault =>
    obtain ⟨failed, agent, raw, first, strange, rfl⟩ := Plan.build_of_stranger found
    rw [failed]
    exact .inl ⟨_, rfl, .unknownAgent agent raw formed timed first strange⟩
  | none =>
    obtain ⟨known, ended⟩ := Plan.build_of_no_stranger found
    rw [ended]
    split
    · rename_i aimless
      rw [Plan.goals_eq_nil_iff] at aimless
      exact .inl ⟨_, rfl, .noGoal formed timed known aimless⟩
    · rename_i aim
      rw [Plan.goals_eq_nil_iff] at aim
      refine .inr ⟨⟨_, rfl⟩, formed, fun _ => known, fun _ => ?_⟩
      simpa only [not_forall, not_not, exists_prop] using aim

theorem ofSolution_cases (puzzle : Puzzle) (solution : List String) :
    (∃ fault, ofSolution puzzle.world solution = .error fault ∧ Blamed puzzle solution fault) ∨
      (∃ review, ofSolution puzzle.world solution = .ok review) ∧ Judgeable puzzle solution := by
  cases read : solution.find? fun raw => (Fact.read? raw).isNone with
  | some raw =>
    have failed : Fact.readAll solution = .error (.malformed raw) := by
      rw [Fact.readAll_eq, read]
    -- Reading stops here, so that nothing else in the solution matters.
    rw [find?_eq_some_iff_firstWith] at read
    simp only [Option.isNone_iff_eq_none, ← malformed_iff] at read
    refine .inl ⟨.malformed raw, ?_, .malformed raw read⟩
    rw [ofSolution, failed]
  | none =>
    have done : Fact.readAll solution = .ok (solution.filterMap Fact.read?) := by
      rw [Fact.readAll_eq, read]
    have formed : ∀ raw ∈ solution, ¬ Malformed raw := by
      simpa only [malformed_iff, List.find?_eq_none, Option.isNone_iff_eq_none] using read
    rw [ofSolution, done]
    by_cases timed : puzzle = .dependencyHell
    · subst timed
      exact .inr ⟨⟨_, rfl⟩, formed, fun other => absurd rfl other, fun other => absurd rfl other⟩
    · rcases buildFor_cases timed formed with ⟨fault, failed, blamed⟩ | ⟨⟨built?, ok⟩, judgeable⟩
      · exact .inl ⟨fault, congrArg (Except.map _) failed, blamed⟩
      · exact .inr ⟨⟨_, congrArg (Except.map _) ok⟩, judgeable⟩

/-- A solution cannot be judged just if something is blamed, and then for that: the first malformed
text, or else the first action for a stranger, or else the lack of a goal. Only plans have agents and
goals, so that packages can only be malformed. -/
theorem ofSolution_faults (puzzle : Puzzle) (solution : List String) :
    (∀ fault, ofSolution puzzle.world solution = .error fault ↔ Blamed puzzle solution fault) ∧
      ((∃ review, ofSolution puzzle.world solution = .ok review) ↔ Judgeable puzzle solution) ∧
      ∀ fault, ofSolution Puzzle.dependencyHell.world solution = .error fault →
        ∃ raw, fault = .malformed raw := by
  have faults : ∀ (puzzle : Puzzle) fault,
      ofSolution puzzle.world solution = .error fault ↔ Blamed puzzle solution fault := by
    intro puzzle fault
    rcases ofSolution_cases puzzle solution with ⟨other, failed, blamed⟩ | ⟨⟨review, ok⟩, judgeable⟩
    · rw [failed, Except.error.injEq]
      exact ⟨fun same => same ▸ blamed, fun blamed' => blamed.unique blamed'⟩
    · rw [ok]
      exact iff_of_false (fun h => by cases h) fun blamed => blamed.not_judgeable judgeable
  refine ⟨faults puzzle, ?_, ?_⟩
  · rcases ofSolution_cases puzzle solution with ⟨fault, failed, blamed⟩ | ⟨judged, judgeable⟩
    · refine iff_of_false ?_ blamed.not_judgeable
      rintro ⟨review, ok⟩
      cases failed.symm.trans ok
    · exact iff_of_true judged judgeable
  · intro fault failed
    cases (faults .dependencyHell fault).mp failed with
    | malformed raw first => exact ⟨raw, rfl⟩
    | unknownAgent agent raw formed timed first strange => exact absurd rfl timed
    | noGoal formed timed known aimless => exact absurd rfl timed

end Review

end PlanReferee
