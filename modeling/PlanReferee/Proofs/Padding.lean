import PlanReferee.Proofs.Verdict

/-! Solutions with a fact put in that nobody recognizes, anywhere and any number of times. It is named
among the ignored facts, and nothing else about the review changes. -/

namespace PlanReferee

open Std (ExtTreeSet)

/-- A list with copies of one member put in. -/
inductive Padded {α : Type} (x : α) : List α → List α → Prop
  | nil : Padded x [] []
  | keep (y : α) {xs ys : List α} (h : Padded x xs ys) : Padded x (y :: xs) (y :: ys)
  | insert {xs ys : List α} (h : Padded x xs ys) : Padded x xs (x :: ys)

namespace Padded

variable {α β : Type} {x : α} {xs ys : List α}

theorem mem_iff (h : Padded x xs ys) (added : x ∈ ys) (y : α) : y ∈ ys ↔ y ∈ xs ∨ y = x := by
  have apart : y ∈ ys ∨ y = x ↔ y ∈ xs ∨ y = x := by
    clear added
    induction h with
    | nil => rfl
    | keep z h ih => rw [List.mem_cons, List.mem_cons, or_assoc, or_assoc, ih]
    | insert h ih => rw [List.mem_cons, or_assoc, ih, or_left_comm, or_self]
  rw [← apart]
  exact (or_iff_left_of_imp fun same => same ▸ added).symm

theorem find? {p : α → Bool} (h : Padded x xs ys) (skipped : p x = false) :
    ys.find? p = xs.find? p := by
  induction h with
  | nil => rfl
  | keep y h ih => rw [List.find?_cons, List.find?_cons, ih]
  | insert h ih => rw [List.find?_cons, skipped, ih]

theorem filter {p : α → Bool} (h : Padded x xs ys) (skipped : p x = false) :
    ys.filter p = xs.filter p := by
  induction h with
  | nil => rfl
  | keep y h ih => rw [List.filter_cons, List.filter_cons, ih]
  | insert h ih => rw [List.filter_cons, skipped, if_neg Bool.false_ne_true, ih]

theorem filterMap {f : α → Option β} (h : Padded x xs ys) (skipped : f x = none) :
    ys.filterMap f = xs.filterMap f := by
  induction h with
  | nil => rfl
  | keep y h ih => rw [List.filterMap_cons, List.filterMap_cons, ih]
  | insert h ih => rw [List.filterMap_cons, skipped, ih]

theorem read {f : α → Option β} {y : β} (h : Padded x xs ys) (found : f x = some y) :
    Padded y (xs.filterMap f) (ys.filterMap f) := by
  induction h with
  | nil => exact .nil
  | keep z h ih =>
    rw [List.filterMap_cons, List.filterMap_cons]
    cases f z with
    | none => exact ih
    | some w => exact .keep w ih
  | insert h ih =>
    rw [List.filterMap_cons, found]
    exact .insert ih

end Padded

/-- Neither plans nor the puzzle's world have a kind for a fact. Without a timeline there is no plan to
ask. -/
structure Puzzle.Unclaimed (puzzle : Puzzle) (fact : Fact) : Prop where
  plan : puzzle ≠ .dependencyHell → Statement.lexicon.read? fact = none
  world : puzzle.world.lexicon.read? fact = none

theorem Puzzle.Unclaimed.unknown {puzzle : Puzzle} {fact : Fact} (unclaimed : puzzle.Unclaimed fact) :
    puzzle.world.knows fact = false := by
  rw [World.knows, unclaimed.world, Option.isSome_none]

theorem Plan.build_padded {fact : Fact} (unread : Statement.lexicon.read? fact = none)
    {facts padded : List Fact} (padding : Padded fact facts padded) : build padded = build facts := by
  have same : readings padded = readings facts := padding.filterMap (by rw [unread, Option.map_none])
  rw [build, build, same]

namespace Review

/-- One fact more is ignored in the second review, of a name that may be among the ignored ones
already. -/
structure AlsoIgnores {world : World} (name : String) (review other : Review world) : Prop where
  built : other.built? = review.built?
  summary : other.summary = review.summary
  valid : other.verdict.valid = review.verdict.valid
  recognized : other.verdict.recognized = review.verdict.recognized
  ignored : ∀ n, n ∈ other.ignored ↔ n ∈ review.ignored ∨ n = name
  logs : ∃ first last, review.verdict.logs = first ++ ignoredLine review.ignored.toList ++ last ∧
    other.verdict.logs = first ++ ignoredLine other.ignored.toList ++ last ∧
    first = review.findings ∧
    last = if review.verdict.valid then [.info "No issues found!"] else []

theorem logs_valid {world : World} (review : Review world) : review.verdict.logs =
    review.findings ++ ignoredLine review.ignored.toList
      ++ (if review.verdict.valid then [.info "No issues found!"] else []) := by
  rw [logs_verdict, valid_eq]
  cases review.findings.any Diagnostic.isError <;> rfl

theorem buildFor_padded {puzzle : Puzzle} {fact : Fact} (unclaimed : puzzle.Unclaimed fact)
    {facts padded : List Fact} (padding : Padded fact facts padded) :
    buildFor puzzle.world padded = buildFor puzzle.world facts := by
  unfold buildFor
  split
  case isTrue timed =>
    rw [Plan.build_padded (unclaimed.plan (puzzle.usesTimeline_iff.mp timed)) padding]
  case isFalse => rfl

theorem unclaimed_ignored {puzzle : Puzzle} {fact : Fact} (unclaimed : puzzle.Unclaimed fact)
    {solution : List String} {facts : List Fact} (read : Fact.readAll solution = .ok facts)
    (member : fact ∈ facts) {built? : Option Built}
    (built : buildFor puzzle.world facts = .ok built?) :
    fact.raw ∉ (assemble puzzle.world facts built?).recognized := by
  rw [raw_mem_recognized read member, unclaimed.unknown]
  rintro (planned | known)
  · cases built? with
    | none => exact ExtTreeSet.not_mem_empty planned
    | some made =>
      have ok := build_of_buildFor built rfl
      obtain ⟨said, h, _⟩ := (raw_mem_consumed read member ok).mp planned
      rw [← Statement.read?_eq_some_iff, unclaimed.plan] at h
      · cases h
      · rintro rfl
        cases built
  · cases known

section Padding

variable {world : World} {fact : Fact} {facts padded : List Fact} {built? : Option Built}

theorem known_padded (unknown : world.knows fact = false) (padding : Padded fact facts padded) :
    (offered built? padded).filter world.knows = (offered built? facts).filter world.knows := by
  rw [filter_offered, filter_offered]
  exact padding.filter (by simp [unknown])

/-- The fact is offered to the world, which makes nothing of it. -/
theorem state_padded (unknown : world.knows fact = false) (padding : Padded fact facts padded) :
    (assemble world padded built?).state = (assemble world facts built?).state := by
  rw [assemble, assemble, ← World.offerAll_filter, known_padded unknown padding,
    World.offerAll_filter]

theorem recognized_padded (unknown : world.knows fact = false)
    (padding : Padded fact facts padded) :
    (assemble world padded built?).recognized = (assemble world facts built?).recognized := by
  rw [assemble, assemble, known_padded unknown padding]

theorem mem_ignored_padded (unknown : world.knows fact = false)
    (padding : Padded fact facts padded) (added : fact ∈ padded)
    (unrecognized : fact.raw ∉ (assemble world padded built?).recognized) (name : String) :
    name ∈ (assemble world padded built?).ignored ↔
      name ∈ (assemble world facts built?).ignored ∨ name = fact.name := by
  rw [← ExtTreeSet.mem_toList, ← ExtTreeSet.mem_toList, mem_ignored, mem_ignored, ← recognized_padded unknown padding]
  constructor
  · rintro ⟨other, member, left, rfl⟩
    rcases (padding.mem_iff added other).mp member with old | rfl
    · exact .inl ⟨other, old, left, rfl⟩
    · exact .inr rfl
  · rintro (⟨other, old, left, rfl⟩ | rfl)
    · exact ⟨other, (padding.mem_iff added other).mpr (.inl old), left, rfl⟩
    · exact ⟨fact, added, unrecognized, rfl⟩

theorem assemble_padded (unknown : world.knows fact = false) (padding : Padded fact facts padded)
    (added : fact ∈ padded)
    (unrecognized : fact.raw ∉ (assemble world padded built?).recognized) :
    AlsoIgnores fact.name (assemble world facts built?) (assemble world padded built?) := by
  have state : (assemble world padded built?).state = (assemble world facts built?).state :=
    state_padded unknown padding
  have findings : (assemble world padded built?).findings =
      (assemble world facts built?).findings := by
    rw [Review.findings, Review.findings, state]
    rfl
  have valid : (assemble world padded built?).verdict.valid =
      (assemble world facts built?).verdict.valid := by
    rw [valid_eq, valid_eq, findings]
  constructor
  case built => rfl
  case summary =>
    rw [Review.summary, Review.summary, state]
    rfl
  case valid => exact valid
  case recognized => exact recognized_padded unknown padding
  case ignored => exact mem_ignored_padded unknown padding added unrecognized
  case logs =>
    refine ⟨_, _, logs_valid _, ?_, rfl, rfl⟩
    rw [logs_valid, findings, valid]

end Padding

theorem readAll_padded {raw : String} {fact : Fact} (read : Fact.read? raw = some fact)
    {solution padded : List String} (padding : Padded raw solution padded) :
    (∃ fault, Fact.readAll solution = .error fault ∧ Fact.readAll padded = .error fault) ∨
      Fact.readAll solution = .ok (solution.filterMap Fact.read?) ∧
        Fact.readAll padded = .ok (padded.filterMap Fact.read?) :=
  Fact.readAll_alike (padding.find? (by rw [read, Option.isNone_some])).symm

theorem ofSolution_padded {puzzle : Puzzle} {raw : String} {fact : Fact}
    (read : Fact.read? raw = some fact) (unclaimed : puzzle.Unclaimed fact)
    {solution padded : List String} (padding : Padded raw solution padded) (added : raw ∈ padded) :
    (∃ fault, ofSolution puzzle.world solution = .error fault ∧
        ofSolution puzzle.world padded = .error fault) ∨
      ∃ review other, ofSolution puzzle.world solution = .ok review ∧
        ofSolution puzzle.world padded = .ok other ∧ AlsoIgnores fact.name review other := by
  rcases readAll_padded read padding with ⟨fault, failed, failed'⟩ | ⟨all, all'⟩
  · exact .inl ⟨fault, by rw [ofSolution, failed], by rw [ofSolution, failed']⟩
  · have padding' := padding.read read
    have added' : fact ∈ padded.filterMap Fact.read? := List.mem_filterMap.mpr ⟨raw, added, read⟩
    have same := buildFor_padded unclaimed padding'
    rw [ofSolution, ofSolution, all, all']
    dsimp only
    rw [same]
    cases built : buildFor puzzle.world (solution.filterMap Fact.read?) with
    | error fault => exact .inl ⟨fault, rfl, rfl⟩
    | ok built? =>
      have ignored := unclaimed_ignored unclaimed all' added' (same.trans built)
      exact .inr ⟨_, _, rfl, rfl, assemble_padded unclaimed.unknown padding' added' ignored⟩

/-- A well-formed fact that nobody recognizes never has a say: with it, however often and wherever it
is put in, a solution is at fault for the same, or is judged the same and has one more fact ignored. -/
theorem judge_padded (puzzle : Puzzle) {raw : String} {fact : Fact}
    (read : Fact.read? raw = some fact) (unclaimed : puzzle.Unclaimed fact)
    {solution padded : List String} (padding : Padded raw solution padded) (added : raw ∈ padded) :
    (∃ fault, puzzle.judge solution = .error fault ∧ puzzle.judge padded = .error fault) ∨
      ∃ review other, ofSolution puzzle.world solution = .ok review ∧
        ofSolution puzzle.world padded = .ok other ∧ AlsoIgnores fact.name review other ∧
        (puzzle.judge solution).map (·.value) = .ok review.verdict ∧
        (puzzle.judge padded).map (·.value) = .ok other.verdict := by
  rw [Puzzle.judge, Puzzle.judge]
  rcases ofSolution_padded read unclaimed padding added with
    ⟨fault, failed, failed'⟩ | ⟨review, other, ok, ok', also⟩
  · rw [failed, failed']
    exact .inl ⟨fault, rfl, rfl⟩
  · rw [ok, ok']
    exact .inr ⟨review, other, rfl, rfl, also, rfl, rfl⟩

def walk : List String := ["start(at(0))", "goal(at(1))", "exec(0,move(1))"]

/-- An action whose time is no 32-bit number, put in twice. -/
def strayWalk : List String :=
  ["exec(4294967296,move(1))", "start(at(0))", "goal(at(1))", "exec(4294967296,move(1))",
    "exec(0,move(1))"]

/-- One `exec` is carried out, and the name is among the ignored ones all the same. -/
theorem judge_padded_walk : ∃ review other, ofSolution Puzzle.statues.world walk = .ok review ∧
    ofSolution Puzzle.statues.world strayWalk = .ok other ∧ AlsoIgnores "exec" review other ∧
    (Puzzle.statues.judge walk).map (·.value) = .ok review.verdict ∧
    (Puzzle.statues.judge strayWalk).map (·.value) = .ok other.verdict := by
  have read : Fact.read? "exec(4294967296,move(1))" =
      some ⟨"exec(4294967296,move(1))", "exec", "4294967296,move(1)"⟩ := by decide +kernel
  have unclaimed : Puzzle.statues.Unclaimed
      ⟨"exec(4294967296,move(1))", "exec", "4294967296,move(1)"⟩ := by
    constructor
    case plan => exact fun _ => by decide +kernel
    case world => decide +kernel
  have padding : Padded "exec(4294967296,move(1))" walk strayWalk :=
    .insert (.keep _ (.keep _ (.insert (.keep _ .nil))))
  rcases judge_padded .statues read unclaimed padding List.mem_cons_self with
    ⟨fault, failed, _⟩ | judged
  · have possible : (Puzzle.statues.judge walk).isOk = true := by decide +kernel
    rw [failed] at possible
    cases possible
  · exact judged

end Review

end PlanReferee
