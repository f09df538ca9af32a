import PlanReferee.Proofs.Messages
import PlanReferee.Proofs.Reordering

/-! The account of a solution. Each of its facts goes into the plan, or is known to the world, or is
ignored and named in the log, and the log has its remarks in a fixed place. -/

namespace PlanReferee

open Std (ExtTreeSet)

/-! What worlds know. -/

theorem Lexicon.read?_eq_none {ρ : Type} {lexicon : Lexicon ρ} {fact : Fact}
    (foreign : ∀ entry ∈ lexicon, entry.name ≠ fact.name) : Lexicon.read? lexicon fact = none := by
  refine List.findSome?_eq_none_iff.mpr fun entry member => ?_
  exact if_neg fun named => foreign entry member named.symm

theorem Puzzle.names_apart (puzzle : Puzzle) :
    ∀ entry ∈ puzzle.world.lexicon, ∀ other ∈ Statement.lexicon, entry.name ≠ other.name := by
  cases puzzle <;> decide +kernel

theorem Puzzle.knows_eq_false (puzzle : Puzzle) {fact : Fact} {said : Statement}
    (h : fact.Says said) : puzzle.world.knows fact = false := by
  rw [← Statement.read?_eq_some_iff] at h
  obtain ⟨other, member, reads⟩ := List.exists_of_findSome?_eq_some h
  have named := ((Entry.read?_eq_some_iff other fact said).mp reads).1
  rw [World.knows, Lexicon.read?_eq_none, Option.isSome_none]
  exact fun entry listed same => puzzle.names_apart entry listed other member (same.trans named)

namespace World

variable {world : World}

theorem offer_of_not_knows (state : world.State) {fact : Fact}
    (unknown : world.knows fact = false) : world.offer state fact = state := by
  rw [knows, Option.isSome_eq_false_iff, Option.isNone_iff_eq_none] at unknown
  rw [offer_eq, unknown]
  rfl

/-- Facts of other kinds leave no trace in a world. -/
theorem offerAll_filter (facts : List Fact) :
    world.offerAll (facts.filter world.knows) = world.offerAll facts := by
  have along : ∀ state : world.State,
      (facts.filter world.knows).foldl world.offer state = facts.foldl world.offer state := by
    induction facts with
    | nil => intro state; rfl
    | cons fact facts ih =>
      intro state
      cases known : world.knows fact with
      | true => rw [List.filter_cons_of_pos known, List.foldl_cons, List.foldl_cons, ih]
      | false =>
        rw [List.filter_cons_of_neg (by simp [known]), List.foldl_cons,
          offer_of_not_knows state known, ih]
  exact along world.fresh

end World

theorem Fact.eq_of_raw_eq {solution : List String} {facts : List Fact}
    (read : Fact.readAll solution = .ok facts) {fact other : Fact} (member : fact ∈ facts)
    (member' : other ∈ facts) (same : fact.raw = other.raw) : fact = other := by
  rcases readAll_cases solution with ⟨_, all⟩ | ⟨_, _, _, failed⟩
  · cases read.symm.trans all
    obtain ⟨raw, _, found⟩ := List.mem_filterMap.mp member
    obtain ⟨raw', _, found'⟩ := List.mem_filterMap.mp member'
    have raw_eq := ((read?_eq_some_iff raw fact).mp found).1
    have raw'_eq := ((read?_eq_some_iff raw' other).mp found').1
    rw [← raw_eq, same, raw'_eq] at found
    exact Option.some.inj (found.symm.trans found')
  · cases read.symm.trans failed

namespace Review

/-- The log of a review: what the world finds, then the names of the ignored facts if there are any,
then a last line if nothing found is an error. -/
structure LaidOut {world : World} (review : Review world) (names : List String) : Prop where
  ascending : names.Pairwise (· < ·)
  named : ∀ name, name ∈ names ↔
    ∃ fact ∈ review.facts, fact.raw ∉ review.recognized ∧ fact.name = name
  /-- One fact after the end is enough, also if others of its name went into the plan. -/
  late : ∀ built, review.built? = some built → ∀ fact ∈ review.facts, ∀ t literal,
    fact.Says (.holds t literal) → built.plan.endTime < t → "holds" ∈ names
  logs : review.verdict.logs = review.findings
    ++ (if ∀ fact ∈ review.facts, fact.raw ∈ review.recognized then []
        else [.warning ("Ignored predicates: [" ++ ", ".intercalate names ++ "]")])
    ++ (if review.findings.any Diagnostic.isError then [] else [.info "No issues found!"])
  valid : review.verdict.valid = true ↔ ErrorFree review.verdict.logs
  last : review.verdict.valid = true → ∃ earlier,
    review.verdict.logs = earlier ++ [.info "No issues found!"] ∧
      ∀ d ∈ earlier, d.message ≠ "No issues found!"
  never : review.verdict.valid = false →
    ∀ d ∈ review.verdict.logs, d.message ≠ "No issues found!"

/-- Each fact of a solution goes into the plan, or the world learns it, or it is ignored. -/
structure Accounts (puzzle : Puzzle) (solution : List String) (review : Review puzzle.world) :
    Prop where
  facts : Fact.readAll solution = .ok review.facts
  planned : puzzle ≠ .dependencyHell →
    ∃ built, Plan.build review.facts = .ok built ∧ review.built? = some built
  planless : puzzle = .dependencyHell → review.built? = none
  /-- No fact is of a kind for both. -/
  apart : ∀ fact ∈ review.facts, puzzle.world.knows fact = true → ∀ said, ¬ fact.Says said
  recognized : ∀ raw, raw ∈ review.recognized ↔ raw ∈ consumed review.built? ∨
    ∃ fact ∈ review.facts, fact.raw = raw ∧ raw ∉ consumed review.built? ∧
      puzzle.world.knows fact = true
  state : review.state = puzzle.world.offerAll (review.facts.filter fun fact =>
    fact.raw ∉ consumed review.built? ∧ puzzle.world.knows fact = true)
  verdict : review.verdict.recognized = review.recognized ∧ ∃ names, review.LaidOut names

variable {world : World}

/-! What is taken. -/

theorem filter_offered (built? : Option Built) (facts : List Fact) :
    (offered built? facts).filter world.knows =
      facts.filter fun fact => fact.raw ∉ consumed built? ∧ world.knows fact = true := by
  rw [offered, List.filter_filter]
  refine List.filter_congr fun fact _ => ?_
  rw [Bool.and_comm, Bool.decide_and, Bool.decide_eq_true]

theorem mem_recognized (facts : List Fact) (built? : Option Built) (raw : String) :
    raw ∈ (assemble world facts built?).recognized ↔ raw ∈ consumed built? ∨
      ∃ fact ∈ facts, fact.raw = raw ∧ raw ∉ consumed built? ∧ world.knows fact = true := by
  rw [assemble, mem_inserts, filter_offered]
  simp only [List.mem_filter, decide_eq_true_eq]
  constructor
  · rintro (taken | ⟨fact, ⟨member, left, known⟩, rfl⟩)
    · exact .inl taken
    · exact .inr ⟨fact, member, rfl, left, known⟩
  · rintro (taken | ⟨fact, member, rfl, left, known⟩)
    · exact .inl taken
    · exact .inr ⟨fact, ⟨member, left, known⟩, rfl⟩

theorem state_assemble (facts : List Fact) (built? : Option Built) :
    (assemble world facts built?).state = world.offerAll (facts.filter fun fact =>
      fact.raw ∉ consumed built? ∧ world.knows fact = true) := by
  rw [← filter_offered, World.offerAll_filter]
  rfl

/-! What is logged. -/

theorem ignored_ascending (review : Review world) : review.ignored.toList.Pairwise (· < ·) :=
  review.ignored.ordered_toList.imp fun h => compareOfLessAndEq_eq_lt.mp h

theorem mem_ignored (review : Review world) (name : String) :
    name ∈ review.ignored.toList ↔
      ∃ fact ∈ review.facts, fact.raw ∉ review.recognized ∧ fact.name = name := by
  simp only [ignored, ExtTreeSet.mem_toList, ExtTreeSet.mem_ofList, List.contains_iff_mem,
    List.mem_map, List.mem_filter, decide_eq_true_eq, and_assoc]

theorem ignored_eq_nil_iff (review : Review world) :
    review.ignored.toList = [] ↔ ∀ fact ∈ review.facts, fact.raw ∈ review.recognized := by
  rw [List.eq_nil_iff_forall_not_mem]
  simp only [mem_ignored]
  constructor
  · intro none fact member
    by_contra left
    exact none fact.name ⟨fact, member, left, rfl⟩
  · rintro all name ⟨fact, member, left, _⟩
    exact left (all fact member)

def ignoredLine (names : List String) : List Diagnostic :=
  if names = [] then [] else [.warning ("Ignored predicates: [" ++ ", ".intercalate names ++ "]")]

theorem ignoredLine_errorFree (names : List String) : ErrorFree (ignoredLine names) := by
  rw [ignoredLine]
  split
  · exact List.forall_mem_nil _
  · exact List.forall_mem_singleton.mpr rfl

theorem logs_verdict (review : Review world) : review.verdict.logs =
    review.findings ++ ignoredLine review.ignored.toList
      ++ (if review.findings.any Diagnostic.isError then [] else [.info "No issues found!"]) := by
  have line : (if review.ignored.isEmpty then []
      else [(Remark.ignored review.ignored.toList).diagnostic]) =
        ignoredLine review.ignored.toList := by
    rw [ignoredLine, ← ExtTreeSet.isEmpty_toList]
    exact if_congr List.isEmpty_iff rfl rfl
  have quiet : (ignoredLine review.ignored.toList).any Diagnostic.isError = false := by
    simpa [ErrorFree] using ignoredLine_errorFree review.ignored.toList
  simp only [verdict, line, List.any_append, quiet, Bool.or_false]
  cases review.findings.any Diagnostic.isError <;> rfl

theorem valid_eq (review : Review world) :
    review.verdict.valid = !review.findings.any Diagnostic.isError := by
  rw [Bool.eq_iff_iff, valid_iff]
  simp [ErrorFree]

theorem valid_iff_logs (review : Review world) :
    review.verdict.valid = true ↔ ErrorFree review.verdict.logs := by
  have final : ErrorFree (if review.findings.any Diagnostic.isError then []
      else [.info "No issues found!"]) := by
    split
    · exact List.forall_mem_nil _
    · exact List.forall_mem_singleton.mpr rfl
  rw [logs_verdict, errorFree_append, errorFree_append, valid_iff]
  exact ⟨fun free => ⟨⟨free, ignoredLine_errorFree _⟩, final⟩, fun free => free.1.1⟩

theorem message_not_reserved {puzzle : Puzzle} (review : Review puzzle.world) :
    ∀ d ∈ review.findings ++ ignoredLine review.ignored.toList, d.message ∉ reserved := by
  intro d member
  rcases List.mem_append.mp member with found | listed
  · exact puzzle.findings_not_reserved _ _ d found
  · rw [ignoredLine] at listed
    split at listed
    · cases listed
    · cases List.mem_singleton.mp listed
      rw [Diagnostic.warning, String.append_assoc]
      exact append_not_reserved _ (by decide +kernel)

theorem message_ne_noIssues {puzzle : Puzzle} (review : Review puzzle.world) :
    ∀ d ∈ review.findings ++ ignoredLine review.ignored.toList,
      d.message ≠ "No issues found!" := by
  intro d member same
  exact review.message_not_reserved d member (same ▸ List.mem_cons_self)

/-! The account. -/

/-- Whether a fact is recognized is a matter of that fact alone. -/
theorem raw_mem_recognized {solution : List String} {facts : List Fact}
    (read : Fact.readAll solution = .ok facts) {fact : Fact} (member : fact ∈ facts)
    (built? : Option Built) : fact.raw ∈ (assemble world facts built?).recognized ↔
      fact.raw ∈ consumed built? ∨ world.knows fact = true := by
  rw [mem_recognized]
  constructor
  · rintro (planned | ⟨other, member', same, _, known⟩)
    · exact .inl planned
    -- Facts of one text are read alike, so that the other one is the same.
    · cases Fact.eq_of_raw_eq read member' member same
      exact .inr known
  · rintro (planned | known)
    · exact .inl planned
    · by_cases planned : fact.raw ∈ consumed built?
      · exact .inl planned
      · exact .inr ⟨fact, member, rfl, planned, known⟩

theorem raw_mem_consumed {solution : List String} {facts : List Fact}
    (read : Fact.readAll solution = .ok facts) {fact : Fact} (member : fact ∈ facts)
    {built : Built} (ok : Plan.build facts = .ok built) : fact.raw ∈ consumed (some built) ↔
      ∃ said, fact.Says said ∧ ∀ t literal, said = .holds t literal → t ≤ built.plan.endTime := by
  obtain ⟨_, _, rfl⟩ := Plan.build_eq_ok ok
  refine (Plan.mem_recognized_assemble facts fact.raw).trans ⟨?_, fun h => ⟨fact, member, rfl, h⟩⟩
  rintro ⟨other, member', same, h⟩
  cases Fact.eq_of_raw_eq read member' member same
  exact h

theorem late_ignored {puzzle : Puzzle} {solution : List String} {facts : List Fact} {built : Built}
    (read : Fact.readAll solution = .ok facts) (ok : Plan.build facts = .ok built) {fact : Fact}
    (member : fact ∈ facts) {t : Time} {literal : String} (holds : fact.Says (.holds t literal))
    (late : built.plan.endTime < t) :
    fact.raw ∉ (assemble puzzle.world facts (some built)).recognized := by
  rw [raw_mem_recognized read member, raw_mem_consumed read member ok, puzzle.knows_eq_false holds]
  rintro (⟨said, h, inside⟩ | known)
  · have early := inside t literal (Statement.said_unique h holds)
    exact absurd late (Std.not_lt.mpr early)
  · cases known

theorem laidOut {puzzle : Puzzle} {solution : List String} {facts : List Fact}
    {built? : Option Built} (read : Fact.readAll solution = .ok facts)
    (built : ∀ built, built? = some built → Plan.build facts = .ok built) :
    LaidOut (assemble puzzle.world facts built?)
      (assemble puzzle.world facts built?).ignored.toList := by
  generalize whole : assemble puzzle.world facts built? = review
  constructor
  case ascending => exact review.ignored_ascending
  case named => exact review.mem_ignored
  case late =>
    intro made known fact member t literal holds late
    subst whole
    cases known
    refine (mem_ignored _ _).mpr ⟨fact, member, ?_, holds.1⟩
    exact late_ignored read (built made rfl) member holds late
  case logs =>
    rw [logs_verdict, ignoredLine]
    simp only [review.ignored_eq_nil_iff]
  case valid => exact review.valid_iff_logs
  case last =>
    intro valid
    rw [valid_eq, Bool.not_eq_true'] at valid
    refine ⟨_, ?_, review.message_ne_noIssues⟩
    rw [logs_verdict, valid]
    rfl
  case never =>
    intro invalid
    rw [valid_eq, Bool.not_eq_false'] at invalid
    rw [logs_verdict, invalid, if_pos rfl, List.append_nil]
    exact review.message_ne_noIssues

/-- Every fact of a solution is accounted for once, and the log says so in a fixed order. -/
theorem ofSolution_accounts (puzzle : Puzzle) (solution : List String)
    (review : Review puzzle.world) (ok : ofSolution puzzle.world solution = .ok review) :
    Accounts puzzle solution review := by
  obtain ⟨facts, built?, read, built, rfl⟩ := ofSolution_eq_ok ok
  constructor
  case facts => exact read
  case planned =>
    intro other
    exact buildFor_eq_ok (puzzle.usesTimeline_iff.mpr other) built
  case planless =>
    rintro rfl
    exact (Except.ok.inj built).symm
  case apart =>
    intro fact _ known said h
    rw [puzzle.knows_eq_false h] at known
    cases known
  case recognized => exact mem_recognized facts built?
  case state => exact state_assemble facts built?
  case verdict => exact ⟨rfl, _, laidOut read fun _ known => build_of_buildFor built known⟩

/-- One `holds` stands and one comes too late, and two facts are of no kind that is known. -/
def lateNews : List String :=
  ["foo(b)", "holds(1,clear)", "block(b)", "exec(0,move(b,table))", "holds(2,late)",
    "goal(on(b,table))", "foo(c)"]

theorem ofSolution_accounts_lateNews : ∃ review,
    ofSolution Puzzle.blocks.world lateNews = .ok review ∧ Accounts .blocks lateNews review := by
  have possible : (ofSolution Puzzle.blocks.world lateNews).isOk = true := by decide +kernel
  cases ok : ofSolution Puzzle.blocks.world lateNews with
  | ok review => exact ⟨review, rfl, ofSolution_accounts .blocks lateNews review ok⟩
  | error fault =>
    rw [ok] at possible
    cases possible

end Review

end PlanReferee
