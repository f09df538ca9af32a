import PlanReferee.Proofs.Schedule
import PlanReferee.Puzzle
import PlanReferee.Review

/-! Reviews of solutions: what a world learns from the facts offered to it, and which findings make
a verdict. -/

namespace PlanReferee

namespace World

variable {world : World}

theorem offer_eq (state : world.State) (fact : Fact) :
    world.offer state fact = ((world.lexicon.read? fact).map (world.note state)).getD state := by
  rw [offer]
  cases world.lexicon.read? fact <;> rfl

/-- What holds at first and is kept by every record holds in the end. -/
theorem kept_offerAll {Kept : world.State → Prop} (fresh : Kept world.fresh)
    (note : ∀ state record, Kept state → Kept (world.note state record)) (facts : List Fact) :
    Kept (world.offerAll facts) := by
  refine List.foldlRecOn facts world.offer fresh fun state kept fact _ => ?_
  rw [offer_eq]
  cases world.lexicon.read? fact with
  | none => exact kept
  | some record => exact note state record kept

/-- Where some records leave a mark, and none takes it away, the mark is there in the end if some
fact has left it. -/
theorem marked_offerAll {Marked : world.State → Prop} {Marks : world.Record → Prop}
    (fresh : ¬ Marked world.fresh)
    (note : ∀ state record, Marked (world.note state record) ↔ Marks record ∨ Marked state)
    (facts : List Fact) : Marked (world.offerAll facts) ↔
      ∃ fact ∈ facts, ∃ record, world.lexicon.read? fact = some record ∧ Marks record := by
  -- Along the list, a mark stays.
  have along : ∀ state, Marked (facts.foldl world.offer state) ↔
      (∃ fact ∈ facts, ∃ record, world.lexicon.read? fact = some record ∧ Marks record) ∨
        Marked state := by
    induction facts with
    | nil => intro state; simp
    | cons fact facts ih =>
      intro state
      have step : Marked (world.offer state fact) ↔
          (∃ record, world.lexicon.read? fact = some record ∧ Marks record) ∨ Marked state := by
        rw [offer_eq]
        cases world.lexicon.read? fact with
        | none => simp
        | some found => simp [note]
      rw [List.foldl_cons, ih, step]
      simp only [List.mem_cons, exists_eq_or_imp, or_assoc, or_left_comm]
  rw [offerAll, along]
  exact or_iff_left fresh

/-- Where some records set a value, and the others leave it alone, the last fact that sets it
decides. -/
theorem latest_offerAll {α : Type} {value? : world.State → Option α}
    {sets? : world.Record → Option α} (fresh : value? world.fresh = none)
    (note : ∀ state record,
      value? (world.note state record) = (sets? record).or (value? state)) (facts : List Fact) :
    value? (world.offerAll facts) =
      (facts.filterMap fun fact => (world.lexicon.read? fact).bind sets?).getLast? := by
  -- Along the list, the value is the last one set, or else the one it had.
  have along : ∀ state, value? (facts.foldl world.offer state) =
      (facts.filterMap fun fact => (world.lexicon.read? fact).bind sets?).getLast?.or
        (value? state) := by
    induction facts with
    | nil => intro state; rfl
    | cons fact facts ih =>
      intro state
      have step : value? (world.offer state fact) =
          ((world.lexicon.read? fact).bind sets?).or (value? state) := by
        rw [offer_eq]
        cases world.lexicon.read? fact with
        | none => rfl
        | some record => exact note state record
      rw [List.foldl_cons, ih, step, ← Option.or_assoc]
      congr 1
      rw [List.filterMap_cons]
      cases (world.lexicon.read? fact).bind sets? with
      | none => exact Option.or_none
      | some value =>
        rw [List.getLast?_cons]
        cases (facts.filterMap fun fact => (world.lexicon.read? fact).bind sets?).getLast? <;> rfl
  rw [offerAll, along, fresh, Option.or_none]

/-- Where noting a record makes just that one known, and nothing is known at first, the records of
the facts are known in the end, in whatever order they came. -/
theorem knows_offerAll {Knows : world.State → world.Record → Prop}
    (fresh : ∀ record, ¬ Knows world.fresh record)
    (note : ∀ state record other,
      Knows (world.note state record) other ↔ record = other ∨ Knows state other)
    (facts : List Fact) (record : world.Record) :
    Knows (world.offerAll facts) record ↔
      ∃ fact ∈ facts, world.lexicon.read? fact = some record := by
  have marked := @marked_offerAll world (fun state => Knows state record) (· = record)
    (fresh record) (fun state other => note state other record) facts
  simpa only [exists_eq_right] using marked

/-- The same facts in another order, or given more often, make the same records known. -/
theorem knows_congr {Knows : world.State → world.Record → Prop}
    (fresh : ∀ record, ¬ Knows world.fresh record)
    (note : ∀ state record other,
      Knows (world.note state record) other ↔ record = other ∨ Knows state other)
    {facts other : List Fact} (same : ∀ fact, fact ∈ facts ↔ fact ∈ other)
    (record : world.Record) :
    Knows (world.offerAll facts) record ↔ Knows (world.offerAll other) record := by
  rw [knows_offerAll fresh note, knows_offerAll fresh note]
  simp only [same]

end World

theorem Puzzle.usesTimeline_iff (puzzle : Puzzle) :
    puzzle.world.usesTimeline = true ↔ puzzle ≠ .dependencyHell := by
  cases puzzle <;> decide

namespace Review

variable {world : World}

/-- A review is one of readable facts, and where the world has a timeline, of facts that make a
plan. -/
theorem ofSolution_eq_ok {solution : List String} {review : Review world}
    (ok : ofSolution world solution = .ok review) : ∃ facts built?,
      Fact.readAll solution = .ok facts ∧ buildFor world facts = .ok built? ∧
        review = assemble world facts built? := by
  unfold ofSolution at ok
  split at ok
  · cases ok
  · rename_i facts read
    cases built : buildFor world facts with
    | error fault =>
      rw [built] at ok
      cases ok
    | ok built? =>
      rw [built] at ok
      cases ok
      exact ⟨facts, built?, read, built, rfl⟩

theorem buildFor_eq_ok {facts : List Fact} {built? : Option Built}
    (timed : world.usesTimeline = true) (ok : buildFor world facts = .ok built?) :
    ∃ built, Plan.build facts = .ok built ∧ built? = some built := by
  rw [buildFor, if_pos timed] at ok
  cases built : Plan.build facts with
  | error fault =>
    rw [built] at ok
    cases ok
  | ok plan =>
    rw [built] at ok
    cases ok
    exact ⟨plan, rfl, rfl⟩

theorem build_of_buildFor {facts : List Fact} {built? : Option Built}
    (ok : buildFor world facts = .ok built?) {built : Built} (known : built? = some built) :
    Plan.build facts = .ok built := by
  cases timed : world.usesTimeline with
  | true =>
    obtain ⟨made, ok, rfl⟩ := buildFor_eq_ok timed ok
    rwa [← Option.some.inj known]
  | false =>
    rw [buildFor, timed, known] at ok
    cases ok

theorem judge_eq_ok {puzzle : Puzzle} {solution : List String} {judged : Logged Verdict}
    (ok : puzzle.judge solution = .ok judged) : ∃ review,
      ofSolution puzzle.world solution = .ok review ∧ judged.value = review.verdict := by
  unfold Puzzle.judge at ok
  cases reviewed : ofSolution puzzle.world solution with
  | error fault =>
    rw [reviewed] at ok
    cases ok
  | ok review =>
    rw [reviewed] at ok
    cases ok
    exact ⟨review, rfl, rfl⟩

/-- Only what the world finds decides: the remarks on ignored facts are no errors. -/
theorem valid_iff (review : Review world) :
    review.verdict.valid = true ↔ ErrorFree review.findings := by
  have remark : ErrorFree (if review.ignored.isEmpty then []
      else [(Remark.ignored review.ignored.toList).diagnostic]) := by
    split <;> simp [ErrorFree, Remark.diagnostic, Diagnostic.warning, Diagnostic.isError]
  have split := errorFree_append review.findings _ |>.trans (and_iff_left remark)
  rw [← split]
  simp only [verdict, ErrorFree, Bool.not_eq_true', List.any_eq_false, Bool.not_eq_true]

end Review

end PlanReferee
