import PlanReferee.Proofs.Packages.Satisfaction
import PlanReferee.Proofs.Padding

/-! One fact more. A library that is there or is to be installed never spoils a solution, and a wish,
a bound or a deletion never mends a failure: whatever range the versions at hand span, the version
that meets a need goes on meeting it when more is supplied and less is demanded. -/

namespace PlanReferee.Packages

/-- The record brings a library. -/
def Record.supplies : Record → Bool
  | .installed _ | .shouldInstall _ => true
  | _ => false

/-- The record asks for something. -/
def Record.demands : Record → Bool
  | .wants _ | .bound _ | .shouldDelete _ => true
  | _ => false

/-- Other facts supply all that these do, and demand nothing else. -/
structure Eases (facts other : List Fact) : Prop where
  supplied : ∀ record, record.supplies = true → Claimed facts record → Claimed other record
  demanded : ∀ record, record.demands = true → Claimed other record → Claimed facts record

namespace Eases

variable {facts other : List Fact}

theorem provided (eases : Eases facts other) {library : Library}
    (provided : Provided facts library) : Provided other library := by
  rcases provided with ⟨installed, kept⟩ | added
  · exact .inl ⟨eases.supplied _ rfl installed,
      fun deleted => kept (eases.demanded _ rfl deleted)⟩
  · exact .inr (eases.supplied _ rfl added)

/-- The version that meets a need still meets it, as no bound on it is new. -/
theorem solved (eases : Eases facts other) (solved : Solved facts) : Solved other where
  deletions library deleted :=
    eases.supplied _ rfl (solved.deletions library (eases.demanded _ rfl deleted))
  needs program library side w wanted bound := by
    obtain ⟨v, there, above, below⟩ := solved.needs program library side w
      (eases.demanded _ rfl wanted) (eases.demanded _ rfl bound)
    exact ⟨v, eases.provided there, fun w h => above w (eases.demanded _ rfl h),
      fun w h => below w (eases.demanded _ rfl h)⟩

end Eases

/-! One fact. -/

theorem supplies_iff_name {fact : Fact} {record : Record} (states : States fact record) :
    record.supplies = true ↔ fact.name ∈ ["installed", "shouldInstall"] := by
  cases record with
  | bound bound =>
    obtain ⟨program, library, side, v⟩ := bound
    cases side <;> rw [states.1] <;> simp [Record.supplies]
  | _ => rw [states.1]; simp [Record.supplies]

theorem demands_iff_name {fact : Fact} {record : Record} (states : States fact record) :
    record.demands = true ↔
      fact.name ∈ ["wants", "requiresAtLeast", "requiresAtMost", "shouldDelete"] := by
  cases record with
  | bound bound =>
    obtain ⟨program, library, side, v⟩ := bound
    cases side <;> rw [states.1] <;> simp [Record.demands]
  | _ => rw [states.1]; simp [Record.demands]

section Padding

variable {fact : Fact} {facts padded : List Fact}

theorem claimed_padded (padding : Padded fact facts padded) (added : fact ∈ padded)
    (record : Record) : Claimed padded record ↔ Claimed facts record ∨ States fact record := by
  simp only [Claimed, padding.mem_iff added, or_and_right, exists_or, exists_eq_left]

theorem eases_of_supply (padding : Padded fact facts padded) (added : fact ∈ padded)
    (supply : fact.name ∈ ["installed", "shouldInstall"]) : Eases facts padded where
  supplied record _ claimed := (claimed_padded padding added record).mpr (.inl claimed)
  demanded record demand claimed := by
    refine ((claimed_padded padding added record).mp claimed).resolve_right fun states => ?_
    have supplied := (supplies_iff_name states).mpr supply
    cases record <;> cases supplied <;> cases demand

theorem eases_of_demand (padding : Padded fact facts padded) (added : fact ∈ padded)
    (demand : fact.name ∈ ["wants", "requiresAtLeast", "requiresAtMost", "shouldDelete"]) :
    Eases padded facts where
  supplied record supply claimed := by
    refine ((claimed_padded padding added record).mp claimed).resolve_right fun states => ?_
    have demanded := (demands_iff_name states).mpr demand
    cases record <;> cases demanded <;> cases supply
  demanded record _ claimed := (claimed_padded padding added record).mpr (.inl claimed)

end Padding

/-! Verdicts. -/

theorem judge_of_readAll {solution : List String} {facts : List Fact}
    (read : Fact.readAll solution = .ok facts) :
    ∃ judged, Puzzle.dependencyHell.judge solution = .ok judged ∧
      (judged.value.valid = true ↔ ErrorFree (State.verify (world.offerAll facts))) := by
  have reviewed : Review.ofSolution world solution = .ok (.assemble world facts none) := by
    rw [Review.ofSolution, read]
    rfl
  have offered : Review.offered none facts = facts := by
    simp [Review.offered, Review.consumed]
  have findings : (Review.assemble world facts none).findings =
      State.verify (world.offerAll facts) := by
    rw [Review.assemble, offered]
    rfl
  have valid := Review.valid_iff (Review.assemble world facts none)
  rw [findings] at valid
  exact ⟨_, congrArg (Except.map _) reviewed, valid⟩

/-- Putting in a fact that brings a library keeps a valid solution valid, and putting in one that asks
for something keeps an invalid one invalid, wherever and how often it is put in. -/
theorem judge_monotone {raw : String} {fact : Fact} (read : Fact.read? raw = some fact)
    {solution padded : List String} {facts : List Fact}
    (formed : Fact.readAll solution = .ok facts) (padding : Padded raw solution padded)
    (added : raw ∈ padded) :
    ∃ judged judged', Puzzle.dependencyHell.judge solution = .ok judged ∧
      Puzzle.dependencyHell.judge padded = .ok judged' ∧
      (fact.name ∈ ["installed", "shouldInstall"] →
        judged.value.valid = true → judged'.value.valid = true) ∧
      (fact.name ∈ ["wants", "requiresAtLeast", "requiresAtMost", "shouldDelete"] →
        judged.value.valid = false → judged'.value.valid = false) := by
  rcases Review.readAll_padded read padding with ⟨_, failed, _⟩ | ⟨all, all'⟩
  · cases formed.symm.trans failed
  have padding' := padding.read read
  have added' : fact ∈ padded.filterMap Fact.read? := List.mem_filterMap.mpr ⟨raw, added, read⟩
  obtain ⟨judged, ok, valid⟩ := judge_of_readAll all
  obtain ⟨judged', ok', valid'⟩ := judge_of_readAll all'
  rw [verify_iff_solved (knows_facts _)] at valid valid'
  refine ⟨judged, judged', ok, ok', fun supply => ?_, fun demand => ?_⟩
  · rw [valid, valid']
    exact (eases_of_supply padding' added' supply).solved
  · rw [← Bool.not_eq_true, ← Bool.not_eq_true, valid, valid']
    exact mt (eases_of_demand padding' added' demand).solved

def served : List String := ["installed(ssl,2)", "wants(web)", "requiresAtLeast(web,ssl,2)"]

def starved : List String := ["installed(ssl,1)", "wants(web)", "requiresAtLeast(web,ssl,2)"]

/-- An older version widens the range at hand and spoils nothing; the deletion of a version that is too
old mends nothing. -/
theorem judge_monotone_served :
    (∃ judged judged', Puzzle.dependencyHell.judge served = .ok judged ∧
      Puzzle.dependencyHell.judge (served ++ ["installed(ssl,1)"]) = .ok judged' ∧
      judged.value.valid = true ∧ judged'.value.valid = true) ∧
    ∃ judged judged', Puzzle.dependencyHell.judge starved = .ok judged ∧
      Puzzle.dependencyHell.judge ("shouldDelete(ssl,1)" :: starved) = .ok judged' ∧
      judged.value.valid = false ∧ judged'.value.valid = false := by
  have valid : (Puzzle.dependencyHell.judge served).map (·.value.valid) = .ok true := by
    decide +kernel
  have invalid : (Puzzle.dependencyHell.judge starved).map (·.value.valid) = .ok false := by
    decide +kernel
  constructor
  · have read : Fact.read? "installed(ssl,1)" =
        some ⟨"installed(ssl,1)", "installed", "ssl,1"⟩ := by decide +kernel
    have formed : Fact.readAll served = .ok (served.filterMap Fact.read?) := by decide +kernel
    have padding : Padded "installed(ssl,1)" served (served ++ ["installed(ssl,1)"]) :=
      .keep _ (.keep _ (.keep _ (.insert .nil)))
    obtain ⟨judged, judged', ok, ok', keeps, _⟩ := judge_monotone read formed padding (by decide)
    rw [ok] at valid
    have valid := Except.ok.inj valid
    exact ⟨judged, judged', ok, ok', valid, keeps (by decide) valid⟩
  · have read : Fact.read? "shouldDelete(ssl,1)" =
        some ⟨"shouldDelete(ssl,1)", "shouldDelete", "ssl,1"⟩ := by decide +kernel
    have formed : Fact.readAll starved = .ok (starved.filterMap Fact.read?) := by decide +kernel
    have padding : Padded "shouldDelete(ssl,1)" starved ("shouldDelete(ssl,1)" :: starved) :=
      .insert (.keep _ (.keep _ (.keep _ .nil)))
    obtain ⟨judged, judged', ok, ok', _, keeps⟩ := judge_monotone read formed padding (by decide)
    rw [ok] at invalid
    have invalid := Except.ok.inj invalid
    exact ⟨judged, judged', ok, ok', invalid, keeps (by decide) invalid⟩

end PlanReferee.Packages
