import PlanReferee.Proofs.Packages.Records

/-! The verdict on packages is plain constraint satisfaction. The window of a need starts as the
range of the versions at hand and is narrowed by each bound, so that of the versions at hand it
contains just those that all bounds admit. -/

namespace PlanReferee.Packages

open Std (ExtTreeSet)

/-! Changes. -/

theorem mem_delete (installed : ExtTreeSet Library) (libraries : List Library) (l : Library) :
    l ∈ (delete installed libraries).1 ↔ l ∈ installed ∧ l ∉ libraries := by
  induction libraries generalizing installed with
  | nil => simp [delete]
  | cons library more ih =>
    rw [delete]
    split
    · rw [ih, ExtTreeSet.mem_erase]
      grind
    · rename_i absent
      rw [ih]
      grind

theorem mem_install (installed : ExtTreeSet Library) (libraries : List Library) (l : Library) :
    l ∈ (install installed libraries).1 ↔ l ∈ installed ∨ l ∈ libraries := by
  induction libraries generalizing installed with
  | nil => simp [install]
  | cons library more ih =>
    rw [install]
    split
    · rw [ih]
      grind
    · rw [ih, ExtTreeSet.mem_insert]
      grind

theorem mem_change (state : State) (l : Library) :
    l ∈ state.change.1 ↔
      l ∈ state.installed ∧ l ∉ state.shouldDelete ∨ l ∈ state.shouldInstall := by
  simp only [State.change, mem_install, mem_delete, ExtTreeSet.mem_toList]

theorem nodup_toList (libraries : ExtTreeSet Library) : libraries.toList.Nodup :=
  libraries.distinct_toList.imp fun h => by rwa [Ne, ← Std.compare_eq_iff_eq]

theorem findings_delete {installed : ExtTreeSet Library} {libraries : List Library}
    (distinct : libraries.Nodup) : (delete installed libraries).2 =
      (libraries.filter fun l => l ∉ installed).map .notInstalled := by
  induction libraries generalizing installed with
  | nil => rfl
  | cons library more ih =>
    obtain ⟨unlisted, distinct⟩ := List.nodup_cons.mp distinct
    by_cases there : library ∈ installed
    · -- No other listed library is erased with this one, as it is not listed again.
      have rest : ∀ l ∈ more, (l ∈ installed.erase library ↔ l ∈ installed) := by
        intro l listed
        have apart : library ≠ l := fun same => unlisted (same ▸ listed)
        rw [ExtTreeSet.mem_erase, Ne, Std.compare_eq_iff_eq]
        exact and_iff_right apart
      rw [delete, if_pos there, ih distinct, List.filter_cons_of_neg (by simpa using there)]
      congr 1
      exact List.filter_congr fun l listed => by simp [rest l listed]
    · rw [delete, if_neg there, List.filter_cons_of_pos (by simpa using there), List.map_cons,
        ← ih distinct]

theorem findings_install {installed : ExtTreeSet Library} {libraries : List Library}
    (distinct : libraries.Nodup) : (install installed libraries).2 =
      (libraries.filter fun l => l ∈ installed).map .alreadyInstalled := by
  induction libraries generalizing installed with
  | nil => rfl
  | cons library more ih =>
    obtain ⟨unlisted, distinct⟩ := List.nodup_cons.mp distinct
    by_cases there : library ∈ installed
    · rw [install, if_pos there, List.filter_cons_of_pos (by simpa using there), List.map_cons,
        ← ih distinct]
    · -- What is installed now is not listed again, so that it is not repeated later.
      have rest : ∀ l ∈ more, (l ∈ installed.insert library ↔ l ∈ installed) := by
        intro l listed
        have apart : library ≠ l := fun same => unlisted (same ▸ listed)
        rw [ExtTreeSet.mem_insert, Std.compare_eq_iff_eq]
        exact or_iff_right apart
      rw [install, if_neg there, ih distinct, List.filter_cons_of_neg (by simpa using there)]
      congr 1
      exact List.filter_congr fun l listed => by simp [rest l listed]

theorem findings_change (state : State) : state.change.2 =
    (state.shouldDelete.toList.filter fun l => l ∉ state.installed).map .notInstalled ++
      (state.shouldInstall.toList.filter fun l =>
        l ∈ state.installed ∧ l ∉ state.shouldDelete).map .alreadyInstalled := by
  have again : state.shouldInstall.toList.filter (fun l =>
      l ∈ (delete state.installed state.shouldDelete.toList).1) =
        state.shouldInstall.toList.filter fun l =>
          l ∈ state.installed ∧ l ∉ state.shouldDelete := by
    simp only [mem_delete, ExtTreeSet.mem_toList]
  rw [← again, ← findings_delete (nodup_toList _), ← findings_install (nodup_toList _)]
  rfl

theorem change_errorFree (state : State) :
    ErrorFree (state.change.2.map Finding.diagnostic) ↔
      ∀ l ∈ state.shouldDelete, l ∈ state.installed := by
  have repeats : ∀ libraries : List Library,
      ErrorFree ((libraries.map .alreadyInstalled).map Finding.diagnostic) := by
    intro libraries d told
    rw [List.map_map] at told
    obtain ⟨library, _, rfl⟩ := List.mem_map.mp told
    rfl
  have refusals : ∀ libraries : List Library,
      ErrorFree ((libraries.map .notInstalled).map Finding.diagnostic) ↔ libraries = [] := by
    intro libraries
    cases libraries with
    | nil => exact iff_of_true (List.forall_mem_nil _) rfl
    | cons library more =>
      exact iff_of_false (fun free => Bool.noConfusion (free _ List.mem_cons_self))
        (List.cons_ne_nil library more)
  rw [findings_change, List.map_append, errorFree_append, refusals, and_iff_left (repeats _)]
  simp only [List.filter_eq_nil_iff, ExtTreeSet.mem_toList, decide_eq_true_eq, not_not]

/-! Windows. -/

theorem contains_narrow (window : Window) (bound : Bound) (v : Int) :
    (window.narrow bound.side bound.version).contains v =
      (window.contains v && bound.admits v) := by
  obtain ⟨program, library, side, w⟩ := bound
  cases side <;>
    simp only [Window.narrow, Window.contains, Bound.admits] <;>
    grind

theorem contains_foldl_narrow (window : Window) (bounds : List Bound) (v : Int) :
    (bounds.foldl (fun window bound => window.narrow bound.side bound.version) window).contains v =
      (window.contains v && bounds.all (·.admits v)) := by
  induction bounds generalizing window with
  | nil => simp
  | cons bound bounds ih =>
    rw [List.foldl_cons, ih, contains_narrow, List.all_cons, Bool.and_assoc]

theorem window?_eq_none_iff (state : State) (program library : String) (available : List Int) :
    state.window? program library available = none ↔ available = [] := by
  cases available <;> simp [State.window?]

/-- Of the versions at hand, a window contains those that every bound admits. -/
theorem contains_window {state : State} {program library : String} {available : List Int}
    {window : Window} (h : state.window? program library available = some window)
    {v : Int} (at_hand : v ∈ available) :
    window.contains v = (state.boundsOn program library).all (·.admits v) := by
  rw [State.window?] at h
  split at h
  · rename_i low high lowest highest
    have above : low ≤ v := (List.min?_eq_some_iff.mp lowest).2 v at_hand
    have below : v ≤ high := (List.max?_eq_some_iff.mp highest).2 v at_hand
    -- The range of the versions at hand excludes none of them, so only the bounds are left.
    rw [← Option.some.inj h, contains_foldl_narrow, Window.contains, decide_eq_true above,
      decide_eq_true below, Bool.and_self, Bool.true_and]
  · cases h

/-! Needs. -/

theorem mem_versionsOf (installed : ExtTreeSet Library) (name : String) (v : Int) :
    v ∈ versionsOf installed name ↔ (⟨name, v⟩ : Library) ∈ installed := by
  simp only [versionsOf, List.mem_map, List.mem_filter, ExtTreeSet.mem_toList, decide_eq_true_eq]
  constructor
  · rintro ⟨library, ⟨there, rfl⟩, rfl⟩
    exact there
  · exact fun there => ⟨⟨name, v⟩, ⟨there, rfl⟩, rfl⟩

theorem mem_needs (state : State) (program library : String) :
    library ∈ state.needs program ↔
      ∃ bound ∈ state.bounds, bound.program = program ∧ bound.library = library := by
  simp only [State.needs, ExtTreeSet.mem_ofList, List.contains_eq_mem, List.mem_map,
    List.mem_filter, ExtTreeSet.mem_toList, decide_eq_true_eq, and_assoc]

/-- What a program demands of a version of a library. -/
def State.Suits (state : State) (program library : String) (v : Int) : Prop :=
  ∀ bound ∈ state.bounds, bound.program = program → bound.library = library →
    bound.admits v = true

theorem all_boundsOn (state : State) (program library : String) (v : Int) :
    (state.boundsOn program library).all (·.admits v) = true ↔
      state.Suits program library v := by
  simp only [State.boundsOn, State.Suits, List.all_eq_true, List.mem_filter,
    ExtTreeSet.mem_toList, Bool.and_eq_true, decide_eq_true_eq, and_imp]

theorem checkNeed_errorFree (state : State) (installed : ExtTreeSet Library)
    (program library : String) :
    ErrorFree ((state.checkNeed installed program library).map Finding.diagnostic) ↔
      ∃ v, (⟨library, v⟩ : Library) ∈ installed ∧ state.Suits program library v := by
  cases h : state.window? program library (versionsOf installed library) with
  | none =>
    simp only [State.checkNeed, h]
    have empty := (window?_eq_none_iff ..).mp h
    refine iff_of_false (fun free => ?_) ?_
    · exact Bool.noConfusion (free _ List.mem_cons_self)
    · rintro ⟨v, there, _⟩
      rw [← mem_versionsOf, empty] at there
      exact List.not_mem_nil there
  | some window =>
    have found : (versionsOf installed library).any window.contains = true ↔
        ∃ v, (⟨library, v⟩ : Library) ∈ installed ∧ state.Suits program library v := by
      rw [List.any_eq_true]
      refine exists_congr fun v => ?_
      rw [← mem_versionsOf, ← all_boundsOn]
      exact and_congr_right fun at_hand => by rw [contains_window h at_hand]
    rw [← found]
    simp only [State.checkNeed, h]
    split
    · rename_i fits
      exact iff_of_true (List.forall_mem_nil _) fits
    · rename_i unfit
      exact iff_of_false (fun free => Bool.noConfusion (free _ List.mem_cons_self)) unfit

theorem verify_errorFree (state : State) :
    ErrorFree state.verify ↔
      (∀ l ∈ state.shouldDelete, l ∈ state.installed) ∧
      ∀ program ∈ state.wanted, ∀ library ∈ state.needs program,
        ∃ v, (⟨library, v⟩ : Library) ∈ state.change.1 ∧ state.Suits program library v := by
  simp only [State.verify, State.check, List.map_append, errorFree_append, change_errorFree,
    List.map_flatMap, errorFree_flatMap, checkNeed_errorFree, ExtTreeSet.mem_toList]

/-! Solutions. -/

/-- Some fact states a record. -/
def Claimed (facts : List Fact) (record : Record) : Prop := ∃ fact ∈ facts, States fact record

/-- A library is there after the deletions and the installations. -/
def Provided (facts : List Fact) (library : Library) : Prop :=
  Claimed facts (.installed library) ∧ ¬ Claimed facts (.shouldDelete library) ∨
    Claimed facts (.shouldInstall library)

/-- Only what is installed is deleted, and for each library on which a wanted program has a bound,
some version that is there in the end satisfies all bounds of the program on it. -/
structure Solved (facts : List Fact) : Prop where
  deletions : ∀ library, Claimed facts (.shouldDelete library) → Claimed facts (.installed library)
  needs : ∀ program library side w, Claimed facts (.wants program) →
    Claimed facts (.bound ⟨program, library, side, w⟩) →
      ∃ v, Provided facts ⟨library, v⟩ ∧
        (∀ w, Claimed facts (.bound ⟨program, library, .lower, w⟩) → w ≤ v) ∧
        ∀ w, Claimed facts (.bound ⟨program, library, .upper, w⟩) → v ≤ w

theorem suits_iff {facts : List Fact} {state : State}
    (knows : ∀ record, state.Knows record ↔ Claimed facts record) (program library : String)
    (v : Int) : state.Suits program library v ↔
      (∀ w, Claimed facts (.bound ⟨program, library, .lower, w⟩) → w ≤ v) ∧
        ∀ w, Claimed facts (.bound ⟨program, library, .upper, w⟩) → v ≤ w := by
  simp only [← knows, State.Knows]
  constructor
  · intro suits
    exact ⟨fun w h => of_decide_eq_true (suits _ h rfl rfl),
      fun w h => of_decide_eq_true (suits _ h rfl rfl)⟩
  · rintro ⟨above, below⟩ ⟨_, _, side, w⟩ h rfl rfl
    cases side with
    | lower => exact decide_eq_true (above w h)
    | upper => exact decide_eq_true (below w h)

theorem verify_iff_solved {facts : List Fact} {state : State}
    (knows : ∀ record, state.Knows record ↔ Claimed facts record) :
    ErrorFree state.verify ↔ Solved facts := by
  have deletions : (∀ l ∈ state.shouldDelete, l ∈ state.installed) ↔
      ∀ l, Claimed facts (.shouldDelete l) → Claimed facts (.installed l) := by
    simp only [← knows, State.Knows]
  have provided : ∀ l, l ∈ state.change.1 ↔ Provided facts l := by
    simp only [mem_change, Provided, ← knows, State.Knows, implies_true]
  rw [verify_errorFree, deletions]
  constructor
  · rintro ⟨deleted, needed⟩
    refine ⟨deleted, fun program library side w wanted bound => ?_⟩
    have named := (mem_needs state program library).mpr
      ⟨_, (knows (.bound ⟨program, library, side, w⟩)).mpr bound, rfl, rfl⟩
    obtain ⟨v, there, suits⟩ := needed program ((knows (.wants program)).mpr wanted) library named
    exact ⟨v, (provided _).mp there, (suits_iff knows program library v).mp suits⟩
  · rintro ⟨deleted, needed⟩
    refine ⟨deleted, fun program wanted library named => ?_⟩
    obtain ⟨⟨_, _, side, w⟩, bound, rfl, rfl⟩ := (mem_needs state program library).mp named
    obtain ⟨v, there, bounds⟩ := needed _ _ side w ((knows (.wants _)).mp wanted)
      ((knows (.bound _)).mp bound)
    exact ⟨v, (provided _).mpr there, (suits_iff knows _ _ v).mpr bounds⟩

theorem judge_valid_iff_solved (solution : List String) (facts : List Fact)
    (read : Fact.readAll solution = .ok facts) :
    ∃ judged, Puzzle.dependencyHell.judge solution = .ok judged ∧
      (judged.value.valid = true ↔ Solved facts) := by
  have reviewed : Review.ofSolution world solution = .ok (.assemble world facts none) := by
    rw [Review.ofSolution, read]
    rfl
  have offered : Review.offered none facts = facts := by
    simp [Review.offered, Review.consumed]
  have state : (Review.assemble world facts none).state = world.offerAll facts := by
    rw [Review.assemble, offered]
  have findings : (Review.assemble world facts none).findings =
      State.verify (world.offerAll facts) := congrArg State.verify state
  have valid : (Review.assemble world facts none).verdict.valid = true ↔ Solved facts := by
    rw [Review.valid_iff, findings]
    exact verify_iff_solved (knows_facts facts)
  exact ⟨_, congrArg (Except.map _) reviewed, valid⟩

/-- One library is replaced by a version that fits both bounds on it. -/
theorem judge_replacement : ∃ judged,
    Puzzle.dependencyHell.judge ["installed(ssl,1)", "shouldDelete(ssl,1)", "shouldInstall(ssl,3)",
      "requiresAtLeast(web,ssl,2)", "requiresAtMost(web,ssl,3)", "wants(web)"] = .ok judged ∧
      (judged.value.valid = true ↔
        Solved [⟨"installed(ssl,1)", "installed", "ssl,1"⟩,
          ⟨"shouldDelete(ssl,1)", "shouldDelete", "ssl,1"⟩,
          ⟨"shouldInstall(ssl,3)", "shouldInstall", "ssl,3"⟩,
          ⟨"requiresAtLeast(web,ssl,2)", "requiresAtLeast", "web,ssl,2"⟩,
          ⟨"requiresAtMost(web,ssl,3)", "requiresAtMost", "web,ssl,3"⟩,
          ⟨"wants(web)", "wants", "web"⟩]) :=
  judge_valid_iff_solved _ _ (by decide +kernel)

end PlanReferee.Packages
