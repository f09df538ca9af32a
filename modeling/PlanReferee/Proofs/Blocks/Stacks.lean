import Mathlib.Data.Fintype.Card
import Mathlib.Data.Set.Finite.List
import PlanReferee.Plan.Build
import PlanReferee.Proofs.Blocks.Runs

/-! Stacks under replays without errors. No two blocks ever share a support, since the place where a
block lands was clear and has no other claimant. Stacks may lose their ground, though: the checks
see one move at a time, so that moves alone can close a circle or lift the table. Those moves of a
single step are the only way. -/

namespace PlanReferee.Blocks

open Std (ExtTreeMap)

/-! Supports. -/

/-- Only the table has more than one block on it. -/
def Exclusive (on : Stacking) : Prop :=
  ∀ block other support : String, on[block]? = some support → on[other]? = some support →
    support ≠ table → block = other

theorem not_rests_of_landing {on : Stacking} {step : Step} (safe : SafeStep on step)
    {block support : String} (moved : (landing (moves step))[block]? = some support)
    (other : String) (bounded : support ≠ table) : on[other]? ≠ some support := by
  obtain ⟨arm, action, has, reads⟩ := (mem_moves step _).mp (mem_of_landing moved)
  exact (safe.targets arm action _ has reads).resolve_left bounded other

theorem eq_of_landing {on : Stacking} {step : Step} (safe : SafeStep on step)
    {block other support : String} (moved : (landing (moves step))[block]? = some support)
    (moved' : (landing (moves step))[other]? = some support) : block = other := by
  obtain ⟨arm, action, has, reads⟩ := (mem_moves step _).mp (mem_of_landing moved)
  obtain ⟨arm', action', has', reads'⟩ := (mem_moves step _).mp (mem_of_landing moved')
  obtain ⟨_, same⟩ := safe.apart arm action _ arm' action' _ has reads has' reads' rfl
  have move := reads_unique reads (same ▸ reads')
  exact (Move.mk.inj move).1

theorem SafeStep.exclusive {on : Stacking} {step : Step} (safe : SafeStep on step)
    (before : Exclusive on) : Exclusive (apply on (moves step)) := by
  intro block other support hb ho bounded
  rw [getElem?_apply, Option.or_eq_some_iff] at hb ho
  -- A block that was moved and one that was not cannot meet, as the target was clear.
  rcases hb with moved | ⟨_, stayed⟩ <;> rcases ho with moved' | ⟨_, stayed'⟩
  · exact eq_of_landing safe moved moved'
  · exact absurd stayed' (not_rests_of_landing safe moved other bounded)
  · exact absurd stayed (not_rests_of_landing safe moved' block bounded)
  · exact before block other support stayed stayed' bounded

/-- If no error is found and only the table had more than one block on it, then that is so after
every step and in the end. -/
theorem exclusive_of_errorFree (plan : Plan) (start : Exclusive (initial plan))
    (free : ErrorFree (verify plan)) :
    (∀ t ∈ plan.timeline, Exclusive (stackingAt plan t)) ∧ Exclusive (replay plan).on := by
  have keeps : ∀ (t : Time) (step : Step) (on : Stacking), plan.timeline[t]? = some step →
      SafeStep on step → Exclusive on → Exclusive (apply on (moves step)) :=
    fun _ _ _ _ safe before => safe.exclusive before
  constructor
  · intro t stored
    exact stackingAt_of_errorFree free start keeps stored
  · rw [replay, on_replaySteps]
    exact run_of_errorFree free start keeps (List.append_nil plan.steps).symm

/-- One block lands on another while that leaves for a third place, and goes back in the next step. -/
def leapfrog : Plan := Plan.outline
  [.agent ⟨"r1"⟩, .agent ⟨"r2"⟩, .start "on(a,table)", .start "on(c,table)", .goal "on(a,c)",
    .exec 0 (some ⟨"r1"⟩) ⟨"move", "a,c"⟩, .exec 0 (some ⟨"r2"⟩) ⟨"move", "c,d"⟩,
    .exec 1 (some ⟨"r1"⟩) ⟨"move", "a,table"⟩]

theorem leapfrog_start : (initial leapfrog).toList = [("a", table), ("c", table)] := by
  decide +kernel

theorem leapfrog_errorFree : ErrorFree (verify leapfrog) := by
  unfold ErrorFree
  decide +kernel

theorem exclusive_leapfrog : Exclusive (initial leapfrog) ∧ ErrorFree (verify leapfrog) ∧
    (∀ t ∈ leapfrog.timeline, Exclusive (stackingAt leapfrog t)) ∧
      Exclusive (replay leapfrog).on := by
  have start : Exclusive (initial leapfrog) := by
    intro block other support hb _ bounded
    rw [← ExtTreeMap.mem_toList_iff_getElem?_eq_some, leapfrog_start] at hb
    have grounded : support = table := by
      rcases List.mem_pair.mp hb with h | h <;> exact (Prod.mk.inj h).2
    exact absurd grounded bounded
  exact ⟨start, leapfrog_errorFree, exclusive_of_errorFree leapfrog start leapfrog_errorFree⟩

/-! Towers. -/

def LiesOn (on : Stacking) (block support : String) : Prop := on[block]? = some support

/-- The table lies on nothing, and no block is above itself. -/
structure Grounded (on : Stacking) : Prop where
  base : on[table]? = none
  acyclic : ∀ block, ¬ Relation.TransGen (LiesOn on) block block

/-- Below every block there is something that lies on nothing. -/
def Based (on : Stacking) : Prop :=
  ∀ block, ∃ base, Relation.ReflTransGen (LiesOn on) block base ∧ on[base]? = none

/-- There are only so many blocks, so that without a circle every way down ends. -/
theorem Grounded.wellFounded {on : Stacking} (grounded : Grounded on) :
    WellFounded fun support block : { block // block ∈ on } => LiesOn on block support := by
  let below (lower upper : { block // block ∈ on }) : Prop :=
    Relation.TransGen (LiesOn on) upper.val lower.val
  have finite : Finite { block // block ∈ on } := by
    refine (List.finite_toSet on.keys).subset (t := { block | block ∈ on }) ?_ |>.to_subtype
    exact fun block known => ExtTreeMap.mem_keys.mpr known
  have transitive : IsTrans _ below := ⟨fun _ _ _ h h' => h'.trans h⟩
  have irreflexive : Std.Irrefl below := ⟨fun block => grounded.acyclic block.val⟩
  have wellFounded : WellFounded below := Finite.wellFounded_of_trans_of_irrefl below
  exact Subrelation.wf (fun lies => .single lies) wellFounded

theorem Grounded.based {on : Stacking} (grounded : Grounded on) : Based on := by
  have listed : ∀ block : { block // block ∈ on },
      ∃ base, Relation.ReflTransGen (LiesOn on) block.val base ∧ on[base]? = none := by
    intro block
    induction block using grounded.wellFounded.induction with
    | _ block ih =>
      obtain ⟨support, lies⟩ := Option.isSome_iff_exists.mp
        (ExtTreeMap.mem_iff_isSome_getElem?.mp block.property)
      by_cases known : support ∈ on
      · obtain ⟨base, path, bare⟩ := ih ⟨support, known⟩ lies
        exact ⟨base, .head lies path, bare⟩
      · exact ⟨support, .single lies, ExtTreeMap.getElem?_eq_none known⟩
  intro block
  by_cases known : block ∈ on
  · exact listed ⟨block, known⟩
  · exact ⟨block, .refl, ExtTreeMap.getElem?_eq_none known⟩

theorem Grounded.mono {on more : Stacking} (part : ∀ block support, LiesOn on block support →
    LiesOn more block support) (grounded : Grounded more) : Grounded on where
  base := by
    cases h : on[table]? with
    | none => rfl
    | some support => exact absurd ((part table support h).symm.trans grounded.base) (by simp)
  acyclic block cycle := grounded.acyclic block (Relation.TransGen.mono part _ _ cycle)

/-- Heights that fall from each block to its support leave no room for a circle. -/
theorem grounded_of_height {on : Stacking} (base : on[table]? = none) (height : String → Nat)
    (falls : ∀ block support, on[block]? = some support → height support < height block) :
    Grounded on where
  base
  acyclic block cycle := by
    have lower : ∀ {support}, Relation.TransGen (LiesOn on) block support →
        height support < height block := by
      intro support path
      induction path with
      | single edge => exact falls _ _ edge
      | tail _ edge ih => exact Nat.lt_trans (falls _ _ edge) ih
    exact Nat.lt_irrefl _ (lower cycle)

theorem grounded_landing {ms : List Move} (height : String → Nat)
    (unlifted : ∀ m ∈ ms, m.source ≠ table)
    (falls : ∀ m ∈ ms, height m.target < height m.source) : Grounded (landing ms) := by
  refine grounded_of_height ?_ height fun block support h => falls _ (mem_of_landing h)
  cases h : (landing ms)[table]? with
  | none => rfl
  | some support => exact absurd rfl (unlifted _ (mem_of_landing h))

section Step

variable {on : Stacking} {step : Step}

/-- Below a block that stays there is none that is moved: it would not have been clear. -/
theorem stays_of_stays (safe : SafeStep on step) (own : Grounded (landing (moves step)))
    {block support : String} (stays : (landing (moves step))[block]? = none)
    (lies : LiesOn (apply on (moves step)) block support) :
    LiesOn on block support ∧ (landing (moves step))[support]? = none := by
  rw [LiesOn, getElem?_apply, stays, Option.none_or] at lies
  refine ⟨lies, ?_⟩
  cases moved : (landing (moves step))[support]? with
  | none => rfl
  | some target =>
    obtain ⟨arm, action, has, reads⟩ := (mem_moves step _).mp (mem_of_landing moved)
    rcases safe.sources arm action _ has reads with rfl | clear
    · exact moved.symm.trans own.base
    · exact absurd lies (clear block)

theorem path_of_stays (safe : SafeStep on step) (own : Grounded (landing (moves step)))
    {block support : String} (stays : (landing (moves step))[block]? = none)
    (path : Relation.TransGen (LiesOn (apply on (moves step))) block support) :
    Relation.TransGen (LiesOn on) block support ∧ (landing (moves step))[support]? = none := by
  induction path with
  | single edge =>
    obtain ⟨lies, stays⟩ := stays_of_stays safe own stays edge
    exact ⟨.single lies, stays⟩
  | tail _ edge ih =>
    obtain ⟨lies, stays⟩ := stays_of_stays safe own ih.2 edge
    exact ⟨.tail ih.1 lies, stays⟩

/-- A way down to a block that is moved is one of moves only. -/
theorem path_of_moved (safe : SafeStep on step) (own : Grounded (landing (moves step)))
    {block support : String} (moved : (landing (moves step))[support]? ≠ none)
    (path : Relation.TransGen (LiesOn (apply on (moves step))) block support) :
    Relation.TransGen (LiesOn (landing (moves step))) block support := by
  have lands : ∀ {upper lower}, LiesOn (apply on (moves step)) upper lower →
      (landing (moves step))[lower]? ≠ none → LiesOn (landing (moves step)) upper lower := by
    intro upper lower edge goes
    cases h : (landing (moves step))[upper]? with
    | none => exact absurd (stays_of_stays safe own h edge).2 goes
    | some place =>
      rw [LiesOn, getElem?_apply, h, Option.some_or] at edge
      exact h.trans edge
  induction path using Relation.TransGen.head_induction_on with
  | single edge => exact .single (lands edge moved)
  | head edge _ ih =>
    obtain ⟨place, lies, _⟩ := Relation.TransGen.head'_iff.mp ih
    exact .head (lands edge (by rw [lies]; exact Option.some_ne_none place)) ih

/-- A circle after a safe step was there before, or is one of its own moves. -/
theorem SafeStep.grounded (safe : SafeStep on step) (before : Grounded on)
    (own : Grounded (landing (moves step))) : Grounded (apply on (moves step)) where
  base := by rw [getElem?_apply, own.base, before.base, Option.or_none]
  acyclic block cycle := by
    by_cases stays : (landing (moves step))[block]? = none
    · exact before.acyclic block (path_of_stays safe own stays cycle).1
    · exact own.acyclic block (path_of_moved safe own stays cycle)

theorem landing_part (block support : String) (lies : LiesOn (landing (moves step)) block support) :
    LiesOn (apply on (moves step)) block support := by
  rw [LiesOn, getElem?_apply, lies, Option.some_or]

end Step

/-- If no error is found on a way that begins on good ground, then the stacks keep their ground just
if the moves of every single step, taken alone, neither lift the table nor close a circle. -/
theorem grounded_iff_landings (plan : Plan) (start : Grounded (initial plan))
    (free : ErrorFree (verify plan)) :
    (∀ t ∈ plan.timeline, Grounded (stackingAt plan t) ∧ Based (stackingAt plan t)) ↔
      ∀ (t : Time) (step : Step), plan.timeline[t]? = some step →
        Grounded (landing (moves step)) := by
  constructor
  · intro grounded t step stored
    have known : t ∈ plan.timeline := by
      rw [ExtTreeMap.mem_iff_isSome_getElem?, stored]
      rfl
    have after := (grounded t known).1
    rw [stackingAt_of_stored stored] at after
    exact after.mono landing_part
  · intro own t known
    have grounded : Grounded (stackingAt plan t) :=
      stackingAt_of_errorFree free start
        (fun t step _ stored safe before => safe.grounded before (own t step stored)) known
    exact ⟨grounded, grounded.based⟩

theorem grounded_leapfrog : Grounded (initial leapfrog) ∧ ErrorFree (verify leapfrog) ∧
    ∀ t ∈ leapfrog.timeline, Grounded (stackingAt leapfrog t) ∧ Based (stackingAt leapfrog t) := by
  let height (place : String) : Nat := if place = "a" then 2 else if place = "c" then 1 else 0
  have start : Grounded (initial leapfrog) := by
    refine grounded_of_height (by decide +kernel) height fun block support h => ?_
    rw [← ExtTreeMap.mem_toList_iff_getElem?_eq_some, leapfrog_start] at h
    rcases List.mem_pair.mp h with h | h <;> cases h <;> decide
  have steps : (leapfrog.steps.map fun entry => moves entry.2) =
      [[⟨"a", "c"⟩, ⟨"c", "d"⟩], [⟨"a", table⟩]] := by decide +kernel
  have own : ∀ (t : Time) (step : Step), leapfrog.timeline[t]? = some step →
      Grounded (landing (moves step)) := by
    intro t step stored
    have listed := List.mem_map_of_mem (f := fun entry => moves entry.2)
      ((leapfrog.mem_steps t step).mpr stored)
    rw [steps] at listed
    rcases List.mem_pair.mp listed with h | h <;> rw [h]
    · exact grounded_landing height (by decide) (by decide)
    · exact grounded_landing height (by decide) (by decide)
  exact ⟨start, leapfrog_errorFree,
    (grounded_iff_landings leapfrog start leapfrog_errorFree).mpr own⟩

/-- The table is put on a block that stands on it. -/
def liftedTable : Plan := Plan.outline
  [.time 0, .start "on(a,table)", .goal "on(a,b)", .exec 0 none ⟨"move", "table,a"⟩]

theorem liftedTable_not_grounded :
    Grounded (initial liftedTable) ∧ Exclusive (initial liftedTable) ∧
      ErrorFree (verify liftedTable) ∧ 0 ∈ liftedTable.timeline ∧
      (stackingAt liftedTable 0)[table]? = some "a" ∧
      Relation.TransGen (LiesOn (stackingAt liftedTable 0)) "a" "a" := by
  have start : (initial liftedTable).toList = [("a", table)] := by decide +kernel
  have rests : ∀ block support : String, (initial liftedTable)[block]? = some support →
      block = "a" ∧ support = table := by
    intro block support h
    rw [← ExtTreeMap.mem_toList_iff_getElem?_eq_some, start, List.mem_singleton] at h
    exact Prod.mk.inj h
  have falls : ∀ block support : String, (initial liftedTable)[block]? = some support →
      (if support = table then 0 else 1) < if block = table then 0 else 1 := by
    intro block support h
    obtain ⟨rfl, rfl⟩ := rests block support h
    decide
  have onTable : LiesOn (stackingAt liftedTable 0) "a" table := by
    unfold LiesOn
    decide +kernel
  have lifted : LiesOn (stackingAt liftedTable 0) table "a" := by
    unfold LiesOn
    decide +kernel
  refine ⟨grounded_of_height (by decide +kernel) _ falls, ?_, ?_, by decide +kernel, lifted,
    .tail (.single onTable) lifted⟩
  · intro block other support hb ho _
    exact (rests block support hb).1.trans (rests other support ho).1.symm
  · unfold ErrorFree
    decide +kernel

end PlanReferee.Blocks
