import PlanReferee.Proofs.Blocks.Stacks

/-! Whether the order of moves matters. Moves of different blocks can be exchanged, so that only
moves of one block to two places leave it to their order where the block ends. The checks of a step
compare targets and not sources, and let two arms tear at one block. -/

namespace PlanReferee.Blocks

open Std (ExtTreeMap)

/-- The moves lead to one stacking, in whatever order they are made. -/
def Orderless (on : Stacking) (ms : List Move) : Prop :=
  ∀ order : List Move, order.Perm ms → apply on order = apply on ms

/-- No block is taken twice in a step. -/
def TakenOnce (step : Step) : Prop :=
  ∀ arm action m arm' action' m', step.Has arm action → Reads action m →
    step.Has arm' action' → Reads action' m' → m.source = m'.source →
      arm = arm' ∧ action = action'

/-! Any moves. -/

theorem insert_exchange (on : Stacking) {m m' : Move} (apart : m.source = m'.source → m = m') :
    (on.insert m.source m.target).insert m'.source m'.target =
      (on.insert m'.source m'.target).insert m.source m.target := by
  by_cases same : m.source = m'.source
  · rw [apart same]
  · refine ExtTreeMap.ext_getElem? fun block => ?_
    simp only [ExtTreeMap.getElem?_insert, Std.compare_eq_iff_eq]
    by_cases taken : m.source = block
    · have other : m'.source ≠ block := fun h => same (taken.trans h.symm)
      rw [if_neg other, if_pos taken, if_pos taken]
    · rw [if_neg taken, if_neg taken]

/-- A block is where its move puts it when that move comes last. -/
theorem target_of_orderless {on : Stacking} {ms : List Move} (orderless : Orderless on ms)
    {m : Move} (listed : m ∈ ms) : (apply on ms)[m.source]? = some m.target := by
  have last : (ms.erase m ++ [m]).Perm ms :=
    List.perm_append_comm.trans (List.perm_cons_erase listed).symm
  have finish : apply on (ms.erase m ++ [m]) =
      (apply on (ms.erase m)).insert m.source m.target := apply_append on _ _
  rw [← orderless _ last, finish, ExtTreeMap.getElem?_insert_self]

theorem orderless_iff (on : Stacking) (ms : List Move) :
    Orderless on ms ↔ ∀ m ∈ ms, ∀ m' ∈ ms, m.source = m'.source → m = m' := by
  constructor
  · intro orderless m listed m' listed' same
    have target := target_of_orderless orderless listed
    rw [same, target_of_orderless orderless listed', Option.some.injEq] at target
    cases m
    cases m'
    simp_all
  · intro apart order perm
    refine perm.foldl_eq' (fun m listed m' listed' on => ?_) on
    exact insert_exchange on (apart m (perm.subset listed) m' (perm.subset listed'))

/-! Steps without errors. -/

theorem safeStep_of_errorFree {t : Time} {on : Stacking} {step : Step}
    (free : ErrorFree ((stepFindings t on step).map Finding.diagnostic)) : SafeStep on step := by
  rw [← moveFindings_eq_nil_iff t, ← stepFindings_errors]
  refine List.filter_eq_nil_iff.mpr fun finding listed => ?_
  exact Bool.eq_false_iff.mp (free _ (List.mem_map_of_mem listed))

/-- If a step has no errors, then the order of its moves does not matter just if it takes no block
twice. -/
theorem orderless_iff_takenOnce (t : Time) (on : Stacking) (step : Step)
    (free : ErrorFree ((stepFindings t on step).map Finding.diagnostic)) :
    Orderless on (moves step) ↔ TakenOnce step := by
  have apart := (safeStep_of_errorFree free).apart
  rw [orderless_iff]
  constructor
  · intro one arm action m arm' action' m' has reads has' reads' same
    have equal : m = m' := one m ((mem_moves step m).mpr ⟨arm, action, has, reads⟩)
      m' ((mem_moves step m').mpr ⟨arm', action', has', reads'⟩) same
    exact apart arm action m arm' action' m' has reads has' reads' (congrArg Move.target equal)
  · intro once m listed m' listed' same
    obtain ⟨arm, action, has, reads⟩ := (mem_moves step m).mp listed
    obtain ⟨arm', action', has', reads'⟩ := (mem_moves step m').mp listed'
    obtain ⟨_, rfl⟩ := once arm action m arm' action' m' has reads has' reads' same
    exact reads_unique reads reads'

theorem leapfrog_moves : moves (leapfrog.timeline.getD 0 ∅) = [⟨"a", "c"⟩, ⟨"c", "d"⟩] := by
  decide +kernel

theorem orderless_leapfrog :
    ErrorFree ((stepFindings 0 (initial leapfrog) (leapfrog.timeline.getD 0 ∅)).map
      Finding.diagnostic) ∧
      Orderless (initial leapfrog) (moves (leapfrog.timeline.getD 0 ∅)) ∧
      TakenOnce (leapfrog.timeline.getD 0 ∅) := by
  have free : ErrorFree ((stepFindings 0 (initial leapfrog) (leapfrog.timeline.getD 0 ∅)).map
      Finding.diagnostic) := by
    unfold ErrorFree
    decide +kernel
  have orderless : Orderless (initial leapfrog) (moves (leapfrog.timeline.getD 0 ∅)) := by
    rw [orderless_iff, leapfrog_moves]
    decide
  exact ⟨free, orderless, (orderless_iff_takenOnce _ _ _ free).mp orderless⟩

/-- Two arms take one block, each to a place of its own. -/
def tornBlock (first second : Agent) : Plan := Plan.outline
  [.agent first, .agent second, .time 0, .start "on(a,table)", .goal "on(a,b)",
    .exec 0 (some first) ⟨"move", "a,b"⟩, .exec 0 (some second) ⟨"move", "a,c"⟩]

theorem tornBlock_moves : moves ((tornBlock ⟨"r1"⟩ ⟨"r2"⟩).timeline.getD 0 ∅) =
    [⟨"a", "b"⟩, ⟨"a", "c"⟩] := by
  decide +kernel

/-- No error is found, and yet the order of the moves decides where the block ends, and so does which
arm makes which of them. -/
theorem tornBlock_not_orderless :
    ErrorFree ((stepFindings 0 (initial (tornBlock ⟨"r1"⟩ ⟨"r2"⟩))
      ((tornBlock ⟨"r1"⟩ ⟨"r2"⟩).timeline.getD 0 ∅)).map Finding.diagnostic) ∧
    ¬ Orderless (initial (tornBlock ⟨"r1"⟩ ⟨"r2"⟩))
      (moves ((tornBlock ⟨"r1"⟩ ⟨"r2"⟩).timeline.getD 0 ∅)) ∧
    ErrorFree (verify (tornBlock ⟨"r1"⟩ ⟨"r2"⟩)) ∧
    (stackingAt (tornBlock ⟨"r1"⟩ ⟨"r2"⟩) 0)["a"]? = some "c" ∧
    ErrorFree (verify (tornBlock ⟨"r2"⟩ ⟨"r1"⟩)) ∧
    (stackingAt (tornBlock ⟨"r2"⟩ ⟨"r1"⟩) 0)["a"]? = some "b" := by
  refine ⟨?_, ?_, ?_, by decide +kernel, ?_, by decide +kernel⟩
  · unfold ErrorFree
    decide +kernel
  · rw [orderless_iff, tornBlock_moves]
    decide
  · unfold ErrorFree
    decide +kernel
  · unfold ErrorFree
    decide +kernel

end PlanReferee.Blocks
