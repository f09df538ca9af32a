import PlanReferee.Proofs.Blocks.Runs
import PlanReferee.Proofs.Grammar

/-! Where blocks are. By any time a block is where the last of its moves has put it, safe or not; a
block that was not moved is where the start says last, and one that the start does not place either
is nowhere. Nothing but moves changes that. -/

namespace PlanReferee.Blocks

open Std (ExtTreeMap)

def IsWord (text : String) : Prop :=
  text.toList ≠ [] ∧ ∀ c ∈ text.toList, Text.isWordChar c = true

/-- The literal `on(block,support)`, of two words. -/
def Places (literal block support : String) : Prop :=
  literal = "on(" ++ block ++ "," ++ support ++ ")" ∧ IsWord block ∧ IsWord support

/-- The last of the start's literals on a block. -/
def StartsOn (plan : Plan) (block support : String) : Prop :=
  ∃ before literal after, plan.start = before ++ literal :: after ∧ Places literal block support ∧
    ∀ later ∈ after, ∀ other, ¬ Places later block other

/-- An order of a plan, up to some time, that moves a block to a place. -/
structure MovedBy (plan : Plan) (bound : Time) (block place : String)
    (order : Time × Agent × Action) : Prop where
  inTime : order.1 ≤ bound
  ordered : plan.Has order.1 order.2.1 order.2.2
  reads : Reads order.2.2 ⟨block, place⟩

/-- Where a block is when all steps up to a time are made, if it is anywhere. -/
inductive Rests (plan : Plan) (bound : Time) (block : String) : Option String → Prop where
  | moved {place : String} (order : Time × Agent × Action)
      (moved : MovedBy plan bound block place order)
      (last : ∀ place' order', MovedBy plan bound block place' order' →
        order' = order ∨ Plan.Before order' order) : Rests plan bound block (some place)
  | stayed {support : String} (unmoved : ∀ place order, ¬ MovedBy plan bound block place order)
      (starts : StartsOn plan block support) : Rests plan bound block (some support)
  | absent (unmoved : ∀ place order, ¬ MovedBy plan bound block place order)
      (unplaced : ∀ support, ¬ StartsOn plan block support) : Rests plan bound block none

/-! The start. -/

theorem read?_restsOn (fact : Fact) (block support : String) :
    restsOn.read? fact = some (block, support) ↔ fact.name = "on" ∧
      fact.args.toList = block.toList ++ ',' :: support.toList ∧ IsWord block ∧ IsWord support := by
  simp only [Entry.read?_eq_some_iff, restsOn, splitArgs?_cons, splitArgs?_singleton,
    Text.accepts_word_iff]
  refine and_congr_right fun _ => ⟨?_, ?_⟩
  · rintro ⟨_, ⟨first, second, _, split, _, letters, ⟨letters', rfl⟩, rfl⟩, h⟩
    cases h
    simp only [IsWord, String.toList_ofList]
    exact ⟨split, letters, letters'⟩
  · rintro ⟨split, word, word'⟩
    have comma : ',' ∉ block.toList := Text.not_mem_word word.2 (by decide +kernel)
    refine ⟨_, ⟨block.toList, support.toList, _, split, comma, word, ⟨word', rfl⟩, rfl⟩, ?_⟩
    simp only [List.map_cons, List.map_nil, String.ofList_toList]

theorem read?_places (literal block support : String) :
    (Fact.read? literal).bind restsOn.read? = some (block, support) ↔
      Places literal block support := by
  rw [restsOn.read?_text (by decide) (by decide)]
  simp only [read?_restsOn, Places]
  constructor
  · rintro ⟨args, text, _, _, split, word, word'⟩
    have args_eq : args = block ++ "," ++ support := by
      rw [← String.toList_inj]
      simp [split]
    refine ⟨?_, word, word'⟩
    rw [text, args_eq]
    simp [restsOn, String.append_assoc]
  · rintro ⟨text, word, word'⟩
    have plain : '\n' ∉ (block ++ "," ++ support).toList := by
      simp [Text.not_mem_word word.2 (c := '\n') (by decide +kernel),
        Text.not_mem_word word'.2 (c := '\n') (by decide +kernel)]
    refine ⟨block ++ "," ++ support, ?_, plain, rfl, ?_, word, word'⟩
    · rw [text]
      simp [restsOn, String.append_assoc]
    · simp

/-- Where a move puts a block, if it takes that block. -/
def targetOf (block : String) (m : Move) : Option String :=
  if m.source = block then some m.target else none

theorem targetOf_eq_some_iff (block place : String) (m : Move) :
    targetOf block m = some place ↔ m = ⟨block, place⟩ := by
  unfold targetOf
  cases m with
  | mk source target =>
    rw [Move.mk.injEq]
    split
    · rename_i same
      simp [show source = block from same]
    · rename_i other
      simp [show source ≠ block from other]

theorem getElem?_landing (ms : List Move) (block : String) :
    (landing ms)[block]? = (ms.filterMap (targetOf block)).getLast? := by
  -- The last move decides if it takes the block, and changes nothing here otherwise.
  induction ms using List.reverseRecOn with
  | nil => simp [landing, apply]
  | append_singleton front m ih =>
    have last : landing (front ++ [m]) = (landing front).insert m.source m.target := by
      rw [landing, apply_append]
      rfl
    rw [last, ExtTreeMap.getElem?_insert, ih, List.filterMap_append, List.getLast?_append]
    by_cases same : m.source = block
    · simp [targetOf, same]
    · simp [targetOf, same]

/-- The start is a stacking in which its literals have put the blocks in turn. -/
theorem initial_eq_landing (plan : Plan) :
    initial plan = landing (plan.start.filterMap fun literal =>
      ((Fact.read? literal).bind restsOn.read?).map fun pair => ⟨pair.1, pair.2⟩) := by
  rw [initial, ExtTreeMap.ofList_eq_foldl, landing, apply, ← List.map_filterMap, List.foldl_map]

theorem getElem?_initial (plan : Plan) (block support : String) :
    (initial plan)[block]? = some support ↔ StartsOn plan block support := by
  have placed : ∀ literal place, (((Fact.read? literal).bind restsOn.read?).map
      fun pair => (⟨pair.1, pair.2⟩ : Move)).bind (targetOf block) = some place ↔
        Places literal block place := by
    intro literal place
    rw [Option.bind_map, Option.bind_eq_some_iff, ← read?_places]
    constructor
    · rintro ⟨pair, read, target⟩
      cases (targetOf_eq_some_iff block place _).mp target
      exact read
    · exact fun read => ⟨_, read, (targetOf_eq_some_iff block place _).mpr rfl⟩
  have silent : ∀ literal, (((Fact.read? literal).bind restsOn.read?).map
      fun pair => (⟨pair.1, pair.2⟩ : Move)).bind (targetOf block) = none ↔
        ∀ other, ¬ Places literal block other := by
    intro literal
    simp only [Option.eq_none_iff_forall_ne_some, ne_eq, placed]
  rw [initial_eq_landing, getElem?_landing, List.filterMap_filterMap, getLast?_filterMap]
  simp only [placed, silent, StartsOn]

/-! The moves up to a time. -/

/-- What an order of a plan makes of a block. -/
def orderTarget (block : String) (order : Time × Agent × Action) : Option String :=
  (Deed.ofAction order.2.2).move?.bind (targetOf block)

theorem orderTarget_eq_some_iff (block place : String) (order : Time × Agent × Action) :
    orderTarget block order = some place ↔ Reads order.2.2 ⟨block, place⟩ := by
  simp only [orderTarget, Option.bind_eq_some_iff, move?_ofAction, targetOf_eq_some_iff,
    exists_eq_right]

/-- The orders of a plan up to a time. -/
def ordersBy (plan : Plan) (bound : Time) : List (Time × Agent × Action) :=
  plan.orders.filter fun order => order.1 ≤ bound

theorem movedBy_iff (plan : Plan) (bound : Time) (block place : String)
    (order : Time × Agent × Action) : MovedBy plan bound block place order ↔
      order ∈ ordersBy plan bound ∧ orderTarget block order = some place := by
  rw [ordersBy, List.mem_filter, decide_eq_true_eq, orderTarget_eq_some_iff, plan.mem_orders]
  exact ⟨fun moved => ⟨⟨moved.ordered, moved.inTime⟩, moved.reads⟩,
    fun ⟨⟨ordered, inTime⟩, reads⟩ => ⟨inTime, ordered, reads⟩⟩

theorem moves_upTo (plan : Plan) (bound : Time) :
    ((plan.steps.filter fun entry => entry.1 ≤ bound).flatMap fun entry => moves entry.2) =
      (ordersBy plan bound).filterMap fun order => (Deed.ofAction order.2.2).move? := by
  rw [ordersBy, Plan.orders, List.filter_flatMap, List.filterMap_flatMap, flatMap_filter]
  refine List.flatMap_congr fun entry _ => ?_
  rw [List.filter_map, List.filterMap_map]
  by_cases inTime : entry.1 ≤ bound
  · simp [moves, inTime, Function.comp_def]
  · simp [inTime, Function.comp_def]

theorem getElem?_stackingAt (plan : Plan) (bound : Time) (block : String) :
    (stackingAt plan bound)[block]? =
      ((ordersBy plan bound).filterMap (orderTarget block)).getLast?.or (initial plan)[block]? := by
  rw [stackingAt, on_replaySteps, getElem?_apply, getElem?_landing, moves_upTo,
    List.filterMap_filterMap]
  rfl

theorem lastTarget_eq_some_iff (plan : Plan) (bound : Time) (block place : String) :
    ((ordersBy plan bound).filterMap (orderTarget block)).getLast? = some place ↔
      ∃ order, MovedBy plan bound block place order ∧
        ∀ place' order', MovedBy plan bound block place' order' →
          order' = order ∨ Plan.Before order' order := by
  have ascending : (ordersBy plan bound).Pairwise Plan.Before := plan.orders_ascending.filter _
  rw [getLast?_filterMap_of_ascending Plan.before_asymm ascending]
  simp only [movedBy_iff, and_assoc, and_imp]
  refine exists_congr fun order => and_congr_right fun _ => and_congr_right fun _ => ?_
  constructor
  · intro last place' order' listed target
    exact last order' listed (by rw [target]; exact Option.some_ne_none place')
  · intro last order' listed goes
    obtain ⟨place', target⟩ := Option.ne_none_iff_exists'.mp goes
    exact last place' order' listed target

theorem lastTarget_eq_none_iff (plan : Plan) (bound : Time) (block : String) :
    ((ordersBy plan bound).filterMap (orderTarget block)).getLast? = none ↔
      ∀ place order, ¬ MovedBy plan bound block place order := by
  rw [List.getLast?_eq_none_iff, List.filterMap_eq_nil_iff]
  simp only [Option.eq_none_iff_forall_ne_some, movedBy_iff, not_and, ne_eq]
  exact ⟨fun h place order listed => h order listed place,
    fun h order listed place => h place order listed⟩

theorem getElem?_stackingAt_iff (plan : Plan) (bound : Time) (block : String)
    (place? : Option String) :
    (stackingAt plan bound)[block]? = place? ↔ Rests plan bound block place? := by
  rw [getElem?_stackingAt]
  constructor
  · rintro rfl
    cases moved : ((ordersBy plan bound).filterMap (orderTarget block)).getLast? with
    | some place =>
      obtain ⟨order, moved, last⟩ := (lastTarget_eq_some_iff plan bound block place).mp moved
      exact .moved order moved last
    | none =>
      have unmoved := (lastTarget_eq_none_iff plan bound block).mp moved
      cases started : (initial plan)[block]? with
      | some support => exact .stayed unmoved ((getElem?_initial plan block support).mp started)
      | none =>
        refine .absent unmoved fun support starts => ?_
        rw [(getElem?_initial plan block support).mpr starts] at started
        cases started
  · intro rests
    cases rests with
    | moved order moved last =>
      rw [(lastTarget_eq_some_iff plan bound block _).mpr ⟨order, moved, last⟩, Option.some_or]
    | stayed unmoved starts =>
      rw [(lastTarget_eq_none_iff plan bound block).mpr unmoved, Option.none_or]
      exact (getElem?_initial plan block _).mpr starts
    | absent unmoved unplaced =>
      rw [(lastTarget_eq_none_iff plan bound block).mpr unmoved, Option.none_or,
        Option.eq_none_iff_forall_ne_some]
      exact fun support started => unplaced support ((getElem?_initial plan block support).mp started)

/-! Plans with the same moves. -/

theorem MovedBy.of_same {plan other : Plan} (same : SameMoves plan other) {bound : Time}
    {block place : String} {order : Time × Agent × Action}
    (moved : MovedBy plan bound block place order) : MovedBy other bound block place order :=
  ⟨moved.inTime, (same.moves _ _ _ _ moved.reads).mp moved.ordered, moved.reads⟩

theorem StartsOn.of_same {plan other : Plan} (same : SameMoves plan other)
    {block support : String} (starts : StartsOn plan block support) :
    StartsOn other block support := by
  rwa [StartsOn, ← same.start]

theorem Rests.of_same {plan other : Plan} (same : SameMoves plan other) {bound : Time}
    {block : String} {place? : Option String} (rests : Rests plan bound block place?) :
    Rests other bound block place? := by
  have unmoved : (∀ place order, ¬ MovedBy plan bound block place order) →
      ∀ place order, ¬ MovedBy other bound block place order :=
    fun none place order moved => none place order (moved.of_same same.symm)
  cases rests with
  | moved order moved last =>
    exact .moved order (moved.of_same same)
      fun place' order' moved' => last place' order' (moved'.of_same same.symm)
  | stayed none starts => exact .stayed (unmoved none) (starts.of_same same)
  | absent none unplaced =>
    exact .absent (unmoved none) fun support starts => unplaced support (starts.of_same same.symm)

theorem stackingAt_eq_of_sameMoves {plan other : Plan} (same : SameMoves plan other)
    (bound : Time) : stackingAt plan bound = stackingAt other bound := by
  refine ExtTreeMap.ext_getElem? fun block => ?_
  refine (getElem?_stackingAt_iff plan bound block _).mpr (Rests.of_same same.symm ?_)
  exact (getElem?_stackingAt_iff other bound block _).mp rfl

theorem replay_eq_stackingAt (plan : Plan) (bound : Time) (reached : ∀ t ∈ plan.timeline, t ≤ bound) :
    (replay plan).on = stackingAt plan bound := by
  have all : plan.steps.filter (fun entry => entry.1 ≤ bound) = plan.steps := by
    refine List.filter_eq_self.mpr fun entry listed => decide_eq_true (reached _ ?_)
    rw [ExtTreeMap.mem_iff_isSome_getElem?, (plan.mem_steps entry.1 entry.2).mp listed]
    rfl
  rw [stackingAt, all, replay]

/-- Up to any time a replay makes all moves, whatever errors it finds, and makes nothing else: each
block is where its last move has put it, or else where the start says last, or else nowhere. The
whole replay ends like one up to a time that no step is after, and plans with the same moves have
the same stackings, whatever other actions they have. -/
theorem stacking_exact (plan : Plan) (bound : Time) :
    (∀ block place?, (stackingAt plan bound)[block]? = place? ↔ Rests plan bound block place?) ∧
      ((∀ t ∈ plan.timeline, t ≤ bound) → (replay plan).on = stackingAt plan bound) ∧
      ∀ other, SameMoves plan other → stackingAt other bound = stackingAt plan bound :=
  ⟨getElem?_stackingAt_iff plan bound, replay_eq_stackingAt plan bound,
    fun _ same => (stackingAt_eq_of_sameMoves same bound).symm⟩

end PlanReferee.Blocks
