import Mathlib.Data.Finset.Card
import Mathlib.Data.Finset.Dedup
import PlanReferee.Proofs.Blocks.Safety

/-! Conflicts of a step. Each move that goes where an earlier one of the step goes already is told
once, beside the earliest move to that place, and nothing else about the step counts: neither the
stacking nor what else is found. -/

namespace PlanReferee.Blocks

open Std (ExtTreeMap)

/-- The moves of a step, in the order of its arms, then of the actions of each. -/
def InOrder (step : Step) (ms : List Move) : Prop :=
  ∃ orders : List (Agent × Action), orders.Pairwise Step.Before ∧
    (∀ arm action, (arm, action) ∈ orders ↔ step.Has arm action ∧ ∃ m, Reads action m) ∧
    List.Forall₂ (fun order m => Reads order.2 m) orders ms

/-- The move at this place of a list goes where an earlier one goes already. -/
def Repeats (ms : List Move) (i : Nat) : Prop :=
  ∃ m, ms[i]? = some m ∧ ∃ j < i, ∃ other, ms[j]? = some other ∧ other.target = m.target

/-- The finding names the move at this place, and the earliest move to its target. -/
def NamesConflict (t : Time) (ms : List Move) (i : Nat) (finding : Finding) : Prop :=
  ∃ m first, ms[i]? = some m ∧ ms.find? (fun other => other.target = m.target) = some first ∧
    finding = .conflict t m first.source

/-- What is told of the conflicts among moves: one finding for each that repeats a target, in their
order, so that with the distinct targets there are as many as moves. -/
structure TellsConflicts (t : Time) (ms : List Move) (told : List Finding) : Prop where
  each : ∃ places : List Nat, places.Pairwise (· < ·) ∧ (∀ i, i ∈ places ↔ Repeats ms i) ∧
    List.Forall₂ (NamesConflict t ms) places told
  count : told.length + (ms.map Move.target).toFinset.card = ms.length

/-- What is found on the arms of a step and on each of their orders. -/
def armsFindings (t : Time) (on : Stacking) (step : Step) : List Finding :=
  step.toList.flatMap fun (arm, actions) => armFindings t on arm actions.toList

/-- A step ends with its conflicts, under one heading if there are any. No other report reads like
one of them or like the heading. -/
structure EndsWith (t : Time) (on : Stacking) (step : Step) (told : List Finding) : Prop where
  layout : stepFindings t on step =
    armsFindings t on step ++ if told = [] then [] else .conflicts t :: told
  unpaired : ∀ finding ∈ armsFindings t on step, ∀ s m first,
    finding.diagnostic ≠ (Finding.conflict s m first).diagnostic
  unheaded : ∀ finding ∈ armsFindings t on step ++ told, ∀ s,
    finding.diagnostic ≠ (Finding.conflicts s).diagnostic

/-! Lists. -/

theorem forall₂_filterMap {α β : Type} (f : α → Option β) (xs : List α) :
    List.Forall₂ (fun x y => f x = some y) (xs.filter fun x => (f x).isSome) (xs.filterMap f) := by
  induction xs with
  | nil => exact .nil
  | cons x xs ih =>
    cases h : f x with
    | none => simpa [h] using ih
    | some y =>
      simp only [List.filter_cons, h, Option.isSome_some, if_true, List.filterMap_cons_some h]
      exact .cons h ih

theorem inOrder_moves (step : Step) : InOrder step (moves step) := by
  refine ⟨moveOrders step, step.orders_ascending.filter _, mem_moveOrders step, ?_⟩
  refine (forall₂_filterMap _ step.orders).imp ?_
  exact fun order m reads => (move?_ofAction order.2 m).mp reads

/-! Pairs of moves. -/

/-- The conflict of the move at some place with the earliest move before it to the same target. -/
def conflictAt? (t : Time) (ms : List Move) (i : Nat) : Option Finding :=
  ms[i]?.bind fun m =>
    ((ms.take i).find? fun other => other.target = m.target).map fun first =>
      .conflict t m first.source

theorem conflictAt?_append (t : Time) (passed : List Move) (m : Move) (more : List Move) :
    conflictAt? t (passed ++ m :: more) passed.length =
      (passed.find? fun other => other.target = m.target).map fun first =>
        .conflict t m first.source := by
  simp [conflictAt?]

/-- The claimants of a list of moves: the source of the earliest to each target. -/
def Claims (claimants : ExtTreeMap String String) (passed : List Move) : Prop :=
  ∀ target, claimants[target]? = (passed.find? fun m => m.target = target).map Move.source

theorem Claims.again {claimants : ExtTreeMap String String} {passed : List Move}
    (claims : Claims claimants passed) {m first : Move}
    (found : passed.find? (fun other => other.target = m.target) = some first) :
    Claims claimants (passed ++ [m]) := by
  intro target
  rw [claims, List.find?_append]
  by_cases same : m.target = target
  · rw [← same, found, Option.some_or]
  · simp [same]

theorem Claims.insert {claimants : ExtTreeMap String String} {passed : List Move}
    (claims : Claims claimants passed) {m : Move}
    (fresh : passed.find? (fun other => other.target = m.target) = none) :
    Claims (claimants.insert m.target m.source) (passed ++ [m]) := by
  intro target
  rw [ExtTreeMap.getElem?_insert, claims, List.find?_append]
  by_cases same : m.target = target
  · subst same
    simp [fresh]
  · simp [same]

theorem conflictsAmong_eq (t : Time) {claimants : ExtTreeMap String String} {passed : List Move}
    (claims : Claims claimants passed) (more : List Move) :
    conflictsAmong t claimants more =
      (List.range' passed.length more.length).filterMap (conflictAt? t (passed ++ more)) := by
  -- The claimants carry the earliest moves to the targets of the moves passed so far.
  induction more generalizing claimants passed with
  | nil => rfl
  | cons m more ih =>
    have shift : passed ++ m :: more = (passed ++ [m]) ++ more := List.append_cons passed m more
    have length : (passed ++ [m]).length = passed.length + 1 := List.length_append
    rw [conflictsAmong, claims, List.length_cons, List.range'_succ, List.filterMap_cons,
      conflictAt?_append]
    cases found : passed.find? fun other => other.target = m.target with
    | some first =>
      simp only [Option.map_some]
      rw [ih (claims.again found), shift, length]
    | none =>
      simp only [Option.map_none]
      rw [ih (claims.insert found), shift, length]

theorem conflictsAmong_start (t : Time) (ms : List Move) :
    conflictsAmong t ∅ ms = (List.range ms.length).filterMap (conflictAt? t ms) := by
  have claims : Claims ∅ [] := fun target => by simp
  rw [conflictsAmong_eq t claims, List.range_eq_range']
  rfl

/-- A third claimant is told of the first, and not of the second. -/
example : conflictsAmong 0 ∅ [⟨"a", "x"⟩, ⟨"b", "x"⟩, ⟨"c", table⟩, ⟨"d", "x"⟩] =
    [.conflict 0 ⟨"b", "x"⟩ "a", .conflict 0 ⟨"d", "x"⟩ "a"] := by
  decide +kernel

theorem conflictAt?_isSome_iff (t : Time) (ms : List Move) (i : Nat) :
    (conflictAt? t ms i).isSome = true ↔ Repeats ms i := by
  have earlier : ∀ target, ((ms.take i).find? fun other => other.target = target).isSome = true ↔
      ∃ j < i, ∃ other, ms[j]? = some other ∧ other.target = target := by
    intro target
    rw [List.find?_isSome]
    constructor
    · rintro ⟨other, listed, goes⟩
      obtain ⟨j, place⟩ := List.mem_iff_getElem?.mp listed
      rw [List.getElem?_take, Option.ite_none_right_eq_some] at place
      exact ⟨j, place.1, other, place.2, of_decide_eq_true goes⟩
    · rintro ⟨j, small, other, place, goes⟩
      refine ⟨other, List.mem_iff_getElem?.mpr ⟨j, ?_⟩, decide_eq_true goes⟩
      rw [List.getElem?_take_of_lt small, place]
  simp only [Repeats, ← earlier, conflictAt?]
  cases ms[i]? with
  | none => simp
  | some m => simp

theorem namesConflict_of_conflictAt? {t : Time} {ms : List Move} {i : Nat} {finding : Finding}
    (found : conflictAt? t ms i = some finding) : NamesConflict t ms i finding := by
  obtain ⟨m, place, found⟩ := Option.bind_eq_some_iff.mp found
  obtain ⟨first, earliest, rfl⟩ := Option.map_eq_some_iff.mp found
  refine ⟨m, first, place, ?_, rfl⟩
  -- What comes first among the earlier moves comes first among all.
  rw [← List.take_append_drop i ms, List.find?_append, earliest, Option.some_or]

theorem length_conflictsAmong (t : Time) (claimants : ExtTreeMap String String) (ms : List Move) :
    (conflictsAmong t claimants ms).length +
      ((ms.map Move.target).toFinset.filter (· ∉ claimants)).card = ms.length := by
  -- Each move is told, or its target is the first of its kind and joins the claimants.
  induction ms generalizing claimants with
  | nil => rfl
  | cons m more ih =>
    rw [conflictsAmong, List.map_cons, List.toFinset_cons, Finset.filter_insert, List.length_cons]
    cases found : claimants[m.target]? with
    | some first =>
      have taken : m.target ∈ claimants := by
        rw [ExtTreeMap.mem_iff_isSome_getElem?, found]
        rfl
      rw [if_neg (not_not_intro taken)]
      have rest := ih claimants
      simp only [List.length_cons]
      omega
    | none =>
      have free : m.target ∉ claimants := by
        rw [ExtTreeMap.mem_iff_isSome_getElem?, found]
        simp
      have split : insert m.target ((more.map Move.target).toFinset.filter (· ∉ claimants)) =
          insert m.target ((more.map Move.target).toFinset.filter
            (· ∉ claimants.insert m.target m.source)) := by
        ext target
        simp only [Finset.mem_insert, Finset.mem_filter, ExtTreeMap.mem_insert,
          Std.compare_eq_iff_eq, not_or]
        grind
      have fresh : m.target ∉ (more.map Move.target).toFinset.filter
          (· ∉ claimants.insert m.target m.source) := by
        simp
      rw [if_pos free, split, Finset.card_insert_of_notMem fresh]
      have rest := ih (claimants.insert m.target m.source)
      simp only
      omega

theorem tellsConflicts (t : Time) (ms : List Move) :
    TellsConflicts t ms (conflictsAmong t ∅ ms) where
  each := by
    refine ⟨(List.range ms.length).filter fun i => (conflictAt? t ms i).isSome,
      List.pairwise_lt_range.filter _, fun i => ?_, ?_⟩
    · rw [List.mem_filter, conflictAt?_isSome_iff, List.mem_range, and_iff_right_iff_imp]
      rintro ⟨m, place, _⟩
      exact (List.getElem?_eq_some_iff.mp place).1
    · rw [conflictsAmong_start]
      exact (forall₂_filterMap (conflictAt? t ms) _).imp
        fun i finding => namesConflict_of_conflictAt?
  count := by
    have count := length_conflictsAmong t ∅ ms
    rwa [Finset.filter_true_of_mem fun target _ => ExtTreeMap.not_mem_empty] at count

/-! Reports. -/

/-- The first character of what is reported. -/
def Finding.letter? (finding : Finding) : Option Char := finding.diagnostic.message.toList.head?

theorem head?_append {head : String} {letter : Char} (tail : String)
    (first : head.toList.head? = some letter) : (head ++ tail).toList.head? = some letter := by
  rw [String.toList_append, List.head?_append, first, Option.some_or]

theorem letter?_conflicts (t : Time) : (Finding.conflicts t).letter? = some 'T' := by
  simp only [Finding.letter?, Finding.diagnostic, Diagnostic.error, String.append_assoc]
  exact head?_append _ (by decide +kernel)

theorem letter?_conflict (t : Time) (m : Move) (first : String) :
    (Finding.conflict t m first).letter? = some 'E' := by
  simp only [Finding.letter?, Finding.diagnostic, Diagnostic.error, String.append_assoc]
  exact head?_append _ (by decide +kernel)

theorem letter?_orderFindings {t : Time} {on : Stacking} {arm : Agent} {action : Action}
    {finding : Finding} (found : finding ∈ orderFindings t on arm action) :
    finding.letter? = some 'A' ∨ finding.letter? = some '`' := by
  unfold orderFindings at found
  split at found
  · obtain ⟨place, _, found⟩ := List.mem_filterMap.mp found
    obtain ⟨blocking, _, rfl⟩ := Option.map_eq_some_iff.mp found
    left
    simp only [Finding.letter?, Finding.diagnostic, Diagnostic.error, String.append_assoc]
    exact head?_append _ (by decide +kernel)
  · cases List.mem_singleton.mp found
    left
    simp only [Finding.letter?, Finding.diagnostic, Diagnostic.info, String.append_assoc]
    exact head?_append _ (by decide +kernel)
  · cases List.mem_singleton.mp found
    right
    simp only [Finding.letter?, Finding.diagnostic, Diagnostic.warning, String.append_assoc]
    exact head?_append _ (by decide +kernel)

theorem letter?_armsFindings {t : Time} {on : Stacking} {step : Step} {finding : Finding}
    (found : finding ∈ armsFindings t on step) :
    finding.letter? = some 'A' ∨ finding.letter? = some '`' := by
  obtain ⟨⟨arm, actions⟩, _, found⟩ := List.mem_flatMap.mp found
  rcases List.mem_append.mp found with busy | found
  · split at busy
    · cases List.mem_singleton.mp busy
      left
      simp only [Finding.letter?, Finding.diagnostic, Diagnostic.warning, String.append_assoc]
      exact head?_append _ (by decide +kernel)
    · cases busy
  · obtain ⟨action, _, found⟩ := List.mem_flatMap.mp found
    exact letter?_orderFindings found

theorem stepFindings_eq (t : Time) (on : Stacking) (step : Step) :
    stepFindings t on step = armsFindings t on step ++
      if conflictsAmong t ∅ (moves step) = [] then []
      else .conflicts t :: conflictsAmong t ∅ (moves step) := by
  rw [stepFindings, armsFindings, conflictFindings]
  cases conflictsAmong t ∅ (moves step) with
  | nil => rfl
  | cons finding more => rfl

theorem endsWith (t : Time) (on : Stacking) (step : Step) :
    EndsWith t on step (conflictsAmong t ∅ (moves step)) where
  layout := stepFindings_eq t on step
  unpaired finding found s m first same := by
    have letter : finding.letter? = some 'E' := by
      rw [← letter?_conflict s m first, Finding.letter?, same, Finding.letter?]
    rcases letter?_armsFindings found with other | other <;> simp [letter] at other
  unheaded finding found s same := by
    have letter : finding.letter? = some 'T' := by
      rw [← letter?_conflicts s, Finding.letter?, same, Finding.letter?]
    rcases List.mem_append.mp found with found | found
    · rcases letter?_armsFindings found with other | other <;> simp [letter] at other
    · rw [conflictsAmong_start] at found
      obtain ⟨i, _, found⟩ := List.mem_filterMap.mp found
      obtain ⟨m, first, _, _, rfl⟩ := namesConflict_of_conflictAt? found
      simp [letter?_conflict] at letter

/-- The conflicts that a step is told of are those of its moves, whatever the stacking, and they end
what is found on it. -/
theorem conflicts_exact (t : Time) (step : Step) :
    InOrder step (moves step) ∧ ∃ told : List Finding, TellsConflicts t (moves step) told ∧
      ∀ on, EndsWith t on step told :=
  ⟨inOrder_moves step, _, tellsConflicts t (moves step), fun on => endsWith t on step⟩

end PlanReferee.Blocks
