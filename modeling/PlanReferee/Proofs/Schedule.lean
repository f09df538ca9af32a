import Mathlib.Data.List.Nodup
import PlanReferee.Plan.Basic

/-! Schedules as relations: who does what at which time, whatever the trees that store it look like.
The lists that a replay runs through are sorted and without repetition, so that two of them agree
as soon as they have the same members. -/

namespace PlanReferee

open Std (ExtTreeMap ExtTreeSet)

/-- No finding of a log is an error. -/
def ErrorFree (logs : List Diagnostic) : Prop := ∀ d ∈ logs, d.isError = false

theorem errorFree_iff_filter (logs : List Diagnostic) :
    ErrorFree logs ↔ logs.filter Diagnostic.isError = [] := by
  simp only [ErrorFree, List.filter_eq_nil_iff, Bool.not_eq_true]

theorem errorFree_append (logs more : List Diagnostic) :
    ErrorFree (logs ++ more) ↔ ErrorFree logs ∧ ErrorFree more := by
  simp only [ErrorFree, List.mem_append, or_imp, forall_and]

theorem errorFree_flatMap {α : Type} (xs : List α) (logs : α → List Diagnostic) :
    ErrorFree (xs.flatMap logs) ↔ ∀ x ∈ xs, ErrorFree (logs x) := by
  simp only [ErrorFree, List.mem_flatMap, forall_exists_index, and_imp]
  exact ⟨fun h x hx d hd => h d x hx hd, fun h d x hx hd => h x hx d hd⟩

theorem remarks_errorFree (plan : Plan) : ErrorFree (plan.remarks.map Plan.Remark.diagnostic) := by
  intro d hd
  obtain ⟨remark, _, rfl⟩ := List.mem_map.mp hd
  cases remark <;> rfl

/-- Two lists that ascend strictly and have the same members are equal. -/
theorem eq_of_ascending {α : Type} {lt : α → α → Prop} (asymm : ∀ a b, lt a b → ¬ lt b a)
    {xs ys : List α} (hx : xs.Pairwise lt) (hy : ys.Pairwise lt)
    (same : ∀ a, a ∈ xs ↔ a ∈ ys) : xs = ys := by
  have distinct : ∀ {zs : List α}, zs.Pairwise lt → zs.Nodup := by
    intro zs hz
    refine hz.imp ?_
    rintro a b h rfl
    exact asymm a a h h
  have perm : xs.Perm ys := (List.perm_ext_iff_of_nodup (distinct hx) (distinct hy)).mpr same
  exact perm.eq_of_pairwise (fun a b _ _ hab hba => absurd hba (asymm a b hab)) hx hy

section Lists

variable {α : Type} [Ord α]

/-- All things of a kind, in ascending order. -/
def Lists (kind : α → Prop) (xs : List α) : Prop :=
  xs.Pairwise (fun a b => compare a b = .lt) ∧ ∀ a, a ∈ xs ↔ kind a

theorem Lists.unique [Std.OrientedOrd α] {kind : α → Prop} {xs ys : List α} (hx : Lists kind xs)
    (hy : Lists kind ys) : xs = ys :=
  eq_of_ascending (fun _ _ => Std.OrientedCmp.not_lt_of_lt) hx.1 hy.1
    fun a => (hx.2 a).trans (hy.2 a).symm

theorem lists_toList [Std.TransOrd α] [Std.LawfulEqOrd α] (set : ExtTreeSet α) :
    Lists (· ∈ set) set.toList :=
  ⟨set.ordered_toList, fun _ => ExtTreeSet.mem_toList⟩

theorem Lists.filter {kind : α → Prop} {xs : List α} (lists : Lists kind xs) (p : α → Bool) :
    Lists (fun a => kind a ∧ p a = true) (xs.filter p) :=
  ⟨lists.1.filter p, fun a => by rw [List.mem_filter, lists.2]⟩

theorem Lists.congr {kind other : α → Prop} {xs : List α} (lists : Lists kind xs)
    (same : ∀ a, kind a ↔ other a) : Lists other xs :=
  ⟨lists.1, fun a => (lists.2 a).trans (same a)⟩

end Lists

theorem getLast?_filterMap {α β : Type} (f : α → Option β) (xs : List α) (y : β) :
    (xs.filterMap f).getLast? = some y ↔
      ∃ before x after, xs = before ++ x :: after ∧ f x = some y ∧ ∀ z ∈ after, f z = none := by
  rw [List.getLast?_eq_some_iff]
  constructor
  · rintro ⟨ys, h⟩
    obtain ⟨front, back, rfl, _, last⟩ := List.filterMap_eq_append_iff.mp h
    obtain ⟨skipped, x, after, rfl, _, found, rest⟩ := List.filterMap_eq_cons_iff.mp last
    exact ⟨front ++ skipped, x, after, by simp, found, List.filterMap_eq_nil_iff.mp rest⟩
  · rintro ⟨before, x, after, rfl, found, rest⟩
    refine ⟨before.filterMap f, ?_⟩
    rw [List.filterMap_append, List.filterMap_cons_some found,
      List.filterMap_eq_nil_iff.mpr rest]

/-- In a list that ascends, the last member of a kind is the one that all others of the kind
precede. -/
theorem getLast?_filterMap_of_ascending {α β : Type} {lt : α → α → Prop}
    (asymm : ∀ a b, lt a b → ¬ lt b a) {f : α → Option β} {xs : List α}
    (ascending : xs.Pairwise lt) (y : β) :
    (xs.filterMap f).getLast? = some y ↔
      ∃ x ∈ xs, f x = some y ∧ ∀ z ∈ xs, f z ≠ none → z = x ∨ lt z x := by
  rw [getLast?_filterMap]
  constructor
  · rintro ⟨before, x, after, rfl, found, rest⟩
    refine ⟨x, List.mem_append_right before List.mem_cons_self, found, fun z listed kind => ?_⟩
    rcases List.mem_append.mp listed with earlier | listed
    · exact .inr ((List.pairwise_append.mp ascending).2.2 z earlier x List.mem_cons_self)
    · rcases List.mem_cons.mp listed with same | later
      · exact .inl same
      · exact absurd (rest z later) kind
  · rintro ⟨x, listed, found, last⟩
    obtain ⟨before, after, rfl⟩ := List.append_of_mem listed
    refine ⟨before, x, after, rfl, found, fun z later => ?_⟩
    have follows : lt x z :=
      (List.pairwise_cons.mp (List.pairwise_append.mp ascending).2.1).1 z later
    by_contra kind
    rcases last z (List.mem_append_right before (List.mem_cons_of_mem x later)) kind with rfl | less
    · exact asymm z z follows follows
    · exact asymm x z follows less

namespace Step

/-- An agent is to carry out an action. -/
def Has (step : Step) (agent : Agent) (action : Action) : Prop :=
  ∃ actions, step[agent]? = some actions ∧ action ∈ actions

theorem mem_orders (step : Step) (agent : Agent) (action : Action) :
    (agent, action) ∈ step.orders ↔ step.Has agent action := by
  simp only [orders, List.mem_flatMap, List.mem_map, Prod.exists, Prod.mk.injEq,
    ExtTreeMap.mem_toList_iff_getElem?_eq_some, ExtTreeSet.mem_toList, Has]
  constructor
  · rintro ⟨a, actions, hstep, _, hmem, rfl, rfl⟩
    exact ⟨actions, hstep, hmem⟩
  · rintro ⟨actions, hstep, hmem⟩
    exact ⟨agent, actions, hstep, action, hmem, rfl, rfl⟩

/-- Earlier agents come first, and of one agent the earlier actions. -/
def Before (a b : Agent × Action) : Prop :=
  compare a.1 b.1 = .lt ∨ a.1 = b.1 ∧ compare a.2 b.2 = .lt

theorem before_asymm (a b : Agent × Action) (h : Before a b) : ¬ Before b a := by
  rintro (h' | ⟨he', h'⟩) <;> rcases h with h | ⟨he, h⟩
  · exact Std.OrientedCmp.not_lt_of_lt h h'
  · rw [he] at h'
    exact Std.OrientedCmp.not_lt_of_lt h' h'
  · rw [he'] at h
    exact Std.OrientedCmp.not_lt_of_lt h h
  · exact Std.OrientedCmp.not_lt_of_lt h h'

theorem orders_ascending (step : Step) : step.orders.Pairwise Before := by
  rw [orders, List.pairwise_flatMap]
  constructor
  · rintro ⟨agent, actions⟩ _
    rw [List.pairwise_map]
    exact actions.ordered_toList.imp fun h => .inr ⟨rfl, h⟩
  · refine step.ordered_keys_toList.imp ?_
    rintro ⟨a, as⟩ ⟨b, bs⟩ h x hx y hy
    obtain ⟨_, _, rfl⟩ := List.mem_map.mp hx
    obtain ⟨_, _, rfl⟩ := List.mem_map.mp hy
    exact .inl h

theorem orders_nodup (step : Step) : step.orders.Nodup := by
  refine step.orders_ascending.imp ?_
  rintro a b h rfl
  exact before_asymm a a h h

end Step

namespace Plan

/-- An agent is to carry out an action at a stored time. -/
def Has (plan : Plan) (t : Time) (agent : Agent) (action : Action) : Prop :=
  ∃ step, plan.timeline[t]? = some step ∧ step.Has agent action

theorem mem_steps (plan : Plan) (t : Time) (step : Step) :
    (t, step) ∈ plan.steps ↔ plan.timeline[t]? = some step :=
  ExtTreeMap.mem_toList_iff_getElem?_eq_some

theorem steps_ascending (plan : Plan) : plan.steps.Pairwise fun a b => a.1 < b.1 :=
  plan.timeline.ordered_keys_toList.imp fun h => Std.compare_eq_lt.mp h

/-- Each scheduled action beside its time and its agent, in the order of times, then of the step. -/
def orders (plan : Plan) : List (Time × Agent × Action) :=
  plan.steps.flatMap fun entry => entry.2.orders.map fun order => (entry.1, order)

theorem mem_orders (plan : Plan) (t : Time) (agent : Agent) (action : Action) :
    (t, agent, action) ∈ plan.orders ↔ plan.Has t agent action := by
  simp only [orders, List.mem_flatMap, List.mem_map, Prod.exists, Prod.mk.injEq, mem_steps,
    Step.mem_orders, Has]
  constructor
  · rintro ⟨_, step, stored, _, _, has, rfl, rfl, rfl⟩
    exact ⟨step, stored, has⟩
  · rintro ⟨step, stored, has⟩
    exact ⟨t, step, stored, agent, action, has, rfl, rfl, rfl⟩

/-- Earlier times come first, then earlier agents, and of one agent the earlier actions. -/
def Before (a b : Time × Agent × Action) : Prop := a.1 < b.1 ∨ a.1 = b.1 ∧ Step.Before a.2 b.2

theorem before_asymm (a b : Time × Agent × Action) (h : Before a b) : ¬ Before b a := by
  rintro (h' | ⟨same', h'⟩) <;> rcases h with h | ⟨same, h⟩
  · exact Std.lt_irrefl (Std.lt_trans h h')
  · exact Std.lt_irrefl (same ▸ h')
  · exact Std.lt_irrefl (same' ▸ h)
  · exact Step.before_asymm _ _ h h'

theorem orders_ascending (plan : Plan) : plan.orders.Pairwise Before := by
  rw [orders, List.pairwise_flatMap]
  constructor
  · rintro ⟨t, step⟩ _
    rw [List.pairwise_map]
    exact step.orders_ascending.imp fun h => .inr ⟨rfl, h⟩
  · refine plan.steps_ascending.imp ?_
    rintro ⟨t, step⟩ ⟨t', step'⟩ h x hx y hy
    obtain ⟨_, _, rfl⟩ := List.mem_map.mp hx
    obtain ⟨_, _, rfl⟩ := List.mem_map.mp hy
    exact .inl h

/-- What stands before a stored step are the steps of earlier times. -/
theorem earlier_eq_filter {plan : Plan} {before after : List (Time × Step)} {t : Time} {step : Step}
    (split : plan.steps = before ++ (t, step) :: after) :
    plan.steps.filter (fun entry => entry.1 < t) = before := by
  have ascending := plan.steps_ascending
  rw [split] at ascending ⊢
  obtain ⟨_, later, across⟩ := List.pairwise_append.mp ascending
  have kept : ∀ entry ∈ before, entry.1 < t :=
    fun entry he => across entry he (t, step) List.mem_cons_self
  have dropped : ∀ entry ∈ (t, step) :: after, ¬ entry.1 < t := by
    intro entry he
    rcases List.mem_cons.mp he with rfl | he
    · exact Std.lt_irrefl
    · exact Std.not_lt.mpr (Std.le_of_lt ((List.pairwise_cons.mp later).1 entry he))
  rw [List.filter_append, List.filter_eq_self.mpr, List.filter_eq_nil_iff.mpr, List.append_nil]
  · exact fun entry he h => dropped entry he (of_decide_eq_true h)
  · exact fun entry he => decide_eq_true (kept entry he)

end Plan

end PlanReferee
