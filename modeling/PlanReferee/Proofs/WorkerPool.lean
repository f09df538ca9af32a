import Mathlib.Algebra.GroupWithZero.Nat
import PlanReferee.WorkerPool

/-! Runs of a pool of workers, in whatever order its units move. No more units run than there are
permits, no permit gets lost, and a result stands in the place of its job from when it is collected.
So when all units are collected, the results are those of the jobs in their order. A unit that is not
collected never waits for good. -/

namespace PlanReferee.WorkerPool

variable {α ρ : Type}

namespace Task

def isRunning : Task α ρ → Bool
  | running _ => true
  | _ => false

/-- A unit holds its permit until it gives it back, not only while it runs. -/
def holdsPermit : Task α ρ → Bool
  | running _ | finished _ => true
  | _ => false

theorem holdsPermit_of_isRunning (task : Task α ρ) (h : task.isRunning = true) :
    task.holdsPermit = true := by
  cases task with
  | running job => rfl
  | _ => cases h

/-- How many moves a unit has before it. -/
def left : Task α ρ → Nat
  | waiting _ => 4
  | running _ => 3
  | finished _ => 2
  | released _ => 1
  | collected => 0

end Task

/-- A unit and its place among the results, as far as the unit has come with its job. -/
def Fits (work : α → ρ) (job : α) : Task α ρ → Option ρ → Prop
  | .waiting job', result? => job' = job ∧ result? = none
  | .running job', result? => job' = job ∧ result? = none
  | .finished result, result? => result = work job ∧ result? = none
  | .released result, result? => result = work job ∧ result? = none
  | .collected, result? => result? = some (work job)

namespace Pool

/-- The pools that moves can lead to. -/
inductive Reaches (work : α → ρ) (start : Pool α ρ) : Pool α ρ → Prop
  | start : Reaches work start start
  | step {pool next : Pool α ρ} {move : Move} (reached : Reaches work start pool)
      (made : pool.step? work move = some next) : Reaches work start next

def running (pool : Pool α ρ) : Nat := pool.tasks.countP Task.isRunning

def held (pool : Pool α ρ) : Nat := pool.tasks.countP Task.holdsPermit

def left (pool : Pool α ρ) : Nat := (pool.tasks.map Task.left).sum

def Settled (pool : Pool α ρ) : Prop := ∀ task ∈ pool.tasks, task = .collected

theorem running_le_held (pool : Pool α ρ) : pool.running ≤ pool.held :=
  List.countP_mono_left fun task _ => task.holdsPermit_of_isRunning

/-! One move. -/

/-- A unit that takes a move, with the permits that stay free and the results that are then there. -/
inductive Moves (work : α → ρ) (pool : Pool α ρ) (i : Nat) :
    Task α ρ → Task α ρ → Nat → List (Option ρ) → Prop
  | acquire (job : α) (free : Nat) (permit : pool.free = free + 1) :
    Moves work pool i (.waiting job) (.running job) free pool.results
  | finish (job : α) :
    Moves work pool i (.running job) (.finished (work job)) pool.free pool.results
  | release (result : ρ) :
    Moves work pool i (.finished result) (.released result) (pool.free + 1) pool.results
  | collect (result : ρ) :
    Moves work pool i (.released result) .collected pool.free (pool.results.set i (some result))

variable {work : α → ρ} {permits : Nat} {jobs : List α} {pool next : Pool α ρ} {move : Move}

/-- A move changes one unit and leaves the others as they are. -/
theorem step?_inv (made : pool.step? work move = some next) : ∃ i task task' free results,
    pool.tasks[i]? = some task ∧ Moves work pool i task task' free results ∧
      next = ⟨free, pool.tasks.set i task', results⟩ := by
  cases move with
  | acquire i =>
    simp only [step?] at made
    split at made
    · rename_i job free there permit
      cases made
      exact ⟨i, _, _, _, _, there, .acquire job free permit, rfl⟩
    · cases made
  | finish i =>
    simp only [step?] at made
    split at made
    · rename_i job there
      cases made
      exact ⟨i, _, _, _, _, there, .finish job, rfl⟩
    · cases made
  | release i =>
    simp only [step?] at made
    split at made
    · rename_i result there
      cases made
      exact ⟨i, _, _, _, _, there, .release result, rfl⟩
    · cases made
  | collect i =>
    simp only [step?] at made
    split at made
    · rename_i result there
      cases made
      exact ⟨i, _, _, _, _, there, .collect result, rfl⟩
    · cases made

theorem split_at {tasks : List (Task α ρ)} {i : Nat} {task : Task α ρ}
    (there : tasks[i]? = some task) (task' : Task α ρ) : ∃ before after,
      tasks = before ++ task :: after ∧ tasks.set i task' = before ++ task' :: after := by
  obtain ⟨inside, rfl⟩ := List.getElem?_eq_some_iff.mp there
  obtain ⟨before, after, split, _, changed⟩ := @List.exists_of_set _ i task' tasks inside
  exact ⟨before, after, split, changed⟩

theorem held_add_free_step (made : pool.step? work move = some next) :
    next.held + next.free = pool.held + pool.free := by
  obtain ⟨i, task, task', free, results, there, moves, rfl⟩ := step?_inv made
  obtain ⟨before, after, split, changed⟩ := split_at there task'
  have now : Pool.held ⟨free, pool.tasks.set i task', results⟩ =
      (before ++ task' :: after).countP Task.holdsPermit := congrArg _ changed
  have kept : (if task'.holdsPermit then 1 else 0) + free =
      (if task.holdsPermit then 1 else 0) + pool.free := by
    cases moves with
    | acquire job free permit => simp [Task.holdsPermit, permit, Nat.add_comm]
    | release result => simp [Task.holdsPermit, Nat.add_comm]
    | _ => simp [Task.holdsPermit]
  rw [now, held, split]
  simp only [List.countP_append, List.countP_cons]
  omega

theorem left_step (made : pool.step? work move = some next) : next.left + 1 = pool.left := by
  obtain ⟨i, task, task', free, results, there, moves, rfl⟩ := step?_inv made
  obtain ⟨before, after, split, changed⟩ := split_at there task'
  have now : Pool.left ⟨free, pool.tasks.set i task', results⟩ =
      ((before ++ task' :: after).map Task.left).sum :=
    congrArg (fun tasks => (tasks.map Task.left).sum) changed
  have fewer : task'.left + 1 = task.left := by cases moves <;> rfl
  rw [now, left, split]
  simp only [List.map_append, List.map_cons, List.sum_append, List.sum_cons]
  omega

/-- Every move brings one unit on, so that no run goes on for ever. -/
theorem wellFounded_moves (work : α → ρ) :
    WellFounded fun next pool : Pool α ρ => ∃ move, pool.step? work move = some next := by
  refine Subrelation.wf ?_ (measure left).wf
  rintro next pool ⟨move, made⟩
  exact Nat.lt_of_succ_le (Nat.le_of_eq (left_step made))

/-! What every reachable pool has in common. -/

structure Orderly (work : α → ρ) (permits : Nat) (jobs : List α) (pool : Pool α ρ) : Prop where
  permits : pool.held + pool.free = permits
  tasks : pool.tasks.length = jobs.length
  results : pool.results.length = jobs.length
  places : ∀ (i : Nat) (job : α), jobs[i]? = some job → ∃ task result?,
    pool.tasks[i]? = some task ∧ pool.results[i]? = some result? ∧ Fits work job task result?

theorem start_orderly (work : α → ρ) (permits : Nat) (jobs : List α) :
    Orderly work permits jobs (start permits jobs) := by
  constructor
  case permits => simp [start, held, List.countP_eq_zero, Task.holdsPermit]
  case tasks => simp [start]
  case results => simp [start]
  case places =>
    intro i job there
    refine ⟨.waiting job, none, ?_, ?_, rfl, rfl⟩ <;>
      simp only [start, List.getElem?_map, there, Option.map_some]

theorem Moves.fits {i : Nat} {task task' : Task α ρ} {free : Nat} {results : List (Option ρ)}
    (moves : Moves work pool i task task' free results) {job : α} {result? : Option ρ}
    (there : pool.results[i]? = some result?)
    (fits : Fits work job task result?) :
    ∃ result'?, results[i]? = some result'? ∧ Fits work job task' result'? := by
  cases moves with
  | acquire job' free permit => exact ⟨result?, there, fits⟩
  | finish job' =>
    obtain ⟨rfl, empty⟩ := fits
    exact ⟨result?, there, rfl, empty⟩
  | release result => exact ⟨result?, there, fits⟩
  | collect result =>
    obtain ⟨rfl, empty⟩ := fits
    have inside := (List.getElem?_eq_some_iff.mp there).1
    exact ⟨some (work job), List.getElem?_set_self inside, rfl⟩

theorem Moves.elsewhere {i : Nat} {task task' : Task α ρ} {free : Nat} {results : List (Option ρ)}
    (moves : Moves work pool i task task' free results) :
    results.length = pool.results.length ∧ ∀ j, i ≠ j → results[j]? = pool.results[j]? := by
  cases moves with
  | collect result => exact ⟨List.length_set, fun j other => List.getElem?_set_ne other⟩
  | _ => exact ⟨rfl, fun j other => rfl⟩

theorem Orderly.step (orderly : Orderly work permits jobs pool)
    (made : pool.step? work move = some next) : Orderly work permits jobs next := by
  have balance := held_add_free_step made
  obtain ⟨i, task, task', free, results, there, moves, rfl⟩ := step?_inv made
  obtain ⟨length, elsewhere⟩ := moves.elsewhere
  constructor
  case permits => exact balance.trans orderly.permits
  case tasks => exact List.length_set.trans orderly.tasks
  case results => exact length.trans orderly.results
  case places =>
    intro j job listed
    obtain ⟨found, result?, known, stored, fits⟩ := orderly.places j job listed
    -- Only the place of the unit that has moved can be another one than before.
    by_cases here : i = j
    · subst here
      have same : found = task := Option.some.inj (known.symm.trans there)
      obtain ⟨result'?, stored', fits'⟩ := moves.fits stored (same ▸ fits)
      have inside := (List.getElem?_eq_some_iff.mp there).1
      exact ⟨task', result'?, List.getElem?_set_self inside, stored', fits'⟩
    · exact ⟨found, result?, (List.getElem?_set_ne here).trans known,
        (elsewhere j here).trans stored, fits⟩

theorem Reaches.orderly (reached : Reaches work (Pool.start permits jobs) pool) :
    Orderly work permits jobs pool := by
  induction reached with
  | start => exact start_orderly work permits jobs
  | step _ made ih => exact ih.step made

/-! The end of a run. -/

namespace Orderly

theorem running_le (orderly : Orderly work permits jobs pool) : pool.running ≤ permits := by
  have held := pool.running_le_held
  have balance := orderly.permits
  omega

theorem result_of_collected (orderly : Orderly work permits jobs pool) {i : Nat} {job : α}
    (listed : jobs[i]? = some job) (collected : pool.tasks[i]? = some .collected) :
    pool.results[i]? = some (some (work job)) := by
  obtain ⟨task, result?, known, stored, fits⟩ := orderly.places i job listed
  cases known.symm.trans collected
  rw [stored, fits]

theorem results_of_settled (orderly : Orderly work permits jobs pool) (settled : pool.Settled) :
    pool.results = jobs.map fun job => some (work job) := by
  refine List.ext_getElem? fun i => ?_
  rw [List.getElem?_map]
  cases listed : jobs[i]? with
  | none =>
    have outside := List.getElem?_eq_none_iff.mp listed
    exact List.getElem?_eq_none (orderly.results ▸ outside)
  | some job =>
    obtain ⟨task, _, known, _, _⟩ := orderly.places i job listed
    cases settled task (List.mem_of_getElem? known)
    exact orderly.result_of_collected listed known

theorem free_of_settled (orderly : Orderly work permits jobs pool) (settled : pool.Settled) :
    pool.free = permits := by
  have none_held : pool.held = 0 := by
    refine List.countP_eq_zero.mpr fun task member => ?_
    cases settled task member
    simp [Task.holdsPermit]
  have balance := orderly.permits
  omega

end Orderly

theorem moves_of_holdsPermit {i : Nat} {task : Task α ρ} (there : pool.tasks[i]? = some task)
    (holds : task.holdsPermit = true) : ∃ move, (pool.step? work move).isSome = true := by
  cases task with
  | running job => exact ⟨.finish i, by simp only [step?, there, Option.isSome_some]⟩
  | finished result => exact ⟨.release i, by simp only [step?, there, Option.isSome_some]⟩
  | _ => cases holds

/-- Where not all units are collected, one of them can move: if no permit is free for a unit that
waits, another one has a permit to give back. -/
theorem moves_of_not_settled (orderly : Orderly work permits jobs pool) (some_permit : 0 < permits)
    (open_task : ¬ pool.Settled) : ∃ move, (pool.step? work move).isSome = true := by
  simp only [Settled, Classical.not_forall] at open_task
  obtain ⟨task, member, unsettled⟩ := open_task
  obtain ⟨i, there⟩ := List.mem_iff_getElem?.mp member
  cases task with
  | waiting job =>
    cases spare : pool.free with
    -- All permits are held, and one of their holders can go on.
    | zero =>
      have balance := orderly.permits
      have busy : 0 < pool.held := by omega
      obtain ⟨other, listed, holds⟩ := List.countP_pos_iff.mp busy
      obtain ⟨j, known⟩ := List.mem_iff_getElem?.mp listed
      exact moves_of_holdsPermit known holds
    | succ free => exact ⟨.acquire i, by simp only [step?, there, spare, Option.isSome_some]⟩
  | running job => exact moves_of_holdsPermit there rfl
  | finished result => exact moves_of_holdsPermit there rfl
  | released result => exact ⟨.collect i, by simp only [step?, there, Option.isSome_some]⟩
  | collected => exact absurd rfl unsettled

theorem Reaches.trans {start middle last : Pool α ρ} (first : Reaches work start middle)
    (rest : Reaches work middle last) : Reaches work start last := by
  induction rest with
  | start => exact first
  | step _ made ih => exact ih.step made

/-- A run can be brought to its end from wherever it is. -/
theorem settles (orderly : Orderly work permits jobs pool) (some_permit : 0 < permits) :
    ∃ final, Reaches work pool final ∧ final.Settled := by
  induction pool using (wellFounded_moves work).induction with
  | _ pool ih =>
    by_cases settled : pool.Settled
    · exact ⟨pool, .start, settled⟩
    · obtain ⟨move, possible⟩ := moves_of_not_settled orderly some_permit settled
      obtain ⟨next, made⟩ := Option.isSome_iff_exists.mp possible
      obtain ⟨final, reached, done⟩ := ih next ⟨move, made⟩ (orderly.step made)
      exact ⟨final, (Reaches.start.step made).trans reached, done⟩

/-! One unit after the other. -/

theorem reaches_play (work : α → ρ) {start pool : Pool α ρ} (moves : List Move)
    (reached : Reaches work start pool) : Reaches work start (pool.play work moves) := by
  induction moves generalizing pool with
  | nil => exact reached
  | cons move moves ih =>
    have step : Reaches work start ((pool.step? work move).getD pool) := by
      cases made : pool.step? work move with
      | none => exact reached
      | some next => exact reached.step made
    exact ih step

theorem play_unit (work : α → ρ) {pool : Pool α ρ} {before after : List (Task α ρ)} {job : α}
    (split : pool.tasks = before ++ .waiting job :: after) (some_free : 0 < pool.free) :
    (pool.play work [.acquire before.length, .finish before.length, .release before.length,
        .collect before.length]).tasks = before ++ .collected :: after ∧
      (pool.play work [.acquire before.length, .finish before.length, .release before.length,
        .collect before.length]).free = pool.free := by
  obtain ⟨free, tasks, results⟩ := pool
  cases free with
  | zero => cases some_free
  | succ free =>
    cases split
    simp [play, step?]

theorem inTurn_succ (count : Nat) : inTurn (count + 1) =
    inTurn count ++ [.acquire count, .finish count, .release count, .collect count] := by
  simp [inTurn, List.range_succ]

theorem play_inTurn (work : α → ρ) {permits : Nat} (some_permit : 0 < permits) (jobs : List α)
    (count : Nat) (within : count ≤ jobs.length) :
    ((start permits jobs : Pool α ρ).play work (inTurn count)).tasks =
        List.replicate count .collected ++ (jobs.drop count).map .waiting ∧
      ((start permits jobs : Pool α ρ).play work (inTurn count)).free = permits := by
  induction count with
  | zero => exact ⟨rfl, rfl⟩
  | succ count ih =>
    obtain ⟨tasks, free⟩ := ih (Nat.le_of_succ_le within)
    have next : jobs.drop count = jobs[count] :: jobs.drop (count + 1) :=
      List.drop_eq_getElem_cons within
    rw [next, List.map_cons] at tasks
    have unit := play_unit work tasks (Nat.lt_of_lt_of_eq some_permit free.symm)
    rw [List.length_replicate] at unit
    rw [inTurn_succ, play, List.foldl_append]
    refine ⟨unit.1.trans ?_, unit.2.trans free⟩
    rw [List.replicate_succ', List.append_assoc, List.singleton_append]

end Pool

open Pool in
/-- One of the possible runs, which leaves nothing open. -/
theorem run_eq_map (work : α → ρ) {permits : Nat} (some_permit : 0 < permits) (jobs : List α) :
    run work permits jobs = jobs.map fun job => some (work job) := by
  have reached := reaches_play work (inTurn jobs.length)
    (.start : Reaches work (start permits jobs) (start permits jobs))
  refine reached.orderly.results_of_settled fun task member => ?_
  rw [(play_inTurn work some_permit jobs jobs.length (Nat.le_refl _)).1, List.drop_length] at member
  rw [List.map_nil, List.append_nil] at member
  exact List.eq_of_mem_replicate member

end PlanReferee.WorkerPool
