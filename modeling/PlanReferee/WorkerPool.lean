/-! A pool of workers. Units of work wait for one of a fixed number of permits, run, give the permit
back and are collected, each into its own place. Which unit moves next is left open. -/

namespace PlanReferee.WorkerPool

variable {α ρ : Type}

/-- How far one unit of work is. -/
inductive Task (α ρ : Type) where
  | waiting (job : α)
  | running (job : α)
  /-- Done, and still holding its permit. -/
  | finished (result : ρ)
  | released (result : ρ)
  | collected
deriving DecidableEq, Repr

structure Pool (α ρ : Type) where
  /-- The permits that nobody holds. -/
  free : Nat
  tasks : List (Task α ρ)
  results : List (Option ρ)
deriving DecidableEq, Repr

inductive Move where
  | acquire (i : Nat)
  | finish (i : Nat)
  | release (i : Nat)
  | collect (i : Nat)
deriving DecidableEq, Repr

namespace Pool

def start (permits : Nat) (jobs : List α) : Pool α ρ where
  free := permits
  tasks := jobs.map .waiting
  results := jobs.map fun _ => none

/-- The pool after a move, if the move is possible. -/
def step? (work : α → ρ) (pool : Pool α ρ) : Move → Option (Pool α ρ)
  | .acquire i =>
    match pool.tasks[i]?, pool.free with
    | some (.waiting job), free + 1 =>
      some { pool with free, tasks := pool.tasks.set i (.running job) }
    | _, _ => none
  | .finish i =>
    match pool.tasks[i]? with
    | some (.running job) => some { pool with tasks := pool.tasks.set i (.finished (work job)) }
    | _ => none
  | .release i =>
    match pool.tasks[i]? with
    | some (.finished result) =>
      some { pool with free := pool.free + 1, tasks := pool.tasks.set i (.released result) }
    | _ => none
  | .collect i =>
    match pool.tasks[i]? with
    | some (.released result) =>
      some { pool with
        tasks := pool.tasks.set i .collected
        results := pool.results.set i (some result) }
    | _ => none

/-- Makes moves in turn and leaves out those that are not possible. -/
def play (work : α → ρ) (pool : Pool α ρ) (moves : List Move) : Pool α ρ :=
  moves.foldl (fun pool move => (pool.step? work move).getD pool) pool

end Pool

/-- One unit after the other, each to its end. -/
def inTurn (count : Nat) : List Move :=
  (List.range count).flatMap fun i => [.acquire i, .finish i, .release i, .collect i]

def run (work : α → ρ) (permits : Nat) (jobs : List α) : List (Option ρ) :=
  ((Pool.start permits jobs).play work (inTurn jobs.length)).results

end PlanReferee.WorkerPool
