import DungeonPortfolio.Connection
import DungeonPortfolio.Library.Execution
import Mathlib.Logic.Function.Basic

/-!
# The workers of the dispatcher

`DbDispatcher` with its threads: every worker of the pool runs `worker_loop` on a
connection of its own, the event loop submits jobs, takes completions and stops
the pool. A step is one operation on a queue under its mutex, one SQL statement,
or one write to the eventfd; `history` records what has happened and is read by
no step.
-/

namespace DungeonPortfolio.Workers

open DungeonPortfolio.Text DungeonPortfolio.Dispatcher DungeonPortfolio.Schema
open DungeonPortfolio.Statements DungeonPortfolio.Connection
open Library Library.Execution

set_option autoImplicit false

/-- A job popped from the queue, numbered in the order of the pops. -/
structure Popped where
  ticket : Nat
  job : DbJob
  deriving DecidableEq, Repr

/-- Where a worker is in `worker_loop`. -/
inductive Phase where
  | popping
  | connecting (popped : Popped)
  | executing (popped : Popped) (script : JobScript DbCompletion)
  /-- Between the push of a completion and the write to the eventfd. -/
  | signalling
  | exited

structure Worker where
  /-- `connection`, null until the first job. -/
  connection : Option Link
  phase : Phase

def Worker.fresh : Worker := ⟨none, .popping⟩

def Worker.holds (worker : Worker) : Option Popped :=
  match worker.phase with
  | .connecting popped => some popped
  | .executing popped _ => some popped
  | .popping | .signalling | .exited => none

inductive Event where
  | accepted (ticket : Nat) (job : DbJob)
  | refused (job : DbJob)
  | popped (worker : Nat) (popped : Popped)
  | ran (worker ticket : Nat) (statement : Statement)
  | pushed (worker ticket : Nat) (completion : DbCompletion)
  | delivered (completion : DbCompletion)
  | left (worker : Nat)

def Event.accepted? : Event → Option (Nat × DbJob)
  | .accepted ticket job => some (ticket, job)
  | _ => none

def Event.popped? : Event → Option (Nat × Popped)
  | .popped worker taken => some (worker, taken)
  | _ => none

def Event.pushed? : Event → Option (Nat × Nat × DbCompletion)
  | .pushed worker ticket completion => some (worker, ticket, completion)
  | _ => none

def Event.delivered? : Event → Option DbCompletion
  | .delivered completion => some completion
  | _ => none

structure Pool where
  poolSize : Nat
  jobs : BlockingQueue DbJob
  workers : Nat → Worker
  completions : List DbCompletion
  eventCount : Nat
  /-- `stop()` has joined the workers. -/
  joined : Bool
  store : Store
  history : List Event

namespace Pool

def accepted (pool : Pool) : List (Nat × DbJob) := pool.history.filterMap Event.accepted?
def popped (pool : Pool) : List (Nat × Popped) := pool.history.filterMap Event.popped?
def pushed (pool : Pool) : List (Nat × Nat × DbCompletion) := pool.history.filterMap Event.pushed?
def delivered (pool : Pool) : List DbCompletion := pool.history.filterMap Event.delivered?

/-- After `start()`, on a server with these tables. -/
def start (poolSize : Nat) (tables : Tables) : Pool where
  poolSize := poolSize
  jobs := ⟨[], false⟩
  workers := fun _ => Worker.fresh
  completions := []
  eventCount := 0
  joined := false
  store := ⟨tables, []⟩
  history := []

def record (pool : Pool) (event : Event) : Pool := { pool with history := pool.history ++ [event] }

def setWorker (pool : Pool) (index : Nat) (worker : Worker) : Pool :=
  { pool with workers := Function.update pool.workers index worker }

def submit (pool : Pool) (job : DbJob) : Pool :=
  { pool with jobs := pool.jobs.push job }.record
    (if pool.jobs.closed then .refused job else .accepted pool.accepted.length job)

/-- The first half of `stop()`. -/
def close (pool : Pool) : Pool := { pool with jobs := pool.jobs.close }

/-- The second half: every worker has left its loop. -/
def join (pool : Pool) : Option Pool :=
  if pool.jobs.closed ∧ ∀ index < pool.poolSize, (pool.workers index).phase matches .exited then
    some { pool with joined := true }
  else none

def popCompletion (pool : Pool) : Pool :=
  match pool.completions with
  | [] => pool
  | completion :: rest => { pool with completions := rest }.record (.delivered completion)

def drainEvents (pool : Pool) : Pool := { pool with eventCount := 0 }

/-- `while (jobs_.pop(job))` -/
def pop (pool : Pool) (index : Nat) : Option Pool :=
  match (pool.workers index).phase, pool.jobs.pop with
  | .popping, some none =>
      some ((pool.setWorker index ⟨(pool.workers index).connection, .exited⟩).record (.left index))
  | .popping, some (some (job, jobs)) =>
      let popped : Popped := ⟨pool.popped.length, job⟩
      let phase : Phase := if (pool.workers index).connection.isNone then .connecting popped
        else .executing popped (executeJob job)
      some (({ pool with jobs }.setWorker index ⟨(pool.workers index).connection, phase⟩).record
        (.popped index popped))
  | _, _ => none

/-- `connection.reset(new MysqlConnection(config_))`, which may throw. -/
def connect (pool : Pool) (index : Nat) (outcome : Except StdException Unit) : Option Pool :=
  match (pool.workers index).phase, outcome with
  | .connecting popped, .ok () =>
      some (pool.setWorker index ⟨some Link.fresh, .executing popped (executeJob popped.job)⟩)
  | .connecting popped, .error error =>
      some (pool.setWorker index ⟨none, .executing popped (.throws error)⟩)
  | _, _ => none

def execute (mysql : Mysql) (pool : Pool) (index : Nat) (choice : Choice) : Option Pool :=
  match (pool.workers index).phase, (pool.workers index).connection with
  | .executing popped (.call statement next), some link =>
      (perform mysql index (pool.store, link) statement choice).map
        fun (answer, store, link) =>
          ({ pool with store }.setWorker index ⟨some link, .executing popped (next answer)⟩).record
            (.ran index popped.ticket statement)
  | _, _ => none

/-- `push_completion` of the result or of the exception, under the mutex. -/
def push (pool : Pool) (index : Nat) : Option Pool :=
  match (pool.workers index).phase with
  | .executing popped script =>
      script.ended.map fun result =>
        let completion := Connection.pushed popped.job result
        ({ pool with completions := pool.completions ++ [completion] }.setWorker index
          ⟨(pool.workers index).connection, .signalling⟩).record
            (.pushed index popped.ticket completion)
  | _ => none

def signal (pool : Pool) (index : Nat) : Option Pool :=
  match (pool.workers index).phase with
  | .signalling => some ({ pool with eventCount := pool.eventCount + 1 }.setWorker index
      ⟨(pool.workers index).connection, .popping⟩)
  | _ => none

/-- The connection breaks down: the server rolls back and frees its locks. -/
def lose (pool : Pool) (index : Nat) : Option Pool :=
  (pool.workers index).connection.map fun _ =>
    { pool with store := pool.store.release index }.setWorker index
      ⟨some ⟨false, none⟩, (pool.workers index).phase⟩

end Pool

inductive Act where
  | pop
  | connect (outcome : Except StdException Unit)
  | execute (choice : Choice)
  | push
  | signal
  | lose

inductive Label where
  | submit (job : DbJob)
  | close
  | join
  | popCompletion
  | drainEvents
  | worker (index : Nat) (act : Act)

def act (mysql : Mysql) (pool : Pool) (index : Nat) : Act → Option Pool
  | .pop => pool.pop index
  | .connect outcome => pool.connect index outcome
  | .execute choice => pool.execute mysql index choice
  | .push => pool.push index
  | .signal => pool.signal index
  | .lose => pool.lose index

def step (mysql : Mysql) (pool : Pool) : Label → Option Pool
  | .submit job => some (pool.submit job)
  | .close => some pool.close
  | .join => pool.join
  | .popCompletion => some pool.popCompletion
  | .drainEvents => some pool.drainEvents
  | .worker index chosen => if index < pool.poolSize then act mysql pool index chosen else none

namespace Pool

variable {pool after : Pool} {index : Nat} {event : Event} {worker : Worker}

@[simp] theorem record_accepted :
    (pool.record event).accepted = pool.accepted ++ event.accepted?.toList := by
  rw [accepted, record, List.filterMap_append]
  cases event <;> rfl

@[simp] theorem record_popped :
    (pool.record event).popped = pool.popped ++ event.popped?.toList := by
  rw [popped, record, List.filterMap_append]
  cases event <;> rfl

@[simp] theorem record_pushed :
    (pool.record event).pushed = pool.pushed ++ event.pushed?.toList := by
  rw [pushed, record, List.filterMap_append]
  cases event <;> rfl

@[simp] theorem record_delivered :
    (pool.record event).delivered = pool.delivered ++ event.delivered?.toList := by
  rw [delivered, record, List.filterMap_append]
  cases event <;> rfl

@[simp] theorem set_worker_same :
    (pool.setWorker index worker).workers index = worker := Function.update_self _ _ _

theorem set_worker_other {other : Nat} (apart : other ≠ index) :
    (pool.setWorker index worker).workers other = pool.workers other :=
  Function.update_of_ne apart _ _

/-- A worker that asks for a job leaves, or gets the first one. -/
theorem pop_cases (taken : pool.pop index = some after) :
    (pool.workers index).phase = .popping ∧
      ((pool.jobs.items = [] ∧ pool.jobs.closed = true ∧
          after = (pool.setWorker index ⟨(pool.workers index).connection, .exited⟩).record
            (.left index)) ∨
        ∃ job rest phase, pool.jobs.items = job :: rest ∧
          (((pool.workers index).connection = none ∧ phase = .connecting ⟨pool.popped.length, job⟩) ∨
            ((∃ link, (pool.workers index).connection = some link) ∧
              phase = .executing ⟨pool.popped.length, job⟩ (executeJob job))) ∧
          after = ({ pool with jobs := { pool.jobs with items := rest } }.setWorker index
            ⟨(pool.workers index).connection, phase⟩).record
              (.popped index ⟨pool.popped.length, job⟩)) := by
  unfold pop BlockingQueue.pop at taken
  cases phase : (pool.workers index).phase with
  | popping =>
      refine ⟨rfl, ?_⟩
      cases items : pool.jobs.items with
      | nil =>
          left
          cases closed : pool.jobs.closed with
          | false => simp [phase, items, closed] at taken
          | true =>
              simp only [phase, items, closed, if_true] at taken
              cases taken
              exact ⟨rfl, rfl, rfl⟩
      | cons job rest =>
          right
          simp only [phase, items] at taken
          cases connection : (pool.workers index).connection with
          | none =>
              rw [connection] at taken
              cases taken
              exact ⟨job, rest, _, rfl, Or.inl ⟨rfl, rfl⟩, rfl⟩
          | some link =>
              rw [connection] at taken
              cases taken
              exact ⟨job, rest, _, rfl, Or.inr ⟨⟨link, rfl⟩, rfl⟩, rfl⟩
  | connecting | executing | signalling | exited => simp [phase] at taken

theorem connect_cases {outcome : Except StdException Unit}
    (taken : pool.connect index outcome = some after) :
    ∃ popped, (pool.workers index).phase = .connecting popped ∧
      ((outcome = .ok () ∧ after = pool.setWorker index
          ⟨some Link.fresh, .executing popped (executeJob popped.job)⟩) ∨
        ∃ error, outcome = .error error ∧
          after = pool.setWorker index ⟨none, .executing popped (.throws error)⟩) := by
  unfold connect at taken
  cases phase : (pool.workers index).phase with
  | connecting popped =>
      refine ⟨popped, rfl, ?_⟩
      rw [phase] at taken
      cases outcome with
      | ok =>
          cases taken
          exact Or.inl ⟨rfl, rfl⟩
      | error error =>
          cases taken
          exact Or.inr ⟨error, rfl, rfl⟩
  | popping | executing | signalling | exited => simp [phase] at taken

theorem execute_cases {mysql : Mysql} {choice : Choice}
    (taken : pool.execute mysql index choice = some after) :
    ∃ popped statement next link answer store link',
      (pool.workers index).phase = .executing popped (.call statement next) ∧
      (pool.workers index).connection = some link ∧
      perform mysql index (pool.store, link) statement choice = some (answer, (store, link')) ∧
      after = ({ pool with store }.setWorker index
        ⟨some link', .executing popped (next answer)⟩).record (.ran index popped.ticket statement) := by
  unfold execute at taken
  cases phase : (pool.workers index).phase with
  | executing popped script =>
      cases script with
      | call statement next =>
          cases connection : (pool.workers index).connection with
          | none => simp [phase, connection] at taken
          | some link =>
              simp only [phase, connection] at taken
              rcases Option.map_eq_some_iff.mp taken with ⟨⟨answer, store, link'⟩, performed, rfl⟩
              exact ⟨popped, statement, next, link, answer, store, link', rfl, rfl, performed, rfl⟩
      | done | throws => simp [phase] at taken
  | popping | connecting | signalling | exited => simp [phase] at taken

theorem push_cases (taken : pool.push index = some after) :
    ∃ popped script result, (pool.workers index).phase = .executing popped script ∧
      script.ended = some result ∧
      after = ({ pool with completions := pool.completions ++
          [Connection.pushed popped.job result] }.setWorker index
            ⟨(pool.workers index).connection, .signalling⟩).record
              (.pushed index popped.ticket (Connection.pushed popped.job result)) := by
  unfold push at taken
  cases phase : (pool.workers index).phase with
  | executing popped script =>
      simp only [phase] at taken
      rcases Option.map_eq_some_iff.mp taken with ⟨result, ended, rfl⟩
      exact ⟨popped, script, result, rfl, ended, rfl⟩
  | popping | connecting | signalling | exited => simp [phase] at taken

theorem signal_cases (taken : pool.signal index = some after) :
    (pool.workers index).phase = .signalling ∧
      after = { pool with eventCount := pool.eventCount + 1 }.setWorker index
        ⟨(pool.workers index).connection, .popping⟩ := by
  unfold signal at taken
  cases phase : (pool.workers index).phase with
  | signalling =>
      rw [phase] at taken
      cases taken
      exact ⟨rfl, rfl⟩
  | popping | connecting | executing | exited => simp [phase] at taken

theorem lose_cases (taken : pool.lose index = some after) :
    ∃ link, (pool.workers index).connection = some link ∧
      after = { pool with store := pool.store.release index }.setWorker index
        ⟨some ⟨false, none⟩, (pool.workers index).phase⟩ := by
  rcases Option.map_eq_some_iff.mp taken with ⟨link, connection, rfl⟩
  exact ⟨link, connection, rfl⟩

theorem join_cases (taken : pool.join = some after) :
    (pool.jobs.closed = true ∧ ∀ index < pool.poolSize, (pool.workers index).phase = .exited) ∧
      after = { pool with joined := true } := by
  unfold join at taken
  split_ifs at taken with all
  cases taken
  refine ⟨⟨all.1, ?_⟩, rfl⟩
  intro index bound
  have left := all.2 index bound
  cases phase : (pool.workers index).phase with
  | exited => rfl
  | popping | connecting | executing | signalling => simp [phase] at left

end Pool

end DungeonPortfolio.Workers
