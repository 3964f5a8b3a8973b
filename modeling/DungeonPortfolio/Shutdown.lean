import DungeonPortfolio.EndToEnd
import DungeonPortfolio.Progress

/-!
# The way out

`run()` returns by an exception only, and the destructors end the process: `stop()`
closes the sessions, then the dispatcher's closes the queue and joins the workers.
Nothing is told to a client any more, but every job that was submitted is executed,
and the workers reach their end.
-/

namespace DungeonPortfolio.Shutdown

open DungeonPortfolio.Text DungeonPortfolio.Dispatcher DungeonPortfolio.Schema
open DungeonPortfolio.Statements DungeonPortfolio.Connection
open DungeonPortfolio.Server DungeonPortfolio.Workers DungeonPortfolio.ExactlyOnce
open DungeonPortfolio.Linearized
open DungeonPortfolio.Dispatching DungeonPortfolio.Program DungeonPortfolio.EndToEnd DungeonPortfolio.Progress
open Library.Execution Library.Progress

set_option autoImplicit false

structure Ended (process : Process) : Prop where
  standing : Standing process
  working : Working process.pool
  raised : hasRaised process.system = true
  positive : 0 < process.pool.poolSize

variable {mysql : Mysql} {process next : Process} {label : Program.Label}

/-- The step of the pool that a step of the process stands for on the way out. -/
def poolMove : Program.Label → Option Workers.Label
  | .worker index chosen => some (.worker index chosen)
  | .close => some .close
  | .join => some .join
  | .ring _ | .unwind => none

inductive Ends (mysql : Mysql) (process next : Process) : Program.Label → Prop where
  | unwind (running : process.stopping = false) (stopping : next.stopping = true)
      (pool : next.pool = process.pool) : Ends mysql process next .unwind
  | moves {label : Program.Label} {move : Workers.Label} (moved : poolMove label = some move)
      (stopping : next.stopping = process.stopping)
      (taken : Workers.step mysql process.pool move = some next.pool) :
      Ends mysql process next label

theorem ended_steps (ended : Ended process) (taken : Program.step mysql process label = some next) :
    Ends mysql process next label ∧ next.system.history = process.system.history ∧
      hasRaised next.system = true := by
  cases steps ended.standing taken with
  | ring loop moved history answered =>
      have running := not_raised_of_step moved
      rw [ended.raised] at running
      cases running
  | @worker index chosen pool bound moved =>
      exact ⟨Ends.moves rfl rfl ((if_pos bound).trans moved), rfl, ended.raised⟩
  | unwind raised running => exact ⟨Ends.unwind running rfl rfl, rfl, ended.raised⟩
  | close stopping => exact ⟨Ends.moves rfl rfl rfl, rfl, ended.raised⟩
  | join stopping joined => exact ⟨Ends.moves rfl rfl joined, rfl, ended.raised⟩

theorem pool_size_step {pool after : Pool} {move : Workers.Label}
    (taken : Workers.step mysql pool move = some after) : after.poolSize = pool.poolSize := by
  rcases intake_step taken with ⟨_, _, intake⟩ | ⟨_, intake⟩ | ⟨_, _, intake⟩ <;>
    exact intake.poolSize

theorem ended_step (ended : Ended process) (taken : Program.step mysql process label = some next) :
    Ended next := by
  have standing := standing_step ended.standing taken
  rcases ended_steps ended taken with ⟨ends, _, raised⟩
  cases ends with
  | unwind running stopping pool =>
      refine ⟨standing, ?_, raised, ?_⟩
      · rw [pool]
        exact ended.working
      · rw [pool]
        exact ended.positive
  | moves moved stopping taken =>
      refine ⟨standing, working_step ended.working taken, raised, ?_⟩
      rw [pool_size_step taken]
      exact ended.positive

def workedBy (label : Program.Label) : Nat := ((poolMove label).map worked).getD 0

theorem ended_pays (mysql : Mysql) :
    Pays (Program.step mysql) (fun process count => Ended process ∧ Left process.pool count)
      workedBy fun _ => 0 := by
  rintro process label next before ⟨ended, left⟩ taken
  have after := ended_step ended taken
  cases (ended_steps ended taken).1 with
  | unwind running stopping pool =>
      refine ⟨before, ⟨after, ?_⟩, Nat.le_refl _⟩
      rw [pool]
      exact left
  | @moves _ move moved stopping taken =>
      rcases left_pays mysql process.pool move next.pool before left taken with
        ⟨later, remains, paid⟩
      have free : brought move = 0 := by
        cases label with
        | ring | unwind => cases moved
        | worker | close | join =>
            cases moved
            rfl
      refine ⟨later, ⟨after, remains⟩, ?_⟩
      unfold workedBy
      rw [moved, Option.map_some, Option.getD_some]
      omega

def Due (process : Process) : Program.Label → Prop
  | .ring _ => False
  | .unwind => True
  | .close => process.pool.jobs.closed = false
  | .join => process.pool.joined = false
  | .worker index chosen =>
      index < process.pool.poolSize ∧ chosen = proceed (process.pool.workers index)

/-- The workers' steps and the three steps of the destructors. -/
def ToGo (process : Process) (count : Nat) : Prop :=
  ∃ workers, Left process.pool workers ∧
    count = workers + (!process.stopping).toNat + (!process.pool.jobs.closed).toNat +
      (!process.pool.joined).toNat

theorem joined_act {pool after : Pool} {index : Nat} {chosen : Workers.Act}
    (taken : Workers.act mysql pool index chosen = some after) : after.joined = pool.joined := by
  cases chosen with
  | pop =>
      rcases Pool.pop_cases taken with ⟨_, ⟨_, _, rfl⟩ | ⟨job, rest, phase, _, _, rfl⟩⟩ <;> rfl
  | connect outcome =>
      rcases Pool.connect_cases taken with ⟨popped, _, ⟨_, rfl⟩ | ⟨error, _, rfl⟩⟩ <;> rfl
  | execute choice =>
      rcases Pool.execute_cases taken with
        ⟨popped, statement, next, link, answer, store, later, _, _, _, rfl⟩
      rfl
  | push =>
      rcases Pool.push_cases taken with ⟨popped, script, result, _, _, rfl⟩
      rfl
  | signal =>
      rcases Pool.signal_cases taken with ⟨_, rfl⟩
      rfl
  | lose =>
      rcases Pool.lose_cases taken with ⟨link, _, rfl⟩
      rfl

theorem due_drops (mysql : Mysql) (process : Process) (label : Program.Label) (next : Process)
    (before : Nat) (ended : Ended process) (due : Due process label) (toGo : ToGo process before)
    (taken : Program.step mysql process label = some next) : ∃ less < before, ToGo next less := by
  rcases toGo with ⟨workers, left, rfl⟩
  have followed := (ended_steps ended taken).1
  cases label with
  | ring label => exact due.elim
  | unwind =>
      cases followed with
      | unwind running stopping pool =>
          refine ⟨_, ?_, workers, by rw [pool]; exact left, rfl⟩
          rw [running, stopping, pool, Bool.not_false, Bool.not_true, Bool.toNat_true,
            Bool.toNat_false]
          omega
      | moves moved => cases moved
  | close =>
      cases followed with
      | moves moved stopping taken =>
          cases moved
          have same : next.pool = process.pool.close := (Option.some.inj taken).symm
          have closed : next.pool.jobs.closed = true := by
            rw [same]
            rfl
          have joined : next.pool.joined = process.pool.joined := by
            rw [same]
            rfl
          have still : Left next.pool workers := by
            rw [same]
            exact left_same left rfl rfl rfl
          have queueOpen : process.pool.jobs.closed = false := due
          refine ⟨_, ?_, workers, still, rfl⟩
          rw [stopping, closed, joined, queueOpen, Bool.not_false, Bool.not_true, Bool.toNat_true,
            Bool.toNat_false]
          omega
  | join =>
      cases followed with
      | moves moved stopping taken =>
          cases moved
          have same := (Pool.join_cases taken).2
          have closed : next.pool.jobs.closed = process.pool.jobs.closed := by
            rw [same]
          have joined : next.pool.joined = true := by
            rw [same]
          have still : Left next.pool workers := by
            rw [same]
            exact left_same left rfl rfl rfl
          have running : process.pool.joined = false := due
          refine ⟨_, ?_, workers, still, rfl⟩
          rw [stopping, closed, joined, running, Bool.not_false, Bool.not_true, Bool.toNat_true,
            Bool.toNat_false]
          omega
  | worker index chosen =>
      rcases due with ⟨bound, rfl⟩
      cases followed with
      | moves moved stopping taken =>
          cases moved
          have acted : Workers.act mysql process.pool index (proceed (process.pool.workers index)) =
              some next.pool := (if_pos bound).symm.trans taken
          rcases proceeding_drops mysql process.pool _ next.pool workers ended.working
            ⟨index, bound, rfl⟩ left taken with ⟨less, lower, remains⟩
          refine ⟨_, ?_, less, remains, rfl⟩
          rw [stopping, joined_act acted, (intake_act acted).closed, Bool.or_false]
          omega

theorem due_moves (mysql : Mysql) (process : Process) (ended : Ended process)
    (running : ¬process.pool.joined = true) :
    ∃ label next, Due process label ∧ Program.step mysql process label = some next := by
  cases stopping : process.stopping with
  | false =>
      refine ⟨.unwind, { process with system := stop process.system, stopping := true }, trivial, ?_⟩
      simp only [Program.step, ended.raised, stopping]
      rfl
  | true =>
      cases closed : process.pool.jobs.closed with
      | false => exact ⟨.close, _, closed, if_pos stopping⟩
      | true =>
          by_cases rest : AtRest process.pool
          · have done := done_of_rest ended.working ended.positive rest
            rcases Option.isSome_iff_exists.mp (done.joins closed) with ⟨pool, joined⟩
            refine ⟨.join, { process with pool }, Bool.eq_false_iff.mpr running, ?_⟩
            simp only [Program.step, stopping, joined, if_true]
            rfl
          · rcases moves_of_working mysql process.pool ended.working rest with
              ⟨_, pool, ⟨index, bound, rfl⟩, taken⟩
            refine ⟨.worker index (proceed (process.pool.workers index)), { process with
              system := process.system.setDatabase (dispatcherOf pool), pool }, ⟨bound, rfl⟩, ?_⟩
            simp only [Program.step, taken, Option.map_some]

structure WindsDown (mysql : Mysql) (raised : Process) : Prop where
  /-- No line is queued any more, no job submitted and no completion handled. -/
  silent : ∀ labels last, run (Program.step mysql) raised labels = some last →
    last.system.history = raised.system.history ∧
      (last.stopping = true → ∀ fd, last.system.sessions fd = none)
  bounded : ∀ labels last, run (Program.step mysql) raised labels = some last →
    (labels.map workedBy).sum ≤ 9 * (raised.pool.jobs.items.length + raised.pool.poolSize)
  /-- At the exit every job that was ever submitted has been executed, once. -/
  completed : ∀ labels last, run (Program.step mysql) raised labels = some last →
    last.pool.joined = true → CompletedOnce (submittedIn raised.system.history) last.pool ∧
      AllCompleted last.pool
  /-- The exit is reached where every due step is taken. -/
  exits : ∃ labels last, run (Program.step mysql) raised labels = some last ∧
    last.pool.joined = true ∧
      labels.length ≤ 9 * (raised.pool.jobs.items.length + raised.pool.poolSize) + 3 ∧
      EveryStep (Program.step mysql) (fun source label _ => Due source label) raised labels

theorem ended_run {raised last : Process} {labels : List Program.Label} (ended : Ended raised)
    (ran : run (Program.step mysql) raised labels = some last) :
    Ended last ∧ last.system.history = raised.system.history := by
  refine @invariant_of_run _ _ _ (fun process => Ended process ∧
    process.system.history = raised.system.history) _ _ _ ⟨ended, rfl⟩ ?_ ran
  rintro source label next ⟨before, same⟩ taken
  refine ⟨ended_step before taken, ?_⟩
  rw [(ended_steps before taken).2.1, same]

theorem all_completed_of_joined {pool : Pool} (working : Working pool) (positive : 0 < pool.poolSize)
    (joined : pool.joined = true) : AllCompleted pool :=
  (done_of_rest working positive fun index bound =>
    Or.inl ((working.accounted.stopped joined).2 index bound)).completed

/-- After an exception in `run()`, however the workers and the destructors are
interleaved, the process falls silent, completes the jobs it has and can exit. -/
theorem exception_winds_down {config : ServerConfig} {poolSize : Nat} {tables : Tables}
    {raised : Process} {labels : List Program.Label} (positive : 0 < poolSize)
    (ran : run (Program.step mysql) (Program.start config poolSize tables) labels = some raised)
    (exception : hasRaised raised.system = true) : WindsDown mysql raised := by
  have standing := standing_run ran
  rcases pool_run (fun _ => True) (fun _ _ => trivial) (fun label _ => by cases label <;> trivial)
    ran with ⟨moves, followed, _⟩
  have ended : Ended raised := by
    refine ⟨standing, working_run followed, exception, ?_⟩
    rw [(accepted_run followed).1]
    exact positive
  rcases run_cost (left_pays mysql) (left_start poolSize tables) followed with ⟨count, left, _⟩
  have most := left_le left
  refine ⟨?_, ?_, ?_, ?_⟩
  · intro later last further
    have after := ended_run ended further
    exact ⟨after.2, after.1.standing.sessions⟩
  · intro later last further
    rcases run_cost (ended_pays mysql) ⟨ended, left⟩ further with ⟨after, _, paid⟩
    have nothing : (later.map fun _ => 0).sum = 0 := by simp
    omega
  · intro later last further joined
    rcases ended_run ended further with ⟨after, same⟩
    have jobs : last.pool.accepted.map Prod.snd = submittedIn raised.system.history := by
      rw [accepted_of_exchanges, after.standing.exchanged, same]
      rfl
    rw [← jobs]
    exact ⟨completed_once_of_accounted after.standing.accounted after.positive,
      all_completed_of_joined after.working after.positive joined⟩
  · rcases run_to_rest (due_moves mysql) (fun _ _ _ before _ taken => ended_step before taken)
      (due_drops mysql) ended ⟨count, left, rfl⟩ with ⟨steps, last, further, joined, short, every⟩
    refine ⟨steps, last, further, joined, Nat.le_trans short ?_, every⟩
    have flags : ∀ flag : Bool, (!flag).toNat ≤ 1 := fun flag => by cases flag <;> decide
    have first := flags raised.stopping
    have second := flags raised.pool.jobs.closed
    have third := flags raised.pool.joined
    omega

/-- The exception comes with a job in the queue. -/
def brokenOff : List Program.Label :=
  [.ring .tick, .ring (.accept 0 5), .ring .tick, .ring .tick, .ring .tick, .ring .tick, .ring .tick,
    .ring (.recv 2 (ascii "REGISTER ada Ada\nMOVE 99999999999 0\n")), .ring .tick, .ring .tick,
    .ring .tick]

theorem exception_winds_down_broken_off :
    ∃ raised, run (Program.step Mysql.binary) (Program.start .default 2 Tables.empty) brokenOff =
        some raised ∧ raised.pool.jobs.items.length = 1 ∧ WindsDown Mysql.binary raised := by
  have ends : (run (Program.step Mysql.binary) (Program.start .default 2 Tables.empty)
      brokenOff).any (fun process => hasRaised process.system &&
        process.pool.jobs.items.length == 1) = true := by
    decide
  rcases Option.any_eq_true _ _ |>.mp ends with ⟨raised, ran, both⟩
  rcases Bool.and_eq_true_iff.mp both with ⟨exception, waiting⟩
  exact ⟨raised, ran, eq_of_beq waiting, exception_winds_down (by decide) ran exception⟩

end DungeonPortfolio.Shutdown
