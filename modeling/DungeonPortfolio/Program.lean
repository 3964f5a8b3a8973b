import DungeonPortfolio.Dispatching
import DungeonPortfolio.Requests

/-!
# The whole process

`main()` once everything has been set up: the event loop, the kernel below it and
the workers with their connections, up to the exit of the process after an
exception has left `run()`. The workers are no assumption on the loop's side any
more: a step of a worker is its own, and what the loop sees is computed from it.
-/

namespace DungeonPortfolio.Program

open DungeonPortfolio.Text DungeonPortfolio.World DungeonPortfolio.Dispatcher DungeonPortfolio.Schema
open DungeonPortfolio.Server DungeonPortfolio.ServerActs DungeonPortfolio.ServerSteps
open DungeonPortfolio.Requests DungeonPortfolio.Workers DungeonPortfolio.ExactlyOnce
open DungeonPortfolio.Dispatching
open Library.Execution Library.Simulation

set_option autoImplicit false

/-- What `main()` holds when `run()` is called. -/
structure Process where
  system : System
  pool : Pool
  stopping : Bool

/-- A step of the event loop or of the kernel, a step of a worker, and the three
steps of the destructors once an exception has left `run()`. -/
inductive Label where
  | ring (label : Server.Label)
  | worker (index : Nat) (chosen : Workers.Act)
  | unwind
  | close
  | join

/-- The steps that a dispatcher without workers of its own would take. -/
def isWorkers : Server.Label → Bool
  | .take | .finish _ _ _ | .signal => true
  | .server _ | .accept _ _ | .recv _ _ | .send _ _ | .fail _ _ | .poll _ => false

/-- `submit` and `pop_completion` behind what the loop records. -/
def answerCall (pool : Pool) : Server.Event → Pool
  | .submitted job => pool.submit job
  | .handled _ => pool.popCompletion
  | _ => pool

/-- The pool after the calls behind these events. The eventfd is one for both. -/
def served (pool : Pool) (events : List Server.Event) (eventCount : Nat) : Pool :=
  { events.foldl answerCall pool with eventCount }

/-- The pool after the calls that the loop has made between two states. -/
def serve (pool : Pool) (before after : System) : Pool :=
  served pool (after.history.drop before.history.length) after.database.eventCount

/-- `close_session` when `stopping_` is set. -/
def dropSession (system : System) (fd : Int) : System :=
  match system.sessions fd with
  | none => system
  | some _ => { system with
      sessions := Function.update system.sessions fd none
      connections := Function.update system.connections fd none }

/-- `stop()` in the destructor: the loop over the keys of `sessions_`, whose order
makes no difference. -/
def stop (system : System) : System :=
  { system with
    sessions := fun _ => none
    connections := fun fd => if (system.sessions fd).isSome then none else system.connections fd }

def hasRaised (system : System) : Bool := system.position matches .raised _

def start (config : ServerConfig) (poolSize : Nat) (tables : Tables) : Process :=
  ⟨System.start config poolSize, Pool.start poolSize tables, false⟩

def step (mysql : Mysql) (process : Process) : Label → Option Process
  | .ring label =>
      if isWorkers label then none
      else (process.system.step label).map fun after =>
        { process with system := after, pool := serve process.pool process.system after }
  | .worker index chosen =>
      (Workers.step mysql process.pool (.worker index chosen)).map fun pool =>
        { process with system := process.system.setDatabase (dispatcherOf pool), pool := pool }
  | .unwind =>
      if hasRaised process.system && !process.stopping then
        some { process with system := stop process.system, stopping := true }
      else none
  | .close =>
      if process.stopping then
        some { process with
          system := process.system.setDatabase (dispatcherOf process.pool.close)
          pool := process.pool.close }
      else none
  | .join =>
      if process.stopping then
        process.pool.join.map fun pool => { process with pool }
      else none

theorem drop_session_eq (system : System) (fd : Int) :
    dropSession system fd = { system with
      sessions := fun other => if other = fd then none else system.sessions other
      connections := fun other => if other = fd ∧ (system.sessions other).isSome then none
        else system.connections other } := by
  have keys : (fun other => if other = fd then none else system.sessions other) =
      Function.update system.sessions fd none := by
    funext other
    rw [Function.update_apply]
  unfold dropSession
  cases open_ : system.sessions fd with
  | none =>
      have kept : (fun other => if other = fd ∧ (system.sessions other).isSome then none
          else system.connections other) = system.connections := by
        funext other
        by_cases here : other = fd
        · rw [here, open_]
          exact if_neg (by simp)
        · rw [if_neg (fun both => here both.1)]
      have same : Function.update system.sessions fd none = system.sessions := by
        rw [← open_, Function.update_eq_self]
      rw [keys, kept, same]
  | some session =>
      have freed : (fun other => if other = fd ∧ (system.sessions other).isSome then none
          else system.connections other) = Function.update system.connections fd none := by
        funext other
        by_cases here : other = fd
        · rw [here, open_, Function.update_self]
          exact if_pos (by simp)
        · rw [if_neg (fun both => here both.1), Function.update_of_ne here]
      rw [keys, freed]

/-- The loop of `stop()` over the sessions ends in the same state for every order. -/
theorem stop_is_loop {system : System} {fds : List Int}
    (all : ∀ fd, system.sessions fd ≠ none → fd ∈ fds) :
    fds.foldl dropSession system = stop system := by
  have loop : fds.foldl dropSession system = { system with
      sessions := fun fd => if fd ∈ fds then none else system.sessions fd
      connections := fun fd => if fd ∈ fds ∧ (system.sessions fd).isSome then none
        else system.connections fd } := by
    clear all
    induction fds using List.reverseRecOn with
    | nil => simp
    | append_singleton earlier last ih =>
        rw [List.foldl_append, ih, List.foldl_cons, List.foldl_nil, drop_session_eq]
        simp only [List.mem_append, List.mem_singleton]
        congr 1
        · funext fd
          by_cases here : fd = last <;> simp [here]
        · funext fd
          by_cases here : fd = last
          · rw [here]
            by_cases already : last ∈ earlier <;> simp [already]
          · simp [here]
  rw [loop, stop]
  congr 1
  · funext fd
    split_ifs with listed
    · rfl
    · by_contra open_
      exact listed (all fd open_)
  · funext fd
    cases open_ : system.sessions fd with
    | none => simp
    | some session =>
        have listed := all fd (by simp [open_])
        simp [listed]

/-- The calls of the loop on its dispatcher, and what it records meanwhile. -/
inductive Called (database : DbDispatcher) : List Server.Event → DbDispatcher → Prop where
  | start : Called database [] database
  | submit {events : List Server.Event} {later : DbDispatcher} (job : DbJob)
      (earlier : Called database events later) :
      Called database (events ++ [.submitted job]) (later.submit job)
  | pop {events : List Server.Event} {later : DbDispatcher} {completion : DbCompletion}
      {rest : List DbCompletion} (earlier : Called database events later)
      (waiting : later.completions = completion :: rest) :
      Called database (events ++ [.handled completion]) { later with completions := rest }
  | drain {events : List Server.Event} {later : DbDispatcher}
      (earlier : Called database events later) : Called database events later.drainEvents
  | other {events : List Server.Event} {later : DbDispatcher} {event : Server.Event}
      (earlier : Called database events later) (submits : ∀ job, event ≠ .submitted job)
      (handles : ∀ completion, event ≠ .handled completion) :
      Called database (events ++ [event]) later

theorem Called.then {database middle last : DbDispatcher} {events more : List Server.Event}
    (before : Called database events middle) (after : Called middle more last) :
    Called database (events ++ more) last := by
  induction after with
  | start =>
      rw [List.append_nil]
      exact before
  | submit job _ ih =>
      rw [← List.append_assoc]
      exact Called.submit job ih
  | pop _ waiting ih =>
      rw [← List.append_assoc]
      exact Called.pop ih waiting
  | drain _ ih => exact Called.drain ih
  | other _ submits handles ih =>
      rw [← List.append_assoc]
      exact Called.other ih submits handles

def Calls (system next : System) : Prop :=
  ∃ events, next.history = system.history ++ events ∧ Called system.database events next.database

theorem Calls.trans {first second third : System} (before : Calls first second)
    (after : Calls second third) : Calls first third := by
  rcases before with ⟨events, history, called⟩
  rcases after with ⟨more, continued, later⟩
  exact ⟨events ++ more, by rw [continued, history, List.append_assoc], called.then later⟩

theorem calls_nothing {system next : System} (history : next.history = system.history)
    (database : next.database = system.database) : Calls system next :=
  ⟨[], by rw [history, List.append_nil], by rw [database]; exact Called.start⟩

theorem calls_event {system next : System} {event : Server.Event}
    (history : next.history = system.history ++ [event])
    (database : next.database = system.database) (submits : ∀ job, event ≠ .submitted job)
    (handles : ∀ completion, event ≠ .handled completion) : Calls system next := by
  refine ⟨[event], history, ?_⟩
  rw [database]
  exact Called.other Called.start submits handles

theorem calls_push_line (system : System) (ref : SessionRef) (session : Session)
    (line : ServerLine) : Calls system (pushLine system ref session line) :=
  calls_event (push_line_history system ref session line)
    (push_line_database system ref session line) nofun nofun

theorem calls_submit (system : System) (job : DbJob) : Calls system (system.submitJob job) :=
  ⟨[.submitted job], rfl, Called.submit job Called.start⟩

theorem calls_pop {system : System} {completion : DbCompletion} {rest : List DbCompletion}
    (waiting : system.database.completions = completion :: rest) :
    Calls system (ServerActs.popCompletion system completion rest) :=
  ⟨[.handled completion], rfl, Called.pop Called.start waiting⟩

theorem calls_act {system next : System} (act : ServerActs.Act system next) :
    Calls system next := by
  cases act with
  | submitted | waited | drained | dismissed | refused | recvPosted | acceptPosted | framed
  | worldCalled | closing | parked | recvReposted | pollPosted => exact calls_nothing rfl rfl
  | arrived | received | lineTaken | raised | erased => exact calls_event rfl rfl nofun nofun
  | answered ref session line => exact calls_push_line system ref session line
  | saved ref account character x y =>
      exact calls_submit system
        (System.positionJob (counterValue system.nextRequestId) ref account character x y)
  | requested ref session operation commandName args =>
      exact (calls_push_line system ref _ _).trans (calls_submit _ _)
  | awoken => exact ⟨[], (List.append_nil _).symm, Called.drain Called.start⟩
  | skipped completion rest position completions => exact calls_pop completions
  | completed completion rest session position completions =>
      exact (calls_pop completions).trans (calls_push_line _ _ _ _)

theorem calls_acts {system next : System} (chain : Acts system next) : Calls system next := by
  induction chain with
  | refl => exact calls_nothing rfl rfl
  | tail _ act ih => exact ih.trans (calls_act act)

theorem calls_server {system next : System} {order : SectorWorld.CallOrder}
    (coherent : Coherent system) (taken : system.serverStep order = some next) :
    Calls system next := by
  cases server_step_turn coherent taken with
  | plain chain => exact calls_acts chain
  | sends room middle ref order reclaimed sent checked chain =>
      have roomy : Calls system room := by
        rcases reclaimed with rfl | rfl
        · exact calls_nothing rfl rfl
        · exact calls_nothing rfl rfl
      have progressed : Calls room middle := by
        cases sent with
        | progressed cqe rest ref session payload =>
            exact calls_event (progress_history _ _ _ _ _) (progress_database _ _ _ _ _) nofun nofun
      exact (roomy.trans progressed).trans (calls_acts chain)

theorem calls_ring {system next : System} {label : Server.Label} (coherent : Coherent system)
    (ring : isWorkers label = false) (taken : system.step label = some next) :
    Calls system next := by
  rcases step_cases taken with ⟨order, _, server⟩ | outside
  · exact calls_server coherent server
  · cases outside with
    | accepts | receives | fails | polls => exact calls_nothing rfl rfl
    | transmits => exact calls_event rfl rfl nofun nofun
    | takes | finishes | signals => cases ring

/-- The labels of the pool that the loop's calls stand for. -/
def Serving : Workers.Label → Prop
  | .submit _ | .popCompletion | .drainEvents => True
  | .close | .join | .worker _ _ => False

/-- A job or a completion that passes between the loop and the pool. -/
inductive Exchange where
  | submitted (job : DbJob)
  | handled (completion : DbCompletion)
  deriving DecidableEq

def Exchange.submitted? : Exchange → Option DbJob
  | .submitted job => some job
  | .handled _ => none

def Exchange.handled? : Exchange → Option DbCompletion
  | .submitted _ => none
  | .handled completion => some completion

def exchangeOf : Server.Event → Option Exchange
  | .submitted job => some (.submitted job)
  | .handled completion => some (.handled completion)
  | _ => none

def exchangeIn : Workers.Event → Option Exchange
  | .accepted _ job => some (.submitted job)
  | .delivered completion => some (.handled completion)
  | _ => none

def exchanges (pool : Pool) : List Exchange := pool.history.filterMap exchangeIn

theorem exchanges_record (pool : Pool) (event : Workers.Event) :
    exchanges (pool.record event) = exchanges pool ++ (exchangeIn event).toList := by
  rw [exchanges, Pool.record, List.filterMap_append]
  cases event <;> rfl

theorem accepted_of_exchanges (pool : Pool) :
    pool.accepted.map Prod.snd = (exchanges pool).filterMap Exchange.submitted? := by
  rw [exchanges, List.filterMap_filterMap, Pool.accepted, List.map_filterMap]
  congr 1
  funext event
  cases event <;> rfl

theorem delivered_of_exchanges (pool : Pool) :
    pool.delivered = (exchanges pool).filterMap Exchange.handled? := by
  rw [exchanges, List.filterMap_filterMap, Pool.delivered]
  congr 1
  funext event
  cases event <;> rfl

/-- What a pool has done with the calls of the loop. -/
structure Answered (mysql : Mysql) (pool after : Pool) (events : List Server.Event)
    (later : DbDispatcher) : Prop where
  seen : dispatcherOf after = later
  taken : ∃ labels, run (Workers.step mysql) pool labels = some after ∧
    ∀ label ∈ labels, Serving label
  exchanged : pool.jobs.closed = false →
    exchanges after = exchanges pool ++ events.filterMap exchangeOf

/-- A call that the loop has made is answered by a step of the pool. -/
theorem Answered.next {mysql : Mysql} {pool middle after : Pool} {events : List Server.Event}
    {event : Server.Event} {database later : DbDispatcher}
    (answered : Answered mysql pool middle events database) (label : Workers.Label)
    (serving : Serving label)
    (taken : Workers.step mysql middle label = some after) (seen : dispatcherOf after = later)
    (exchanged : pool.jobs.closed = false →
      exchanges after = exchanges middle ++ (exchangeOf event).toList) :
    Answered mysql pool after (events ++ [event]) later where
  seen := seen
  taken := by
    rcases answered.taken with ⟨labels, ran, all⟩
    refine ⟨labels ++ [label], (run_snoc_eq_some _).mpr ⟨middle, ran, taken⟩, ?_⟩
    intro other listed
    rcases List.mem_append.mp listed with earlier | now
    · exact all other earlier
    · rw [List.mem_singleton.mp now]
      exact serving
  exchanged := by
    intro queueOpen
    rw [exchanged queueOpen, answered.exchanged queueOpen, List.filterMap_append, List.append_assoc]
    cases passed : exchangeOf event <;> simp [passed]

theorem called_closed {database later : DbDispatcher} {events : List Server.Event}
    (called : Called database events later) : later.jobs.closed = database.jobs.closed := by
  induction called with
  | start => rfl
  | submit job _ ih => rw [closed_submit, ih]
  | pop _ _ ih | drain _ ih | other _ _ _ ih => exact ih

section

variable (pool : Pool) (events : List Server.Event) (eventCount : Nat)

theorem served_submit (job : DbJob) : served pool (events ++ [.submitted job]) eventCount =
    (served pool events eventCount).submit job := by
  rw [served, List.foldl_append]
  rfl

theorem served_pop (completion : DbCompletion) :
    served pool (events ++ [.handled completion]) eventCount =
      (served pool events eventCount).popCompletion := by
  rw [served, List.foldl_append]
  change { (events.foldl answerCall pool).popCompletion with eventCount } = _
  unfold Pool.popCompletion served
  cases (events.foldl answerCall pool).completions <;> rfl

theorem served_other {event : Server.Event} (submits : ∀ job, event ≠ .submitted job)
    (handles : ∀ completion, event ≠ .handled completion) :
    served pool (events ++ [event]) eventCount = served pool events eventCount := by
  rw [served, List.foldl_append]
  cases event with
  | submitted job => exact absurd rfl (submits job)
  | handled completion => exact absurd rfl (handles completion)
  | accepted | received | lineHandled | queued | dropped | transmitted | sent | closed => rfl

end

theorem answered_calls (mysql : Mysql) {pool : Pool} {events : List Server.Event}
    {later : DbDispatcher} (called : Called (dispatcherOf pool) events later) :
    Answered mysql pool (served pool events later.eventCount) events later := by
  induction called with
  | start => exact ⟨rfl, ⟨[], rfl, nofun⟩, fun _ => (List.append_nil _).symm⟩
  | @submit events later job earlier ih =>
      have same := served_submit pool events later.eventCount job
      refine ih.next (.submit job) trivial (congrArg some same.symm) ?_ ?_
      · exact (congrArg dispatcherOf same).trans (by rw [dispatcher_submit, ih.seen])
      · intro queueOpen
        have still : (served pool events later.eventCount).jobs.closed = false := by
          have closed := called_closed earlier
          rw [← ih.seen] at closed
          exact closed.trans queueOpen
        refine (congrArg exchanges same).trans ?_
        rw [Pool.submit, exchanges_record, still]
        rfl
  | @pop events later completion rest earlier waiting ih =>
      have same := served_pop pool events later.eventCount completion
      have front : (served pool events later.eventCount).completions = completion :: rest :=
        (congrArg DbDispatcher.completions ih.seen).trans waiting
      refine ih.next .popCompletion trivial (congrArg some same.symm) ?_ ?_
      · refine (congrArg dispatcherOf same).trans ?_
        rw [dispatcher_pop_completion, ih.seen, front]
        rfl
      · intro _
        refine (congrArg exchanges same).trans ?_
        rw [Pool.popCompletion, front]
        simp only
        rw [exchanges_record]
        rfl
  | @drain events later earlier ih =>
      rcases ih.taken with ⟨labels, ran, all⟩
      refine ⟨?_, ⟨labels ++ [.drainEvents], (run_snoc_eq_some _).mpr ⟨_, ran, rfl⟩, ?_⟩,
        ih.exchanged⟩
      · exact congrArg DbDispatcher.drainEvents ih.seen
      · intro label listed
        rcases List.mem_append.mp listed with front | last
        · exact all label front
        · rw [List.mem_singleton.mp last]
          trivial
  | @other events later event earlier submits handles ih =>
      rw [served_other pool events later.eventCount submits handles]
      refine ⟨ih.seen, ih.taken, fun queueOpen => ?_⟩
      rw [ih.exchanged queueOpen, List.filterMap_append]
      cases event with
      | submitted job => exact absurd rfl (submits job)
      | handled completion => exact absurd rfl (handles completion)
      | accepted | received | lineHandled | queued | dropped | transmitted | sent | closed =>
          simp [exchangeOf]

/-- What holds of the process between any two steps. -/
structure Standing (process : Process) : Prop where
  database : process.system.database = dispatcherOf process.pool
  accounted : Accounted process.pool
  exchanged : exchanges process.pool = process.system.history.filterMap exchangeOf
  coherent : process.stopping = false → Coherent process.system
  closed : process.pool.jobs.closed = true → process.stopping = true
  raised : process.stopping = true → hasRaised process.system = true
  sessions : process.stopping = true → ∀ fd, process.system.sessions fd = none

theorem standing_start (config : ServerConfig) (poolSize : Nat) (tables : Tables) :
    Standing (start config poolSize tables) where
  database := (dispatcher_start poolSize tables).symm
  accounted := accounted_start poolSize tables
  exchanged := rfl
  coherent := fun _ => coherent_start config poolSize
  closed := nofun
  raised := nofun
  sessions := nofun

theorem coherent_database {system : System} (coherent : Coherent system) (database : DbDispatcher) :
    Coherent (system.setDatabase database) :=
  coherent.frame rfl rfl rfl (List.Sublist.refl _) coherent.busy

/-- The steps of the process, with what a step of the loop records. -/
inductive Steps (mysql : Mysql) (process : Process) : Label → Process → Prop where
  | ring {label : Server.Label} {after : System} {events : List Server.Event}
      (loop : isWorkers label = false) (taken : process.system.step label = some after)
      (history : after.history = process.system.history ++ events)
      (answered : Answered mysql process.pool
        (served process.pool events after.database.eventCount) events after.database) :
      Steps mysql process (.ring label) { process with
        system := after, pool := served process.pool events after.database.eventCount }
  | worker {index : Nat} {chosen : Workers.Act} {pool : Pool}
      (bound : index < process.pool.poolSize)
      (taken : Workers.act mysql process.pool index chosen = some pool) :
      Steps mysql process (.worker index chosen) { process with
        system := process.system.setDatabase (dispatcherOf pool), pool := pool }
  | unwind (raised : hasRaised process.system = true) (running : process.stopping = false) :
      Steps mysql process .unwind { process with system := stop process.system, stopping := true }
  | close (stopping : process.stopping = true) :
      Steps mysql process .close { process with
        system := process.system.setDatabase (dispatcherOf process.pool.close)
        pool := process.pool.close }
  | join {pool : Pool} (stopping : process.stopping = true)
      (taken : process.pool.join = some pool) : Steps mysql process .join { process with pool }

theorem not_raised_of_step {system after : System} {label : Server.Label}
    (taken : system.step label = some after) : hasRaised system = false := by
  unfold System.step at taken
  unfold hasRaised
  cases position : system.position with
  | raised exception => simp [position] at taken
  | submitting | draining | opened | reaccepting | framing | framed | completing => rfl

theorem steps {mysql : Mysql} {process next : Process} {label : Label} (standing : Standing process)
    (taken : step mysql process label = some next) : Steps mysql process label next := by
  cases label with
  | ring label =>
      simp only [step] at taken
      split_ifs at taken with workers
      rcases Option.map_eq_some_iff.mp taken with ⟨after, moved, rfl⟩
      have loop : isWorkers label = false := Bool.eq_false_iff.mpr workers
      have running : process.stopping = false := by
        by_contra stopping
        have raised := standing.raised (Bool.of_not_eq_false stopping)
        rw [not_raised_of_step moved] at raised
        cases raised
      rcases calls_ring (standing.coherent running) loop moved with ⟨events, history, called⟩
      have recorded : after.history.drop process.system.history.length = events := by
        rw [history, List.drop_left]
      rw [standing.database] at called
      have answered := answered_calls mysql called
      rw [serve, recorded]
      exact Steps.ring loop moved history answered
  | worker index chosen =>
      rcases Option.map_eq_some_iff.mp taken with ⟨pool, moved, rfl⟩
      simp only [Workers.step] at moved
      split_ifs at moved with bound
      exact Steps.worker bound moved
  | unwind =>
      simp only [step] at taken
      split_ifs at taken with both
      rcases Bool.and_eq_true_iff.mp both with ⟨raised, running⟩
      cases taken
      exact Steps.unwind raised ((Bool.not_eq_true' _).mp running)
  | close =>
      simp only [step] at taken
      split_ifs at taken with stopping
      cases taken
      exact Steps.close stopping
  | join =>
      simp only [step] at taken
      split_ifs at taken with stopping
      rcases Option.map_eq_some_iff.mp taken with ⟨pool, joined, rfl⟩
      exact Steps.join stopping joined

theorem accounted_pool_run {mysql : Mysql} {pool after : Pool} {labels : List Workers.Label}
    (accounted : Accounted pool) (ran : run (Workers.step mysql) pool labels = some after) :
    Accounted after :=
  invariant_of_run accounted (fun _ _ _ before taken => accounted_step before taken) ran

theorem exchanges_act {mysql : Mysql} {pool after : Pool} {index : Nat} {chosen : Workers.Act}
    (taken : Workers.act mysql pool index chosen = some after) :
    exchanges after = exchanges pool := by
  have recorded : ∀ (other : Pool) (event : Workers.Event), exchangeIn event = none →
      exchanges (other.record event) = exchanges other := by
    intro other event silent
    rw [exchanges_record, silent]
    exact List.append_nil _
  cases chosen with
  | pop =>
      rcases Pool.pop_cases taken with ⟨_, ⟨_, _, rfl⟩ | ⟨job, rest, phase, _, _, rfl⟩⟩ <;>
        exact recorded _ _ rfl
  | connect outcome =>
      rcases Pool.connect_cases taken with ⟨popped, _, ⟨_, rfl⟩ | ⟨error, _, rfl⟩⟩ <;> rfl
  | execute choice =>
      rcases Pool.execute_cases taken with
        ⟨popped, statement, next, link, answer, store, later, _, _, _, rfl⟩
      exact recorded _ _ rfl
  | push =>
      rcases Pool.push_cases taken with ⟨popped, script, result, _, _, rfl⟩
      exact recorded _ _ rfl
  | signal =>
      rcases Pool.signal_cases taken with ⟨_, rfl⟩
      rfl
  | lose =>
      rcases Pool.lose_cases taken with ⟨link, _, rfl⟩
      rfl

theorem closed_served {mysql : Mysql} {pool after : Pool} {labels : List Workers.Label}
    (serving : ∀ label ∈ labels, Serving label)
    (ran : run (Workers.step mysql) pool labels = some after) :
    after.jobs.closed = pool.jobs.closed := by
  have met : EveryStep (Workers.step mysql) (fun _ label _ => Serving label) pool labels :=
    every_step_of_labels serving
  refine @guarded_invariant _ _ _ (fun other => other.jobs.closed = pool.jobs.closed) _ _ _ _ rfl
    ?_ met ran
  intro source label next same serves taken
  rcases intake_step taken with ⟨job, _, intake⟩ | ⟨rfl, _⟩ | ⟨_, _, intake⟩
  · rw [intake.closed, same, Bool.or_false]
  · cases serves
  · rw [intake.closed, same, Bool.or_false]

theorem standing_step {mysql : Mysql} {process next : Process} {label : Label}
    (standing : Standing process) (taken : step mysql process label = some next) :
    Standing next := by
  cases steps standing taken with
  | @ring label after events loop moved history answered =>
      have still : hasRaised process.system = false := not_raised_of_step moved
      have running : ¬process.stopping = true := fun stopping =>
        Bool.false_ne_true (still.symm.trans (standing.raised stopping))
      have queueOpen : process.pool.jobs.closed = false :=
        Bool.eq_false_iff.mpr fun closed => running (standing.closed closed)
      rcases answered.taken with ⟨labels, ran, serving⟩
      constructor
      · exact answered.seen.symm
      · exact accounted_pool_run standing.accounted ran
      · change exchanges (served process.pool events after.database.eventCount) = _
        rw [answered.exchanged queueOpen, standing.exchanged, history, List.filterMap_append]
      · intro _
        exact coherent_step (standing.coherent (Bool.eq_false_iff.mpr running)) moved
      · intro closed
        have same := closed_served serving ran
        rw [← same] at queueOpen
        exact absurd (queueOpen.symm.trans closed) Bool.false_ne_true
      · exact fun stopping => absurd stopping running
      · exact fun stopping => absurd stopping running
  | @worker index chosen pool bound moved =>
      have intake := intake_act moved
      have whole : Workers.step mysql process.pool (.worker index chosen) = some pool := by
        rw [Workers.step, if_pos bound, moved]
      constructor
      · rfl
      · exact accounted_step standing.accounted whole
      · exact (exchanges_act moved).trans standing.exchanged
      · exact fun running => coherent_database (standing.coherent running) _
      · intro closed
        rw [intake.closed, Bool.or_false] at closed
        exact standing.closed closed
      · exact standing.raised
      · exact standing.sessions
  | unwind raised running =>
      refine ⟨standing.database, standing.accounted, standing.exchanged, ?_,
        fun _ => rfl, fun _ => raised, fun _ _ => rfl⟩
      intro running
      cases running
  | close stopping =>
      exact ⟨rfl, accounted_close standing.accounted, standing.exchanged,
        fun running => absurd (running.symm.trans stopping) Bool.false_ne_true, fun _ => stopping,
        standing.raised, standing.sessions⟩
  | @join pool stopping joined =>
      have accounted := accounted_join standing.accounted joined
      rcases Pool.join_cases joined with ⟨_, rfl⟩
      exact ⟨standing.database, accounted, standing.exchanged, standing.coherent,
        fun _ => stopping, standing.raised, standing.sessions⟩

theorem standing_run {mysql : Mysql} {config : ServerConfig} {poolSize : Nat} {tables : Tables}
    {process : Process} {labels : List Label}
    (ran : run (step mysql) (start config poolSize tables) labels = some process) :
    Standing process :=
  invariant_of_run (standing_start config poolSize tables)
    (fun _ _ _ standing taken => standing_step standing taken) ran

/-- The loop's view: a loop with a dispatcher that has no workers of its own. It
ends with an exception, the process goes on to its exit. -/
structure Loop (process : Process) (shadow : System) : Prop where
  same : process.system =
    (if process.stopping then stop shadow else shadow).setDatabase process.system.database
  running : hasRaised shadow = false → process.system = shadow

theorem raised_of_loop {process : Process} {shadow : System} (loop : Loop process shadow) :
    hasRaised process.system = hasRaised shadow := by
  rw [loop.same]
  cases process.stopping <;> rfl

theorem history_of_loop {process : Process} {shadow : System} (loop : Loop process shadow) :
    process.system.history = shadow.history := by
  rw [loop.same]
  cases process.stopping <;> rfl

theorem dispatcher_steps {system : System} (running : hasRaised system = false) :
    system.step .take = system.database.take.map system.setDatabase ∧
    (∀ index ok line, system.step (.finish index ok line) =
      (system.database.finish index ok line).map system.setDatabase) ∧
    system.step .signal = system.database.signal.map system.setDatabase := by
  unfold hasRaised at running
  unfold System.step
  cases position : system.position with
  | raised exception =>
      rw [position] at running
      cases running
  | submitting | draining | opened | reaccepting | framing | framed | completing =>
      exact ⟨rfl, fun _ _ _ => rfl, rfl⟩

theorem step_of_seen {shadow : System} {database : DbDispatcher}
    (running : hasRaised shadow = false) (seen : Seen shadow.database database) :
    ∃ moves, run System.step shadow moves = some (shadow.setDatabase database) := by
  rcases dispatcher_steps running with ⟨takes, finishes, signals⟩
  have one : ∀ label, shadow.step label = some (shadow.setDatabase database) →
      ∃ moves, run System.step shadow moves = some (shadow.setDatabase database) := by
    intro label taken
    exact ⟨[label], (Option.bind_eq_some_iff.mpr ⟨_, taken, rfl⟩)⟩
  cases seen with
  | unseen same =>
      rw [same]
      exact ⟨[], rfl⟩
  | take taken =>
      apply one .take
      rw [takes, taken, Option.map_some]
  | finish index ok line finished =>
      apply one (.finish index ok line)
      rw [finishes, finished, Option.map_some]
  | signal signalled =>
      apply one .signal
      rw [signals, signalled, Option.map_some]

/-- Every step of the process is matched by steps of the loop's view. -/
theorem loop_simulates (mysql : Mysql) :
    Simulates (step mysql) System.step (fun _ => True) (fun _ => True)
      fun process shadow => Standing process ∧ Loop process shadow := by
  rintro process label next shadow ⟨standing, loop⟩ _ taken
  have stands := standing_step standing taken
  suffices matched : ∃ moves later, run System.step shadow moves = some later ∧ Loop next later by
    rcases matched with ⟨moves, later, ran, follows⟩
    exact ⟨moves, later, ran, fun _ _ => trivial, stands, follows⟩
  cases steps standing taken with
  | @ring label after events own moved history answered =>
      have live : hasRaised shadow = false := by
        rw [← raised_of_loop loop]
        exact not_raised_of_step moved
      have running : process.stopping = false := by
        by_contra stopping
        have raised := standing.raised (Bool.of_not_eq_false stopping)
        rw [raised_of_loop loop, live] at raised
        cases raised
      rw [loop.running live] at moved
      refine ⟨[label], after, Option.bind_eq_some_iff.mpr ⟨_, moved, rfl⟩, ?_, fun _ => rfl⟩
      simp only [running]
      rfl
  | @worker index chosen pool bound moved =>
      cases raised : hasRaised shadow with
      | true =>
          refine ⟨[], shadow, rfl, ?_, fun live => absurd (live.symm.trans raised)
            Bool.false_ne_true⟩
          simp only
          rw [loop.same]
          rfl
      | false =>
          have same := loop.running raised
          have seen := seen_worker standing.accounted bound moved
          rw [← standing.database, same] at seen
          rcases step_of_seen raised seen with ⟨moves, ran⟩
          refine ⟨moves, _, ran, ?_, fun _ => congrArg (System.setDatabase · _) same⟩
          have running : process.stopping = false := by
            by_contra stopping
            have ended := standing.raised (Bool.of_not_eq_false stopping)
            rw [raised_of_loop loop, raised] at ended
            cases ended
          simp only [running, same]
          rfl
  | unwind raised running =>
      have ended : hasRaised shadow = true := (raised_of_loop loop).symm.trans raised
      refine ⟨[], shadow, rfl, ?_, fun live => absurd (live.symm.trans ended) Bool.false_ne_true⟩
      have same := loop.same
      rw [running] at same
      simp only
      rw [same]
      rfl
  | close stopping =>
      have ended : hasRaised shadow = true :=
        (raised_of_loop loop).symm.trans (standing.raised stopping)
      refine ⟨[], shadow, rfl, ?_, fun live => absurd (live.symm.trans ended) Bool.false_ne_true⟩
      simp only
      rw [loop.same]
      rfl
  | join stopping joined => exact ⟨[], shadow, rfl, loop.same, loop.running⟩

def isWorker : Workers.Label → Bool
  | .worker _ _ => true
  | .submit _ | .close | .join | .popCompletion | .drainEvents => false

def WorkersAre (kind : Workers.Label → Prop) : Label → Prop
  | .worker index chosen => kind (.worker index chosen)
  | .ring _ | .unwind | .close | .join => True

instance (kind : Workers.Label → Prop) [DecidablePred kind] (label : Label) :
    Decidable (WorkersAre kind label) :=
  match label with
  | .worker index chosen => inferInstanceAs (Decidable (kind (.worker index chosen)))
  | .ring _ | .unwind | .close | .join => isTrue trivial

/-- The pool's view: the workers' steps as they are, and the calls of the loop. -/
theorem pool_simulates (mysql : Mysql) {kind : Workers.Label → Prop}
    (free : ∀ label, isWorker label = false → kind label) :
    Simulates (step mysql) (Workers.step mysql) (WorkersAre kind) kind
      fun process pool => Standing process ∧ process.pool = pool := by
  rintro process label next _ ⟨standing, rfl⟩ allowed taken
  have stands := standing_step standing taken
  suffices matched : ∃ moves, run (Workers.step mysql) process.pool moves = some next.pool ∧
      ∀ each ∈ moves, kind each by
    rcases matched with ⟨moves, ran, fit⟩
    exact ⟨moves, next.pool, ran, fit, stands, rfl⟩
  have one : ∀ move, Workers.step mysql process.pool move = some next.pool → kind move →
      ∃ moves, run (Workers.step mysql) process.pool moves = some next.pool ∧
        ∀ each ∈ moves, kind each := by
    intro move moved fits
    refine ⟨[move], Option.bind_eq_some_iff.mpr ⟨_, moved, rfl⟩, ?_⟩
    intro each listed
    rw [List.mem_singleton.mp listed]
    exact fits
  cases steps standing taken with
  | ring own moved history answered =>
      rcases answered.taken with ⟨labels, ran, serving⟩
      refine ⟨labels, ran, fun each listed => free each ?_⟩
      have serves := serving each listed
      cases each with
      | submit | popCompletion | drainEvents | close | join => rfl
      | worker => cases serves
  | @worker index chosen pool bound moved =>
      exact one (.worker index chosen) ((if_pos bound).trans moved) allowed
  | unwind => exact ⟨[], rfl, nofun⟩
  | close => exact one .close rfl (free _ rfl)
  | join stopping joined => exact one .join joined (free _ rfl)

section

variable {mysql : Mysql} {config : ServerConfig} {poolSize : Nat} {tables : Tables}
variable {process : Process} {labels : List Label}

theorem pool_run (kind : Workers.Label → Prop)
    (free : ∀ label, isWorker label = false → kind label)
    (all : ∀ label ∈ labels, WorkersAre kind label)
    (ran : run (step mysql) (start config poolSize tables) labels = some process) :
    ∃ moves, run (Workers.step mysql) (Pool.start poolSize tables) moves = some process.pool ∧
      ∀ each ∈ moves, kind each := by
  rcases (pool_simulates mysql free).run ⟨standing_start config poolSize tables, rfl⟩ all ran with
    ⟨moves, pool, followed, fit, _, rfl⟩
  exact ⟨moves, followed, fit⟩

theorem loop_run (ran : run (step mysql) (start config poolSize tables) labels = some process) :
    ∃ moves shadow, run System.step (System.start config poolSize) moves = some shadow ∧
      Loop process shadow := by
  have initial : Loop (start config poolSize tables) (System.start config poolSize) :=
    ⟨rfl, fun _ => rfl⟩
  rcases (loop_simulates mysql).run ⟨standing_start config poolSize tables, initial⟩
    (fun _ _ => trivial) ran with ⟨moves, shadow, followed, _, _, loop⟩
  exact ⟨moves, shadow, followed, loop⟩

/-- What the loop sees is what its workers do, and the two agree on every job and
every completion that has passed between them. -/
structure Refined (mysql : Mysql) (config : ServerConfig) (poolSize : Nat) (tables : Tables)
    (process : Process) : Prop where
  loop : ∃ moves shadow, run System.step (System.start config poolSize) moves = some shadow ∧
    Loop process shadow
  pool : ∃ moves, run (Workers.step mysql) (Pool.start poolSize tables) moves = some process.pool
  seen : process.system.database = dispatcherOf process.pool
  exchanged : exchanges process.pool = process.system.history.filterMap exchangeOf

/-- Every run of the process is a run of the loop with a dispatcher that has no
workers of its own, and a run of the workers with a loop that calls them. -/
theorem process_refined
    (ran : run (step mysql) (start config poolSize tables) labels = some process) :
    Refined mysql config poolSize tables process := by
  have standing := standing_run ran
  have pool := pool_run (fun _ => True) (fun _ _ => trivial)
    (fun label _ => by cases label <;> trivial) ran
  exact ⟨loop_run ran, pool.imp fun _ both => both.1, standing.database,
    standing.exchanged⟩

end

/-- A client registers and logs in, and its last line brings the process down. -/
def oneClient : List Label :=
  [.ring .tick, .ring (.accept 0 5), .ring .tick, .ring .tick, .ring .tick, .ring .tick, .ring .tick,
    .ring (.recv 2 (ascii "REGISTER ada Ada\nLOGIN ada\n")), .ring .tick, .ring .tick,
    .worker 0 .pop, .worker 0 (.connect (.ok ())), .ring .tick,
    .worker 0 (.execute (.goes .asStored)), .worker 1 .pop, .worker 0 .push,
    .worker 1 (.connect (.ok ())), .worker 1 (.execute (.goes .asStored)),
    .worker 1 (.execute (.goes .asStored)), .worker 0 .signal, .worker 1 .push, .ring .tick,
    .worker 1 .signal, .ring .tick, .ring (.poll 0), .ring .tick, .ring .tick, .ring .tick,
    .ring .tick, .ring .tick, .ring .tick, .ring (.recv 2 (ascii "MOVE 99999999999 0\n")),
    .ring .tick, .ring .tick, .unwind, .close, .worker 1 .pop, .worker 0 .pop, .join]

theorem process_refined_one :
    ∃ process, run (step Mysql.binary) (start .default 2 Tables.empty) oneClient = some process ∧
      process.pool.joined = true ∧ Refined Mysql.binary .default 2 Tables.empty process := by
  have ends : (run (step Mysql.binary) (start .default 2 Tables.empty) oneClient).any
      (fun process => process.pool.joined) = true := by
    decide
  rcases Option.any_eq_true _ _ |>.mp ends with ⟨process, ran, joined⟩
  exact ⟨process, ran, joined, process_refined ran⟩

end DungeonPortfolio.Program
