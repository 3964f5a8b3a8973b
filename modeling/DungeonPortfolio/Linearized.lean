import DungeonPortfolio.ExactlyOnce
import DungeonPortfolio.Executions
import DungeonPortfolio.Library.Linearization

/-!
# Jobs are linearizable

Workers interleave their statements, yet every job acts in one moment: the jobs
in the order of these moments, executed one after another, give the completions
that the workers push and the tables that they leave.
-/

namespace DungeonPortfolio.Linearized

open DungeonPortfolio.Text DungeonPortfolio.Dispatcher DungeonPortfolio.Schema
open DungeonPortfolio.Statements DungeonPortfolio.Connection DungeonPortfolio.Commands
open DungeonPortfolio.Atomicity DungeonPortfolio.Executions DungeonPortfolio.Workers
open DungeonPortfolio.ExactlyOnce
open Library Library.Execution Library.Linearization

set_option autoImplicit false

/-- No call fails for a reason of its own: connections are made and kept, and a
statement fails for its arguments and the tables only. -/
def Healthy : Label → Prop
  | .worker _ (.connect (.error _)) => False
  | .worker _ (.execute choice) => choice.isFault = false
  | .worker _ .lose => False
  | _ => True

instance (label : Label) : Decidable (Healthy label) := by
  unfold Healthy
  split <;> infer_instance

structure Turn where
  ticket : Nat
  job : DbJob
  completion : DbCompletion
  deriving DecidableEq, Repr

def Turn.entry (turn : Turn) : DbJob × DbCompletion := (turn.job, turn.completion)

def invoked (event : Event) : Option Nat := event.accepted?.map Prod.fst
def responded (event : Event) : Option Nat := event.pushed?.map fun entry => entry.2.1

/-- Whether the job has had its turn, and what it will answer. -/
def Settled (turns : List Turn) (popped : Popped) : Option (Except StdException Bytes) → Prop
  | none => popped.ticket ∉ turns.map Turn.ticket
  | some outcome => ⟨popped.ticket, popped.job,
      pushed popped.job (outcome.map (completed popped.job))⟩ ∈ turns

/-- What holds of a worker between its steps: a job in its hands goes on as one
that acts once, and without a job no transaction is open. -/
def Serving (mysql : Mysql) (players : List PlayerRow) (turns : List Turn) (index : Nat)
    (worker : Worker) : Prop :=
  match worker.phase with
  | .connecting popped => popped.ticket ∉ turns.map Turn.ticket
  | .executing popped script => ∃ link settled, worker.connection = some link ∧
      script.Holds (calls mysql index false popped.job) (Finished false popped.job)
        ⟨link, settled, players⟩ ∧ Settled turns popped settled
  | .popping | .signalling | .exited =>
      ∀ link, worker.connection = some link → link.transaction = none

structure Linear (mysql : Mysql) (tables : Tables) (pool : Pool) (turns : List Turn) : Prop where
  history : History mysql false tables (turns.map Turn.entry) pool.store.tables
  distinct : (turns.map Turn.ticket).Nodup
  known : ∀ turn ∈ turns, ∃ index, (index, ⟨turn.ticket, turn.job⟩) ∈ pool.popped
  answered : ∀ index ticket completion, (index, ticket, completion) ∈ pool.pushed →
    ∃ job, ⟨ticket, job, completion⟩ ∈ turns
  realTime : Respects invoked responded pool.history (turns.map Turn.ticket)
  serving : ∀ index, Serving mysql pool.store.tables.players turns index (pool.workers index)

theorem linear_start (mysql : Mysql) (poolSize : Nat) (tables : Tables) :
    Linear mysql tables (Pool.start poolSize tables) [] where
  history := History.start tables
  distinct := List.nodup_nil
  known := nofun
  answered := nofun
  realTime := respects_nil _
  serving := by
    intro index link connected
    cases connected

variable {mysql : Mysql} {tables : Tables} {pool after : Pool} {turns : List Turn}

theorem held_apart (accounted : Accounted pool) {index other : Nat} (apart : other ≠ index)
    {popped theirs : Popped} (mine : (pool.workers index).holds = some popped)
    (held : (pool.workers other).holds = some theirs) : theirs.ticket ≠ popped.ticket := by
  intro same
  have listed := (accounted.held other theirs held).1
  have there := (accounted.held index popped mine).1
  have equal := List.inj_on_of_nodup_map (accounted.tickets ▸ List.nodup_range) listed there same
  exact apart (congrArg Prod.fst equal)

theorem settled_more {popped : Popped} {settled : Option (Except StdException Bytes)} {turn : Turn}
    (holds : Settled turns popped settled) (apart : popped.ticket ≠ turn.ticket) :
    Settled (turns ++ [turn]) popped settled := by
  cases settled with
  | none =>
      intro listed
      rw [List.map_append, List.mem_append] at listed
      rcases listed with earlier | now
      · exact holds earlier
      · exact apart (List.mem_singleton.mp now)
  | some outcome => exact List.mem_append_left _ holds

theorem serving_idle {players : List PlayerRow} {index : Nat} {worker : Worker}
    (idle : worker.holds = none) :
    Serving mysql players turns index worker ↔
      ∀ link, worker.connection = some link → link.transaction = none := by
  rcases worker with ⟨connection, phase⟩
  cases phase with
  | popping | signalling | exited => exact Iff.rfl
  | connecting | executing => cases idle

theorem serving_later {players more : List PlayerRow} {index : Nat} {worker : Worker}
    (serving : Serving mysql players turns index worker) (grown : players <+: more)
    {later : List Turn}
    (others : ∀ popped, worker.holds = some popped → ∀ settled, Settled turns popped settled →
      Settled later popped settled) :
    Serving mysql more later index worker := by
  rcases worker with ⟨connection, phase⟩
  cases phase with
  | popping | signalling | exited => exact serving
  | connecting popped => exact others popped rfl none serving
  | executing popped script =>
      rcases serving with ⟨link, settled, connected, holds, settles⟩
      exact ⟨link, settled, connected, holds_later (finished_stable) holds grown,
        others popped rfl settled settles⟩

theorem serving_worker {index : Nat} {worker : Worker} {players more : List PlayerRow}
    {later : List Turn} (serving : ∀ index, Serving mysql players turns index (pool.workers index))
    (mine : Serving mysql more later index worker) (grown : players <+: more)
    (others : ∀ other, other ≠ index → ∀ popped, (pool.workers other).holds = some popped →
      ∀ settled, Settled turns popped settled → Settled later popped settled) :
    ∀ other, Serving mysql more later other ((pool.setWorker index worker).workers other) := by
  intro other
  by_cases here : other = index
  · rw [here, Pool.set_worker_same]
    exact mine
  · rw [Pool.set_worker_other here]
    exact serving_later (serving other) grown (others other here)

theorem linear_kept (linear : Linear mysql tables pool turns)
    (store : after.store.tables = pool.store.tables)
    (popped : ∀ entry ∈ pool.popped, entry ∈ after.popped) (pushed : after.pushed = pool.pushed)
    (realTime : Respects invoked responded after.history (turns.map Turn.ticket))
    (serving : ∀ index, Serving mysql pool.store.tables.players turns index (after.workers index)) :
    Linear mysql tables after turns where
  history := by
    rw [store]
    exact linear.history
  distinct := linear.distinct
  known := by
    intro turn listed
    rcases linear.known turn listed with ⟨index, taken⟩
    exact ⟨index, popped _ taken⟩
  answered := by
    rw [pushed]
    exact linear.answered
  realTime := realTime
  serving := by
    rw [store]
    exact serving

theorem linear_record (linear : Linear mysql tables pool turns) {event : Event}
    (unasked : event.accepted? = none) (unanswered : event.pushed? = none) :
    Linear mysql tables (pool.record event) turns := by
  apply linear_kept linear
  · rfl
  · intro entry listed
    rw [Pool.record_popped]
    exact List.mem_append_left _ listed
  · rw [Pool.record_pushed, unanswered]
    exact List.append_nil _
  · apply linear.realTime.event
    intro id invokes
    rw [invoked, unasked] at invokes
    cases invokes
  · exact linear.serving

theorem turn_ticket_lt (accounted : Accounted pool) (linear : Linear mysql tables pool turns)
    {ticket : Nat} (listed : ticket ∈ turns.map Turn.ticket) : ticket < pool.popped.length := by
  rcases List.mem_map.mp listed with ⟨turn, member, rfl⟩
  rcases linear.known turn member with ⟨index, taken⟩
  exact fresh_ticket accounted taken

theorem popped_le_accepted (accounted : Accounted pool) :
    pool.popped.length ≤ pool.accepted.length := by
  have lengths := congrArg List.length accounted.queue
  rw [List.length_append, List.length_map, List.length_map] at lengths
  omega

theorem linear_submit (accounted : Accounted pool) (linear : Linear mysql tables pool turns)
    (job : DbJob) : Linear mysql tables (pool.submit job) turns := by
  apply linear_kept linear
  · rfl
  · intro entry listed
    rw [Pool.submit, Pool.record_popped]
    exact List.mem_append_left _ listed
  · rw [Pool.submit, Pool.record_pushed]
    split <;> exact List.append_nil _
  · apply linear.realTime.event
    intro id invokes
    split at invokes
    · cases invokes
    · obtain rfl := Option.some.inj invokes
      intro listed
      have small := turn_ticket_lt accounted linear listed
      have bound := popped_le_accepted accounted
      change pool.accepted.length < _ at small
      omega
  · exact linear.serving

theorem linear_pop_completion (linear : Linear mysql tables pool turns) :
    Linear mysql tables pool.popCompletion turns := by
  unfold Pool.popCompletion
  cases pool.completions with
  | nil => exact linear
  | cons completion rest =>
      refine linear_record ?_ rfl rfl
      exact linear_kept linear rfl (fun _ listed => listed) rfl linear.realTime linear.serving

theorem linear_idle (linear : Linear mysql tables pool turns) {index eventCount : Nat}
    {worker : Worker} (idle : (pool.workers index).holds = none) (still : worker.holds = none)
    (connection : worker.connection = (pool.workers index).connection) :
    Linear mysql tables ({ pool with eventCount }.setWorker index worker) turns := by
  apply linear_kept linear
  · rfl
  · exact fun _ listed => listed
  · rfl
  · exact linear.realTime
  · refine serving_worker linear.serving ?_ (List.prefix_refl _) fun _ _ _ _ _ settled => settled
    rw [serving_idle still, connection]
    exact (serving_idle idle).mp (linear.serving index)

theorem linear_take (accounted : Accounted pool) (linear : Linear mysql tables pool turns)
    {index : Nat} {job : DbJob} {rest : List DbJob} {phase : Phase}
    (idle : (pool.workers index).phase = .popping)
    (starts : ((pool.workers index).connection = none ∧
        phase = .connecting ⟨pool.popped.length, job⟩) ∨
      ((∃ link, (pool.workers index).connection = some link) ∧
        phase = .executing ⟨pool.popped.length, job⟩ (executeJob job))) :
    Linear mysql tables (({ pool with jobs := { pool.jobs with items := rest } }.setWorker index
      ⟨(pool.workers index).connection, phase⟩).record
        (.popped index ⟨pool.popped.length, job⟩)) turns := by
  have unseen : pool.popped.length ∉ turns.map Turn.ticket := by
    intro listed
    exact Nat.lt_irrefl _ (turn_ticket_lt accounted linear listed)
  refine linear_record ?_ rfl rfl
  apply linear_kept linear
  · rfl
  · exact fun _ listed => listed
  · rfl
  · exact linear.realTime
  · refine serving_worker linear.serving ?_ (List.prefix_refl _) fun _ _ _ _ _ settled => settled
    rcases starts with ⟨_, rfl⟩ | ⟨⟨link, connected⟩, rfl⟩
    · exact unseen
    · have closed := linear.serving index
      rw [Serving, idle] at closed
      exact ⟨link, none, connected, holds_job rfl (closed link connected), unseen⟩

theorem linear_connect (linear : Linear mysql tables pool turns) {index : Nat} {popped : Popped}
    (waiting : (pool.workers index).phase = .connecting popped) :
    Linear mysql tables (pool.setWorker index
      ⟨some Link.fresh, .executing popped (executeJob popped.job)⟩) turns := by
  have unseen := linear.serving index
  rw [Serving, waiting] at unseen
  apply linear_kept linear
  · rfl
  · exact fun _ listed => listed
  · rfl
  · exact linear.realTime
  · refine serving_worker linear.serving ?_ (List.prefix_refl _) fun _ _ _ _ _ settled => settled
    exact ⟨Link.fresh, none, rfl, holds_job rfl rfl, unseen⟩

/-- A job has its turn: it comes after every job that has been answered. -/
theorem linear_turn (accounted : Accounted pool) (linear : Linear mysql tables pool turns)
    (sound : Sound mysql tables) {index : Nat} {popped : Popped} (order : RowOrder)
    (store : Store) (worker : Worker) (mine : (pool.workers index).holds = some popped)
    (unseen : popped.ticket ∉ turns.map Turn.ticket)
    (acted : store.tables = (atomically mysql order pool.store.tables popped.job).2)
    (serving : Serving mysql store.tables.players (turns ++ [⟨popped.ticket, popped.job,
      pushed popped.job ((atomically mysql order pool.store.tables popped.job).1.map
        (completed popped.job))⟩]) index worker) :
    Linear mysql tables ({ pool with store }.setWorker index worker) (turns ++
      [⟨popped.ticket, popped.job, pushed popped.job
        ((atomically mysql order pool.store.tables popped.job).1.map
          (completed popped.job))⟩]) := by
  have before := sound_history sound linear.history
  have executes : Executes mysql false order pool.store.tables popped.job
      (pushed popped.job ((atomically mysql order pool.store.tables popped.job).1.map
        (completed popped.job))) store.tables := by
    rw [executes_iff before, executedAlone, acted]
  rcases accounted.held index popped mine with ⟨taken, _⟩
  constructor
  · rw [List.map_append]
    exact History.next linear.history executes
  · rw [List.map_append, List.nodup_append]
    refine ⟨linear.distinct, List.nodup_singleton _, ?_⟩
    intro ticket earlier other now
    rw [List.mem_singleton.mp now]
    rintro rfl
    exact unseen earlier
  · intro turn listed
    rcases List.mem_append.mp listed with earlier | now
    · exact linear.known turn earlier
    · rw [List.mem_singleton.mp now]
      exact ⟨index, taken⟩
  · intro other ticket completion answered
    rcases linear.answered other ticket completion answered with ⟨job, listed⟩
    exact ⟨job, List.mem_append_left _ listed⟩
  · rw [List.map_append]
    apply linear.realTime.act
    intro ticket answered
    rcases List.mem_filterMap.mp answered with ⟨event, listed, responds⟩
    rcases Option.map_eq_some_iff.mp responds with ⟨⟨other, number, completion⟩, push, rfl⟩
    rcases linear.answered other number completion (List.mem_filterMap.mpr ⟨event, listed, push⟩)
      with ⟨job, turn⟩
    exact List.mem_map.mpr ⟨_, turn, rfl⟩
  · apply serving_worker linear.serving serving
    · rw [acted]
      exact players_atomically order popped.job
    · intro other apart theirs held settled settles
      exact settled_more settles (held_apart accounted apart mine held)

theorem linear_execute (accounted : Accounted pool) (linear : Linear mysql tables pool turns)
    (sound : Sound mysql tables) {index : Nat} {choice : Choice} (healthy : choice.isFault = false)
    (taken : pool.execute mysql index choice = some after) :
    ∃ later, Linear mysql tables after later := by
  rcases Pool.execute_cases taken with
    ⟨popped, statement, next, link, answer, store, link', busy, connected, performed, rfl⟩
  have serving := linear.serving index
  rw [Serving, busy] at serving
  rcases serving with ⟨link₀, settled, same, holds, settles⟩
  obtain rfl := Option.some.inj (connected.symm.trans same)
  have mine : (pool.workers index).holds = some popped := by
    rw [Worker.holds, busy]
  cases choice with
  | goes order =>
      rcases holds pool.store (.goes order) order answer store link' (List.prefix_refl _)
        (sound_history sound linear.history) id rfl performed with
        ⟨unchanged, continued⟩ | ⟨rfl, _, acted, continued⟩
      · refine ⟨turns, linear_record ?_ rfl rfl⟩
        apply linear_kept linear
        · exact unchanged
        · exact fun _ listed => listed
        · rfl
        · exact linear.realTime
        · refine serving_worker linear.serving ?_ (List.prefix_refl _)
            fun _ _ _ _ _ settled => settled
          exact ⟨link', settled, rfl, continued, settles⟩
      · refine ⟨_, linear_record (linear_turn accounted linear sound order store _ mine settles
          acted ?_) rfl rfl⟩
        exact ⟨link', _, rfl, continued, List.mem_append_right _ (List.mem_singleton_self _)⟩
  | fails | breaks | loses => cases healthy

/-- A worker hands in what its job is due. -/
theorem linear_answer (linear : Linear mysql tables pool turns) {index : Nat} {popped : Popped}
    {completion : DbCompletion} {connection : Option Link}
    (due : ⟨popped.ticket, popped.job, completion⟩ ∈ turns)
    (closed : ∀ link, connection = some link → link.transaction = none) :
    Linear mysql tables (({ pool with completions := pool.completions ++ [completion] }.setWorker
      index ⟨connection, .signalling⟩).record (.pushed index popped.ticket completion)) turns where
  history := linear.history
  distinct := linear.distinct
  known := by
    rw [Pool.record_popped]
    intro turn listed
    rcases linear.known turn listed with ⟨other, taken⟩
    exact ⟨other, List.mem_append_left _ taken⟩
  answered := by
    rw [Pool.record_pushed]
    intro other ticket done listed
    rcases List.mem_append.mp listed with earlier | now
    · exact linear.answered other ticket done earlier
    · cases List.mem_singleton.mp now
      exact ⟨popped.job, due⟩
  realTime := linear.realTime.event nofun
  serving := serving_worker linear.serving closed (List.prefix_refl _)
    fun _ _ _ _ _ settled => settled

theorem linear_push (accounted : Accounted pool) (linear : Linear mysql tables pool turns)
    (sound : Sound mysql tables) {index : Nat} (taken : pool.push index = some after) :
    ∃ later, Linear mysql tables after later := by
  rcases Pool.push_cases taken with ⟨popped, script, result, busy, ended, rfl⟩
  have serving := linear.serving index
  rw [Serving, busy] at serving
  rcases serving with ⟨link, settled, connected, holds, settles⟩
  have leaves : ∀ {closed : Option (List Write)}, closed = link.transaction → closed = none →
      ∀ other, (pool.workers index).connection = some other → other.transaction = none := by
    rintro closed rfl none other same
    rw [← Option.some.inj (connected.symm.trans same)]
    exact none
  cases script with
  | call statement next => cases ended
  | done completion =>
      obtain rfl := Option.some.inj ended
      rcases holds with ⟨closed, line, rfl, rfl⟩
      exact ⟨turns, linear_answer linear settles (leaves rfl closed)⟩
  | throws error =>
      obtain rfl := Option.some.inj ended
      rcases holds with ⟨closed, rfl | ⟨rfl, bad⟩ | ⟨fault, _⟩⟩
      · exact ⟨turns, linear_answer linear settles (leaves rfl closed)⟩
      · -- the arguments could not be converted: the job has its turn now
        have acted : atomically mysql .asStored pool.store.tables popped.job =
            (.error error, pool.store.tables) := by
          unfold atomically
          rw [bad]
        have same : pool.setWorker index (pool.workers index) = pool := by
          rw [Pool.setWorker, Function.update_eq_self]
        have turned := linear_turn accounted linear sound .asStored pool.store
          (pool.workers index) (by rw [Worker.holds, busy]) settles (by rw [acted]) (by
            rw [acted, Serving, busy]
            exact ⟨link, some (.error error), connected, ⟨closed, Or.inl rfl⟩,
              List.mem_append_right _ (List.mem_singleton_self _)⟩)
        rw [acted] at turned
        replace turned : Linear mysql tables pool _ := same ▸ turned
        exact ⟨_, linear_answer turned (List.mem_append_right _ (List.mem_singleton_self _))
          (leaves rfl closed)⟩
      · cases fault

theorem linear_step {label : Label} (accounted : Accounted pool)
    (linear : Linear mysql tables pool turns) (sound : Sound mysql tables)
    (healthy : Healthy label) (taken : step mysql pool label = some after) :
    ∃ later, Linear mysql tables after later := by
  cases label with
  | submit job =>
      cases taken
      exact ⟨turns, linear_submit accounted linear job⟩
  | close | drainEvents =>
      cases taken
      exact ⟨turns, linear_kept linear rfl (fun _ listed => listed) rfl linear.realTime
        linear.serving⟩
  | join =>
      rcases Pool.join_cases taken with ⟨_, rfl⟩
      exact ⟨turns, linear_kept linear rfl (fun _ listed => listed) rfl linear.realTime
        linear.serving⟩
  | popCompletion =>
      cases taken
      exact ⟨turns, linear_pop_completion linear⟩
  | worker index chosen =>
      simp only [step] at taken
      split_ifs at taken with bound
      cases chosen with
      | pop =>
          rcases Pool.pop_cases taken with
            ⟨idle, ⟨_, _, rfl⟩ | ⟨job, rest, phase, _, starts, rfl⟩⟩
          · refine ⟨turns, linear_record ?_ rfl rfl⟩
            exact linear_idle linear (by rw [Worker.holds, idle]) rfl rfl
          · exact ⟨turns, linear_take accounted linear idle starts⟩
      | connect outcome =>
          rcases Pool.connect_cases taken with ⟨popped, waiting, ⟨_, rfl⟩ | ⟨error, rfl, _⟩⟩
          · exact ⟨turns, linear_connect linear waiting⟩
          · cases healthy
      | execute choice => exact linear_execute accounted linear sound healthy taken
      | push => exact linear_push accounted linear sound taken
      | signal =>
          rcases Pool.signal_cases taken with ⟨idle, rfl⟩
          exact ⟨turns, linear_idle linear (by rw [Worker.holds, idle]) rfl rfl⟩
      | lose => cases healthy

def Orderly (mysql : Mysql) (tables : Tables) (pool : Pool) : Prop :=
  Accounted pool ∧ ∃ turns, Linear mysql tables pool turns

theorem orderly_step {label : Label} (orderly : Orderly mysql tables pool)
    (sound : Sound mysql tables) (healthy : Healthy label)
    (taken : step mysql pool label = some after) : Orderly mysql tables after := by
  rcases orderly with ⟨accounted, turns, linear⟩
  exact ⟨accounted_step accounted taken, linear_step accounted linear sound healthy taken⟩

theorem orderly_run {poolSize : Nat} {labels : List Label} (sound : Sound mysql tables)
    (healthy : ∀ label ∈ labels, Healthy label)
    (ran : run (step mysql) (Pool.start poolSize tables) labels = some pool) :
    Orderly mysql tables pool := by
  have initial : Orderly mysql tables (Pool.start poolSize tables) :=
    ⟨accounted_start poolSize tables, [], linear_start mysql poolSize tables⟩
  have met : EveryStep (step mysql) (fun _ label _ => Healthy label) (Pool.start poolSize tables)
      labels := every_step_of_labels healthy
  exact guarded_invariant initial
    (fun _ _ _ orderly fine taken => orderly_step orderly sound fine taken) met ran

theorem popped_accepted (accounted : Accounted pool) {index : Nat} {popped : Popped}
    (taken : (index, popped) ∈ pool.popped) : (popped.ticket, popped.job) ∈ pool.accepted := by
  rcases List.mem_iff_getElem.mp taken with ⟨place, bound, there⟩
  have larger : place < pool.accepted.length := by
    have fewer := popped_le_accepted accounted
    omega
  have ticket : popped.ticket = place := by
    have numbers := congrArg (fun tickets => tickets[place]?) accounted.tickets
    simpa [bound, there] using numbers
  have number : pool.accepted[place].1 = place := by
    have numbers := congrArg (fun tickets => tickets[place]?) accounted.numbered
    simpa [larger] using numbers
  have job : popped.job = pool.accepted[place].2 := by
    have jobs := congrArg (fun jobs => jobs[place]?) accounted.queue
    simpa [larger, bound, there, List.getElem?_append] using jobs
  have same : pool.accepted[place] = (popped.ticket, popped.job) :=
    Prod.ext (number.trans ticket.symm) job.symm
  rw [← same]
  exact List.getElem_mem larger

def AllCompleted (pool : Pool) : Prop :=
  ∀ entry ∈ pool.accepted, ∃ index completion, (index, entry.1, completion) ∈ pool.pushed

/-- The jobs of a run executed one after another, in the order `turns`. -/
structure Sequential (mysql : Mysql) (tables : Tables) (pool : Pool) (turns : List Turn) :
    Prop where
  /-- Each job at most once. -/
  distinct : (turns.map Turn.ticket).Nodup
  accepted : ∀ turn ∈ turns, (turn.ticket, turn.job) ∈ pool.accepted
  /-- With the completion that its worker pushed, if it has pushed one. -/
  completions : ∀ index ticket completion, (index, ticket, completion) ∈ pool.pushed →
    ∃ job, ⟨ticket, job, completion⟩ ∈ turns
  realTime : Respects invoked responded pool.history (turns.map Turn.ticket)
  /-- From the tables at the start to the tables now. -/
  history : History mysql false tables (turns.map Turn.entry) pool.store.tables
  all : AllCompleted pool →
    (turns.map fun turn => (turn.ticket, turn.job)).Perm pool.accepted

theorem sequential_of_linear {turns : List Turn} (accounted : Accounted pool)
    (linear : Linear mysql tables pool turns) : Sequential mysql tables pool turns := by
  have accepted : ∀ turn ∈ turns, (turn.ticket, turn.job) ∈ pool.accepted := by
    intro turn listed
    rcases linear.known turn listed with ⟨index, taken⟩
    exact popped_accepted accounted taken
  refine ⟨linear.distinct, accepted, linear.answered, linear.realTime, linear.history, ?_⟩
  intro completed
  have numbers : (pool.accepted.map Prod.fst).Nodup := accounted.numbered ▸ List.nodup_range
  have once : (turns.map fun turn => (turn.ticket, turn.job)).Nodup := by
    have tickets := linear.distinct
    have same : turns.map Turn.ticket =
        (turns.map fun turn => (turn.ticket, turn.job)).map Prod.fst := by
      rw [List.map_map]
      rfl
    rw [same] at tickets
    exact tickets.of_map _
  apply (List.perm_ext_iff_of_nodup once (numbers.of_map _)).mpr
  rintro ⟨ticket, job⟩
  constructor
  · intro listed
    rcases List.mem_map.mp listed with ⟨turn, member, same⟩
    rw [← same]
    exact accepted turn member
  · intro listed
    rcases completed _ listed with ⟨index, completion, pushed⟩
    rcases linear.answered index ticket completion pushed with ⟨other, member⟩
    have equal := List.inj_on_of_nodup_map numbers (accepted _ member) listed rfl
    rw [← equal]
    exact List.mem_map.mpr ⟨_, member, rfl⟩

/-- Every run of healthy workers has an order of its jobs, consistent with real
time, in which executing them one at a time gives the same completions and the
same tables. -/
theorem jobs_linearizable {poolSize : Nat} {labels : List Label} (sound : Sound mysql tables)
    (healthy : ∀ label ∈ labels, Healthy label)
    (ran : run (step mysql) (Pool.start poolSize tables) labels = some pool) :
    ∃ turns, Sequential mysql tables pool turns := by
  rcases orderly_run sound healthy ran with ⟨accounted, turns, linear⟩
  exact ⟨turns, sequential_of_linear accounted linear⟩

def registerAda : DbJob :=
  ⟨⟨7, 1⟩, 1, .registerPlayer, ascii "REGISTER", [ascii "ada", ascii "Ada"], true⟩

def loginAda : DbJob := ⟨⟨8, 2⟩, 1, .loginPlayer, ascii "LOGIN", [ascii "ada"], true⟩

/-- The login is submitted last and executed first. -/
def crossedRun : List Label :=
  [.submit registerAda, .submit loginAda, .worker 0 .pop, .worker 1 .pop,
    .worker 1 (.connect (.ok ())), .worker 0 (.connect (.ok ())),
    .worker 1 (.execute (.goes .asStored)), .worker 0 (.execute (.goes .asStored)),
    .worker 0 .push, .worker 1 .push]

theorem jobs_linearizable_crossed :
    ∃ pool, run (step Mysql.binary) (Pool.start 2 Tables.empty) crossedRun = some pool ∧
      ∃ turns, Sequential Mysql.binary Tables.empty pool turns := by
  refine ⟨_, rfl, ?_⟩
  have healthy : ∀ label ∈ crossedRun, Healthy label := by decide
  exact jobs_linearizable (sound_empty Mysql.binary) healthy (rfl : run (step Mysql.binary)
    (Pool.start 2 Tables.empty) crossedRun = some _)

end DungeonPortfolio.Linearized
