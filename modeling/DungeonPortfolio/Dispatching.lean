import DungeonPortfolio.Library.Simulation
import DungeonPortfolio.Linearized

/-!
# The pool behind the dispatcher

The event loop knows of its workers by the jobs they hold and by the signals they
owe. What it knows is computed from a pool, and every step of a worker is a step
of the dispatcher or unseen.
-/

namespace DungeonPortfolio.Dispatching

open DungeonPortfolio.Text DungeonPortfolio.Dispatcher DungeonPortfolio.Schema
open DungeonPortfolio.Statements DungeonPortfolio.Connection DungeonPortfolio.Workers
open DungeonPortfolio.ExactlyOnce DungeonPortfolio.Linearized
open Library Library.Execution

set_option autoImplicit false

/-- The jobs that are popped and not answered, in the order of the pops. -/
def unanswered (pool : Pool) : List Popped :=
  (pool.popped.map Prod.snd).filter fun popped =>
    popped.ticket ∉ pool.pushed.map fun entry => entry.2.1

def owesSignal (worker : Worker) : Bool := worker.phase matches .signalling

def signalling (pool : Pool) : Nat :=
  (List.range pool.poolSize).countP fun index => owesSignal (pool.workers index)

/-- The pool as the event loop sees it. -/
def dispatcherOf (pool : Pool) : DbDispatcher where
  poolSize := pool.poolSize
  jobs := pool.jobs
  held := (unanswered pool).map Popped.job
  completions := pool.completions
  unsignalled := signalling pool
  eventCount := pool.eventCount

variable {pool after : Pool}

theorem mem_unanswered (accounted : Accounted pool) {popped : Popped} :
    popped ∈ unanswered pool ↔ ∃ index < pool.poolSize, (pool.workers index).holds = some popped := by
  rw [unanswered, List.mem_filter, List.mem_map]
  constructor
  · rintro ⟨⟨⟨index, other⟩, listed, rfl⟩, open_⟩
    refine ⟨index, accounted.bounded _ listed, ?_⟩
    rcases accounted.every index other listed with ⟨completion, pushed⟩ | held
    · have answered : other.ticket ∈ pool.pushed.map fun entry => entry.2.1 :=
        List.mem_map.mpr ⟨_, pushed, rfl⟩
      exact absurd answered (of_decide_eq_true open_)
    · exact held
  · rintro ⟨index, _, held⟩
    rcases accounted.held index popped held with ⟨listed, open_⟩
    exact ⟨⟨_, listed, rfl⟩, decide_eq_true open_⟩

theorem all_tickets (accounted : Accounted pool) :
    ((pool.popped.map Prod.snd).map Popped.ticket).Nodup := by
  rw [List.map_map]
  exact accounted.tickets ▸ List.nodup_range

theorem tickets_distinct (accounted : Accounted pool) :
    ((unanswered pool).map Popped.ticket).Nodup :=
  (all_tickets accounted).sublist (List.filter_sublist.map _)

def holders (pool : Pool) : List Nat :=
  (List.range pool.poolSize).filter fun index => (pool.workers index).holds.isSome

theorem length_unanswered (accounted : Accounted pool) :
    (unanswered pool).length = (holders pool).length := by
  have held : ((holders pool).filterMap fun index => (pool.workers index).holds).Perm
      (unanswered pool) := by
    apply (List.perm_ext_iff_of_nodup _ (tickets_distinct accounted).of_map).mpr
    · intro popped
      rw [mem_unanswered accounted, List.mem_filterMap]
      constructor
      · rintro ⟨index, listed, holds⟩
        exact ⟨index, List.mem_range.mp (List.mem_filter.mp listed).1, holds⟩
      · rintro ⟨index, bound, holds⟩
        refine ⟨index, List.mem_filter.mpr ⟨List.mem_range.mpr bound, ?_⟩, holds⟩
        rw [holds]
        rfl
    · apply List.Nodup.filterMap
      · intro first second popped mine theirs
        by_contra apart
        exact held_apart accounted (Ne.symm apart) mine theirs rfl
      · exact List.nodup_range.filter _
  rw [← held.length_eq, List.length_filterMap_eq_countP]
  apply List.countP_eq_length.mpr
  intro index listed
  exact (List.mem_filter.mp listed).2

theorem idle_is_counted (accounted : Accounted pool) {index : Nat} (bound : index < pool.poolSize)
    (idle : (pool.workers index).phase = .popping) :
    (unanswered pool).length + signalling pool < pool.poolSize := by
  have apart : ∀ worker : Worker, worker.holds.isSome = true → owesSignal worker = false := by
    rintro ⟨connection, phase⟩ holds
    cases phase with
    | connecting | executing => rfl
    | popping | signalling | exited => cases holds
  let busy (index : Nat) : Bool :=
    (pool.workers index).holds.isSome || owesSignal (pool.workers index)
  have both : (unanswered pool).length + signalling pool =
      (List.range pool.poolSize).countP busy := by
    rw [length_unanswered accounted, holders, ← List.countP_eq_length_filter, signalling]
    induction List.range pool.poolSize with
    | nil => rfl
    | cons first rest ih =>
        simp only [List.countP_cons, busy] at ih ⊢
        have different := apart (pool.workers first)
        cases holds : (pool.workers first).holds.isSome with
        | true =>
            rw [different holds]
            simp
            omega
        | false =>
            simp
            omega
  rw [both]
  have some_idle : ¬busy index = true := by
    simp [busy, Worker.holds, owesSignal, idle]
  have fewer : (List.range pool.poolSize).countP busy < (List.range pool.poolSize).length := by
    rw [List.countP_eq_length_filter]
    apply List.length_filter_lt_length_iff_exists.mpr
    exact ⟨index, List.mem_range.mpr bound, some_idle⟩
  rw [List.length_range] at fewer
  exact fewer

theorem dispatcher_start (poolSize : Nat) (tables : Tables) :
    dispatcherOf (Pool.start poolSize tables) = DbDispatcher.start poolSize := by
  have idle : signalling (Pool.start poolSize tables) = 0 :=
    List.countP_eq_zero.mpr fun _ _ => Bool.false_ne_true
  rw [dispatcherOf, idle]
  rfl

theorem unanswered_record {event : Event} (untaken : event.popped? = none)
    (unpushed : event.pushed? = none) : unanswered (pool.record event) = unanswered pool := by
  rw [unanswered, Pool.record_popped, Pool.record_pushed, untaken, unpushed]
  simp only [Option.toList_none, List.append_nil]
  rfl

theorem dispatcher_submit (job : DbJob) :
    dispatcherOf (pool.submit job) = (dispatcherOf pool).submit job := by
  have same : unanswered (pool.submit job) = unanswered pool := by
    unfold Pool.submit
    split <;> exact unanswered_record rfl rfl
  rw [dispatcherOf, same]
  rfl

theorem dispatcher_pop_completion :
    dispatcherOf pool.popCompletion =
      { dispatcherOf pool with completions := pool.completions.tail } := by
  unfold Pool.popCompletion
  cases waiting : pool.completions with
  | nil =>
      rw [dispatcherOf, waiting]
      rfl
  | cons completion rest =>
      have same : unanswered ({ pool with completions := rest }.record (.delivered completion)) =
          unanswered pool := unanswered_record rfl rfl
      rw [dispatcherOf, same]
      rfl

/-- What the event loop can tell of a step of a worker. -/
inductive Seen (database later : DbDispatcher) : Prop where
  | unseen (same : later = database)
  | take (taken : database.take = some later)
  | finish (index : Nat) (ok : Bool) (line : Bytes)
      (finished : database.finish index ok line = some later)
  | signal (signalled : database.signal = some later)

theorem signalling_worker (pool : Pool) (worker : Worker) {index : Nat}
    (bound : index < pool.poolSize) :
    signalling (pool.setWorker index worker) + (owesSignal (pool.workers index)).toNat =
      signalling pool + (owesSignal worker).toNat := by
  have others : ∀ indices : List Nat, index ∉ indices →
      indices.countP (fun other => owesSignal ((pool.setWorker index worker).workers other)) =
        indices.countP fun other => owesSignal (pool.workers other) := by
    intro indices outside
    apply List.countP_congr
    intro other listed
    rw [Pool.set_worker_other (ne_of_mem_of_not_mem listed outside)]
  have count : ∀ owes : Nat → Bool, (List.range pool.poolSize).countP owes =
      ((List.range pool.poolSize).erase index).countP owes + (owes index).toNat := by
    intro owes
    have split := (List.perm_cons_erase (List.mem_range.mpr bound)).countP_eq owes
    rw [split, List.countP_cons]
    cases owes index <;> rfl
  have outside : index ∉ (List.range pool.poolSize).erase index :=
    List.nodup_range.not_mem_erase
  have now := count fun other => owesSignal ((pool.setWorker index worker).workers other)
  have before := count fun other => owesSignal (pool.workers other)
  rw [others _ outside, Pool.set_worker_same] at now
  change signalling (pool.setWorker index worker) = _ at now
  change signalling pool = _ at before
  omega

theorem signalling_kept (pool : Pool) {index : Nat} {worker : Worker} (bound : index < pool.poolSize)
    (same : owesSignal worker = owesSignal (pool.workers index)) :
    signalling (pool.setWorker index worker) = signalling pool := by
  have counted := signalling_worker pool worker bound
  rw [same] at counted
  exact Nat.add_right_cancel counted

theorem dispatcher_record {event : Event} (untaken : event.popped? = none)
    (unpushed : event.pushed? = none) : dispatcherOf (pool.record event) = dispatcherOf pool := by
  rw [dispatcherOf, unanswered_record untaken unpushed]
  rfl

theorem dispatcher_worker {index : Nat} {worker : Worker} (store : Store)
    (bound : index < pool.poolSize) (same : owesSignal worker = owesSignal (pool.workers index)) :
    dispatcherOf ({ pool with store }.setWorker index worker) = dispatcherOf pool := by
  have signals : signalling ({ pool with store }.setWorker index worker) = signalling pool :=
    signalling_kept { pool with store } bound same
  rw [dispatcherOf, signals]
  rfl

theorem dispatcher_take {index : Nat} {job : DbJob} {rest : List DbJob} {phase : Phase}
    (accounted : Accounted pool) (bound : index < pool.poolSize)
    (idle : (pool.workers index).phase = .popping) (quiet : owesSignal ⟨(pool.workers index).connection, phase⟩ = false) :
    dispatcherOf (({ pool with jobs := { pool.jobs with items := rest } }.setWorker index
      ⟨(pool.workers index).connection, phase⟩).record (.popped index ⟨pool.popped.length, job⟩)) =
      { dispatcherOf pool with
        jobs := { pool.jobs with items := rest }
        held := (dispatcherOf pool).held ++ [job] } := by
  have unpushed : pool.popped.length ∉ pool.pushed.map fun entry => entry.2.1 := by
    intro listed
    rcases List.mem_map.mp listed with ⟨⟨other, ticket, completion⟩, pushed, same⟩
    rcases accounted.answered other ticket completion pushed with ⟨earlier, popped, _⟩
    have small := fresh_ticket accounted popped
    exact Nat.lt_irrefl _ (same ▸ small)
  have hands : unanswered (({ pool with jobs := { pool.jobs with items := rest } }.setWorker index
      ⟨(pool.workers index).connection, phase⟩).record (.popped index ⟨pool.popped.length, job⟩)) =
      unanswered pool ++ [⟨pool.popped.length, job⟩] := by
    rw [unanswered, Pool.record_popped, Pool.record_pushed]
    simp only [Event.popped?, Event.pushed?, Option.toList_some, Option.toList_none,
      List.append_nil, List.map_append, List.filter_append]
    change unanswered pool ++ _ = _
    congr 1
    apply List.filter_eq_self.mpr
    intro popped listed
    rw [List.mem_singleton.mp listed]
    exact decide_eq_true unpushed
  have signals : signalling (({ pool with jobs := { pool.jobs with items := rest } }.setWorker index
      ⟨(pool.workers index).connection, phase⟩).record (.popped index ⟨pool.popped.length, job⟩)) =
      signalling pool := by
    apply signalling_kept { pool with jobs := { pool.jobs with items := rest } } bound
    rw [quiet]
    change false = owesSignal (pool.workers index)
    rw [owesSignal, idle]
  rw [dispatcherOf, hands, signals, List.map_append]
  rfl

theorem seen_pop (accounted : Accounted pool) {index : Nat} (bound : index < pool.poolSize)
    (taken : pool.pop index = some after) : Seen (dispatcherOf pool) (dispatcherOf after) := by
  rcases Pool.pop_cases taken with ⟨idle, ⟨_, _, rfl⟩ | ⟨job, rest, phase, items, starts, rfl⟩⟩
  · apply Seen.unseen
    rw [dispatcher_record rfl rfl]
    exact dispatcher_worker pool.store bound (by rw [owesSignal, owesSignal, idle])
  · have quiet : owesSignal ⟨(pool.workers index).connection, phase⟩ = false := by
      rcases starts with ⟨_, rfl⟩ | ⟨_, rfl⟩ <;> rfl
    have room : ((unanswered pool).map Popped.job).length + signalling pool < pool.poolSize := by
      rw [List.length_map]
      exact idle_is_counted accounted bound idle
    have queue : (dispatcherOf pool).jobs.items = job :: rest := items
    apply Seen.take
    rw [dispatcher_take accounted bound idle quiet, DbDispatcher.take, queue]
    exact if_pos room

theorem dispatcher_push {index : Nat} {popped : Popped} {script : JobScript DbCompletion}
    {completion : DbCompletion} (accounted : Accounted pool) (bound : index < pool.poolSize)
    (busy : (pool.workers index).phase = .executing popped script) :
    dispatcherOf (({ pool with completions := pool.completions ++ [completion] }.setWorker index
      ⟨(pool.workers index).connection, .signalling⟩).record
        (.pushed index popped.ticket completion)) =
      { dispatcherOf pool with
        held := (dispatcherOf pool).held.eraseIdx ((unanswered pool).idxOf popped)
        completions := pool.completions ++ [completion]
        unsignalled := (dispatcherOf pool).unsignalled + 1 } := by
  have held : (pool.workers index).holds = some popped := by rw [Worker.holds, busy]
  have listed : popped ∈ unanswered pool := (mem_unanswered accounted).mpr ⟨index, bound, held⟩
  have hands : unanswered (({ pool with completions := pool.completions ++ [completion] }.setWorker
      index ⟨(pool.workers index).connection, .signalling⟩).record
        (.pushed index popped.ticket completion)) =
      (unanswered pool).eraseIdx ((unanswered pool).idxOf popped) := by
    have once : (unanswered pool).Nodup := (tickets_distinct accounted).of_map _
    rw [← List.erase_eq_eraseIdx_of_idxOf rfl, once.erase_eq_filter]
    rw [unanswered, Pool.record_popped, Pool.record_pushed]
    simp only [Event.popped?, Event.pushed?, Option.toList_some, Option.toList_none,
      List.append_nil, List.map_append, List.map_cons, List.map_nil]
    change ((pool.popped.map Prod.snd).filter fun other =>
      other.ticket ∉ (pool.pushed.map fun entry => entry.2.1) ++ [popped.ticket]) = _
    rw [unanswered, List.filter_filter]
    apply List.filter_congr
    intro other taken
    have same : other.ticket = popped.ticket → other = popped := by
      intro tickets
      exact List.inj_on_of_nodup_map (all_tickets accounted) taken
        (List.mem_filter.mp listed).1 tickets
    by_cases here : other = popped
    · rw [here]
      simp
    · have apart : other.ticket ≠ popped.ticket := fun tickets => here (same tickets)
      have different : (other != popped) = true := bne_iff_ne.mpr here
      simp [different, apart]
  have signals : signalling (({ pool with completions := pool.completions ++
      [completion] }.setWorker index ⟨(pool.workers index).connection, .signalling⟩).record
        (.pushed index popped.ticket completion)) = signalling pool + 1 := by
    have counted := signalling_worker pool ⟨(pool.workers index).connection, .signalling⟩ bound
    have before : owesSignal (pool.workers index) = false := by rw [owesSignal, busy]
    rw [before] at counted
    exact counted
  rw [dispatcherOf, hands, signals, ← List.eraseIdx_map]
  rfl

theorem seen_push (accounted : Accounted pool) {index : Nat} (bound : index < pool.poolSize)
    (taken : pool.push index = some after) : Seen (dispatcherOf pool) (dispatcherOf after) := by
  rcases Pool.push_cases taken with ⟨popped, script, result, busy, ended, rfl⟩
  have answers : Answers (Connection.pushed popped.job result) popped.job :=
    pushed_answers (accounted.scripts index popped script busy) ended
  have held : (pool.workers index).holds = some popped := by rw [Worker.holds, busy]
  have listed : popped ∈ unanswered pool := (mem_unanswered accounted).mpr ⟨index, bound, held⟩
  have job : (dispatcherOf pool).held[(unanswered pool).idxOf popped]? = some popped.job := by
    change ((unanswered pool).map Popped.job)[_]? = _
    rw [List.getElem?_map, List.getElem?_idxOf listed]
    rfl
  have completion : completionOf popped.job (Connection.pushed popped.job result).ok
      (Connection.pushed popped.job result).line = Connection.pushed popped.job result := by
    rw [completionOf, ← answers.client, ← answers.requestId, ← answers.notifyClient]
  apply Seen.finish ((unanswered pool).idxOf popped) (Connection.pushed popped.job result).ok
    (Connection.pushed popped.job result).line
  rw [dispatcher_push accounted bound busy, DbDispatcher.finish, job]
  simp only
  rw [completion]
  rfl

theorem seen_signal {index : Nat} (bound : index < pool.poolSize)
    (taken : pool.signal index = some after) : Seen (dispatcherOf pool) (dispatcherOf after) := by
  rcases Pool.signal_cases taken with ⟨owing, rfl⟩
  have counted : signalling ({ pool with eventCount := pool.eventCount + 1 }.setWorker index
      ⟨(pool.workers index).connection, .popping⟩) + 1 = signalling pool := by
    have both := signalling_worker pool ⟨(pool.workers index).connection, .popping⟩ bound
    have before : owesSignal (pool.workers index) = true := by rw [owesSignal, owing]
    rw [before] at both
    exact both
  apply Seen.signal
  have owed : (dispatcherOf pool).unsignalled = signalling ({ pool with eventCount :=
      pool.eventCount + 1 }.setWorker index ⟨(pool.workers index).connection, .popping⟩) + 1 :=
    counted.symm
  rw [DbDispatcher.signal, owed]
  rfl

/-- Every step of a worker is a step of the dispatcher or is not seen. -/
theorem seen_worker {mysql : Mysql} (accounted : Accounted pool) {index : Nat} {chosen : Act}
    (bound : index < pool.poolSize) (taken : act mysql pool index chosen = some after) :
    Seen (dispatcherOf pool) (dispatcherOf after) := by
  cases chosen with
  | pop => exact seen_pop accounted bound taken
  | connect outcome =>
      apply Seen.unseen
      rcases Pool.connect_cases taken with ⟨popped, waiting, ⟨_, rfl⟩ | ⟨error, _, rfl⟩⟩ <;>
        exact dispatcher_worker pool.store bound (by rw [owesSignal, owesSignal, waiting])
  | execute choice =>
      apply Seen.unseen
      rcases Pool.execute_cases taken with ⟨popped, statement, next, link, answer, store, later,
        busy, _, _, rfl⟩
      rw [dispatcher_record rfl rfl]
      exact dispatcher_worker store bound (by rw [owesSignal, owesSignal, busy])
  | push => exact seen_push accounted bound taken
  | signal => exact seen_signal bound taken
  | lose =>
      apply Seen.unseen
      rcases Pool.lose_cases taken with ⟨link, connected, rfl⟩
      exact dispatcher_worker (pool.store.release index) bound rfl

end DungeonPortfolio.Dispatching
