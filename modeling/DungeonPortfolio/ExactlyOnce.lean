import DungeonPortfolio.Workers

/-!
# Every job is executed and completed once

An account of the jobs over the queue, the workers' hands and the completions:
pops come in the order of the accepted pushes, a popped job is in the hands of its
worker until that worker pushes one completion for it, and a worker leaves only
when the queue is closed and empty.
-/

namespace DungeonPortfolio.ExactlyOnce

open DungeonPortfolio.Text DungeonPortfolio.Dispatcher DungeonPortfolio.Schema
open DungeonPortfolio.Statements DungeonPortfolio.Connection DungeonPortfolio.Workers
open Library Library.Execution

set_option autoImplicit false

/-- The completion carries what the event loop needs to find the job's client. -/
structure Answers (completion : DbCompletion) (job : DbJob) : Prop where
  client : completion.client = job.client
  requestId : completion.requestId = job.requestId
  notifyClient : completion.notifyClient = job.notifyClient

theorem completed_answers (job : DbJob) (line : Bytes) : Answers (completed job line) job :=
  ⟨rfl, rfl, rfl⟩

theorem error_answers (job : DbJob) (error : StdException) :
    Answers (errorCompletion job error) job := ⟨rfl, rfl, rfl⟩

theorem returns_completed (job : DbJob) (line : Bytes) :
    (pure (completed job line) : JobScript DbCompletion).Returns fun completion =>
      Answers completion job := completed_answers job line

/-- Whatever the server answers, `execute_job` returns a completion of its job. -/
theorem execute_job_returns (job : DbJob) :
    (executeJob job).Returns fun completion => Answers completion job := by
  unfold executeJob
  cases job.operation with
  | registerPlayer =>
      apply Script.returns_bind
      intro account
      apply Script.returns_bind
      intro displayName
      apply Script.returns_bind
      intro answer
      cases answer with
      | failed stage text => trivial
      | duplicate text => trivial
      | fetched rows broken => exact returns_completed job _
  | loginPlayer =>
      apply Script.returns_bind
      intro account
      apply Script.returns_bind
      intro rows
      apply Script.returns_bind
      rintro ⟨id, displayName⟩
      simp only
      split_ifs
      · trivial
      · apply Script.returns_bind
        intro _
        exact returns_completed job _
  | saveCharacter | savePosition | saveInventoryItem =>
      apply Script.returns_bind
      intro account
      apply Script.returns_bind
      intro second
      apply Script.returns_bind
      intro third
      apply Script.returns_bind
      intro fourth
      apply Script.returns_bind
      intro _
      exact returns_completed job _
  | loadCharacters | loadInventory =>
      apply Script.returns_bind
      intro account
      apply Script.returns_bind
      intro id
      apply Script.returns_bind
      intro rows
      apply Script.returns_bind
      intro texts
      exact returns_completed job _

theorem pushed_answers {job : DbJob} {script : JobScript DbCompletion}
    {result : Except StdException DbCompletion}
    (returns : script.Returns fun completion => Answers completion job)
    (ended : script.ended = some result) : Answers (Connection.pushed job result) job := by
  cases script with
  | done completion =>
      cases ended
      exact returns
  | throws error =>
      cases ended
      exact error_answers job error
  | call statement next => cases ended

structure Accounted (pool : Pool) : Prop where
  numbered : pool.accepted.map Prod.fst = List.range pool.accepted.length
  queue : (pool.popped.map fun entry => entry.2.job) ++ pool.jobs.items =
    pool.accepted.map Prod.snd
  tickets : (pool.popped.map fun entry => entry.2.ticket) = List.range pool.popped.length
  bounded : ∀ entry ∈ pool.popped, entry.1 < pool.poolSize
  once : (pool.pushed.map fun entry => entry.2.1).Nodup
  answered : ∀ index ticket completion, (index, ticket, completion) ∈ pool.pushed →
    ∃ job, (index, ⟨ticket, job⟩) ∈ pool.popped ∧ Answers completion job
  every : ∀ index popped, (index, popped) ∈ pool.popped →
    (∃ completion, (index, popped.ticket, completion) ∈ pool.pushed) ∨
      (pool.workers index).holds = some popped
  held : ∀ index popped, (pool.workers index).holds = some popped →
    (index, popped) ∈ pool.popped ∧ popped.ticket ∉ pool.pushed.map fun entry => entry.2.1
  scripts : ∀ index popped script, (pool.workers index).phase = .executing popped script →
    script.Returns fun completion => Answers completion popped.job
  deliveries : (pool.pushed.map fun entry => entry.2.2) = pool.delivered ++ pool.completions
  gone : ∀ index, (pool.workers index).phase = .exited →
    pool.jobs.closed = true ∧ pool.jobs.items = []
  stopped : pool.joined = true → pool.jobs.closed = true ∧
    ∀ index < pool.poolSize, (pool.workers index).phase = .exited

theorem accounted_start (poolSize : Nat) (tables : Tables) :
    Accounted (Pool.start poolSize tables) where
  numbered := rfl
  queue := rfl
  tickets := rfl
  bounded := by
    intro entry member
    cases member
  once := List.nodup_nil
  answered := by
    intro index ticket completion member
    cases member
  every := by
    intro index popped member
    cases member
  held := by
    intro index popped holds
    cases holds
  scripts := by
    intro index popped script phase
    cases phase
  deliveries := rfl
  gone := by
    intro index phase
    cases phase
  stopped := by
    intro joined
    cases joined

variable {pool after : Pool}

/-- The ledgers of jobs, the queue and the jobs in hand are as before. -/
structure SameLedgers (pool after : Pool) : Prop where
  accepted : after.accepted = pool.accepted
  popped : after.popped = pool.popped
  pushed : after.pushed = pool.pushed
  items : after.jobs.items = pool.jobs.items
  poolSize : after.poolSize = pool.poolSize
  holds : ∀ index, (after.workers index).holds = (pool.workers index).holds

theorem same_refl (pool : Pool) : SameLedgers pool pool := ⟨rfl, rfl, rfl, rfl, rfl, fun _ => rfl⟩

theorem same_record (same : SameLedgers pool after) {event : Event}
    (silent : event.accepted? = none ∧ event.popped? = none ∧ event.pushed? = none) :
    SameLedgers pool (after.record event) where
  accepted := by rw [Pool.record_accepted, silent.1, same.accepted]; exact List.append_nil _
  popped := by rw [Pool.record_popped, silent.2.1, same.popped]; exact List.append_nil _
  pushed := by rw [Pool.record_pushed, silent.2.2, same.pushed]; exact List.append_nil _
  items := same.items
  poolSize := same.poolSize
  holds := same.holds

theorem same_worker (same : SameLedgers pool after) {index : Nat} {worker : Worker}
    (holds : worker.holds = (pool.workers index).holds) :
    SameLedgers pool (after.setWorker index worker) where
  accepted := same.accepted
  popped := same.popped
  pushed := same.pushed
  items := same.items
  poolSize := same.poolSize
  holds := by
    intro other
    by_cases here : other = index
    · rw [here, Pool.set_worker_same, holds]
    · rw [Pool.set_worker_other here, same.holds]

theorem accounted_kept (accounted : Accounted pool) (same : SameLedgers pool after)
    (scripts : ∀ index popped script, (after.workers index).phase = .executing popped script →
      script.Returns fun completion => Answers completion popped.job)
    (deliveries : (pool.pushed.map fun entry => entry.2.2) = after.delivered ++ after.completions)
    (gone : ∀ index, (after.workers index).phase = .exited →
      after.jobs.closed = true ∧ after.jobs.items = [])
    (stopped : after.joined = true → after.jobs.closed = true ∧
      ∀ index < after.poolSize, (after.workers index).phase = .exited) : Accounted after where
  numbered := by rw [same.accepted]; exact accounted.numbered
  queue := by rw [same.popped, same.items, same.accepted]; exact accounted.queue
  tickets := by rw [same.popped]; exact accounted.tickets
  bounded := by rw [same.popped, same.poolSize]; exact accounted.bounded
  once := by rw [same.pushed]; exact accounted.once
  answered := by rw [same.pushed, same.popped]; exact accounted.answered
  every := by
    intro index popped
    rw [same.pushed, same.popped, same.holds]
    exact accounted.every index popped
  held := by
    intro index popped
    rw [same.pushed, same.popped, same.holds]
    exact accounted.held index popped
  scripts := scripts
  deliveries := by rw [same.pushed]; exact deliveries
  gone := gone
  stopped := stopped

theorem scripts_worker (accounted : Accounted pool) (workers : after.workers = pool.workers)
    {index : Nat} {worker : Worker}
    (returns : ∀ popped script, worker.phase = .executing popped script →
      script.Returns fun completion => Answers completion popped.job) :
    ∀ other popped script, ((after.setWorker index worker).workers other).phase =
        .executing popped script →
      script.Returns fun completion => Answers completion popped.job := by
  intro other popped script phase
  by_cases here : other = index
  · rw [here, Pool.set_worker_same] at phase
    exact returns popped script phase
  · rw [Pool.set_worker_other here, workers] at phase
    exact accounted.scripts other popped script phase

/-- A step of a worker that keeps its job: nothing but the worker, the eventfd and
the database changes. -/
theorem accounted_worker (accounted : Accounted pool) {index eventCount : Nat} {store : Store}
    {worker : Worker} (holds : worker.holds = (pool.workers index).holds)
    (exited : worker.phase = .exited ↔ (pool.workers index).phase = .exited)
    (returns : ∀ popped script, worker.phase = .executing popped script →
      script.Returns fun completion => Answers completion popped.job) :
    Accounted ({ pool with store, eventCount }.setWorker index worker) := by
  have phases : ∀ other, (({ pool with store, eventCount }.setWorker index worker).workers
      other).phase = .exited ↔ (pool.workers other).phase = .exited := by
    intro other
    by_cases here : other = index
    · rw [here, Pool.set_worker_same, exited]
    · rw [Pool.set_worker_other here]
  apply accounted_kept accounted
  · have base : SameLedgers pool { pool with store, eventCount } :=
      ⟨rfl, rfl, rfl, rfl, rfl, fun _ => rfl⟩
    exact same_worker base holds
  · exact scripts_worker accounted rfl returns
  · exact accounted.deliveries
  · intro other phase
    exact accounted.gone other ((phases other).mp phase)
  · intro joined
    rcases accounted.stopped joined with ⟨closed, all⟩
    exact ⟨closed, fun other bound => (phases other).mpr (all other bound)⟩

theorem accounted_close (accounted : Accounted pool) : Accounted pool.close := by
  apply accounted_kept accounted
  · exact ⟨rfl, rfl, rfl, rfl, rfl, fun _ => rfl⟩
  · exact accounted.scripts
  · exact accounted.deliveries
  · intro index phase
    exact ⟨rfl, (accounted.gone index phase).2⟩
  · intro joined
    exact ⟨rfl, (accounted.stopped joined).2⟩

theorem accounted_join (accounted : Accounted pool) (taken : pool.join = some after) :
    Accounted after := by
  rcases Pool.join_cases taken with ⟨all, rfl⟩
  exact { accounted with stopped := fun _ => all }

theorem accounted_ran (accounted : Accounted pool) (index ticket : Nat) (statement : Statement) :
    Accounted (pool.record (.ran index ticket statement)) := by
  apply accounted_kept accounted
  · exact same_record (same_refl pool) ⟨rfl, rfl, rfl⟩
  · exact accounted.scripts
  · rw [Pool.record_delivered]
    simp only [Event.delivered?, Option.toList_none, List.append_nil]
    exact accounted.deliveries
  · exact accounted.gone
  · exact accounted.stopped

theorem accounted_pop_completion (accounted : Accounted pool) : Accounted pool.popCompletion := by
  unfold Pool.popCompletion
  cases waiting : pool.completions with
  | nil => exact accounted
  | cons completion rest =>
      have deliveries := accounted.deliveries
      rw [waiting] at deliveries
      apply accounted_kept accounted
      · apply same_record
        · exact ⟨rfl, rfl, rfl, rfl, rfl, fun _ => rfl⟩
        · exact ⟨rfl, rfl, rfl⟩
      · exact accounted.scripts
      · rw [Pool.record_delivered]
        simp only [Event.delivered?, Option.toList_some, List.append_assoc, List.singleton_append]
        exact deliveries
      · exact accounted.gone
      · exact accounted.stopped

/-- A worker that leaves finds the queue closed and empty. -/
theorem accounted_leave (accounted : Accounted pool) {index : Nat} {connection : Option Link}
    (idle : (pool.workers index).phase = .popping) (empty : pool.jobs.items = [])
    (closed : pool.jobs.closed = true) :
    Accounted ((pool.setWorker index ⟨connection, .exited⟩).record (.left index)) := by
  apply accounted_kept accounted
  · refine same_record (same_worker (same_refl pool) ?_) ⟨rfl, rfl, rfl⟩
    rw [Worker.holds, Worker.holds, idle]
  · apply scripts_worker accounted rfl
    intro popped script phase
    cases phase
  · rw [Pool.record_delivered]
    simp only [Event.delivered?, Option.toList_none, List.append_nil]
    exact accounted.deliveries
  · intro _ _
    exact ⟨closed, empty⟩
  · intro joined
    refine ⟨closed, ?_⟩
    intro other bound
    by_cases here : other = index
    · rw [here]
      exact congrArg Worker.phase Pool.set_worker_same
    · have left := (accounted.stopped joined).2 other bound
      rw [← left]
      exact congrArg Worker.phase (Pool.set_worker_other here)

theorem accounted_submit (accounted : Accounted pool) (job : DbJob) :
    Accounted (pool.submit job) := by
  unfold Pool.submit
  cases closed : pool.jobs.closed with
  | true =>
      have kept : pool.jobs.push job = pool.jobs := by
        rw [BlockingQueue.push, closed]
        rfl
      rw [if_pos rfl, kept]
      apply accounted_kept accounted
      · exact same_record (same_refl pool) ⟨rfl, rfl, rfl⟩
      · exact accounted.scripts
      · rw [Pool.record_delivered]
        simp only [Event.delivered?, Option.toList_none, List.append_nil]
        exact accounted.deliveries
      · exact accounted.gone
      · exact accounted.stopped
  | false =>
      rw [if_neg Bool.false_ne_true]
      have items : (pool.jobs.push job).items = pool.jobs.items ++ [job] := by
        rw [BlockingQueue.push, closed]
        rfl
      constructor
      · rw [Pool.record_accepted]
        simp only [Event.accepted?, Option.toList_some, List.map_append, List.length_append,
          List.map_cons, List.map_nil, List.length_singleton, List.range_succ]
        exact congrArg (· ++ [pool.accepted.length]) accounted.numbered
      · rw [Pool.record_popped, Pool.record_accepted]
        simp only [Event.popped?, Event.accepted?, Option.toList_none, Option.toList_some,
          List.append_nil, List.map_append, List.map_cons, List.map_nil]
        have grown := congrArg (· ++ [job]) accounted.queue
        simp only [List.append_assoc] at grown
        rw [← items] at grown
        exact grown
      · rw [Pool.record_popped]
        simp only [Event.popped?, Option.toList_none, List.append_nil]
        exact accounted.tickets
      · rw [Pool.record_popped]
        simp only [Event.popped?, Option.toList_none, List.append_nil]
        exact accounted.bounded
      · rw [Pool.record_pushed]
        simp only [Event.pushed?, Option.toList_none, List.append_nil]
        exact accounted.once
      · rw [Pool.record_pushed, Pool.record_popped]
        simp only [Event.pushed?, Event.popped?, Option.toList_none, List.append_nil]
        exact accounted.answered
      · rw [Pool.record_pushed, Pool.record_popped]
        simp only [Event.pushed?, Event.popped?, Option.toList_none, List.append_nil]
        exact accounted.every
      · rw [Pool.record_pushed, Pool.record_popped]
        simp only [Event.pushed?, Event.popped?, Option.toList_none, List.append_nil]
        exact accounted.held
      · exact accounted.scripts
      · rw [Pool.record_pushed, Pool.record_delivered]
        simp only [Event.pushed?, Event.delivered?, Option.toList_none, List.append_nil]
        exact accounted.deliveries
      · intro index phase
        rw [(accounted.gone index phase).1] at closed
        cases closed
      · intro joined
        rw [(accounted.stopped joined).1] at closed
        cases closed

theorem fresh_ticket (accounted : Accounted pool) {index : Nat} {popped : Popped}
    (member : (index, popped) ∈ pool.popped) : popped.ticket < pool.popped.length := by
  have listed : popped.ticket ∈ pool.popped.map fun entry => entry.2.ticket :=
    List.mem_map.mpr ⟨(index, popped), member, rfl⟩
  rw [accounted.tickets] at listed
  exact List.mem_range.mp listed

theorem accounted_take (accounted : Accounted pool) {index : Nat} (bound : index < pool.poolSize)
    {job : DbJob} {rest : List DbJob} {worker : Worker} (idle : (pool.workers index).phase = .popping)
    (items : pool.jobs.items = job :: rest)
    (holds : worker.holds = some ⟨pool.popped.length, job⟩)
    (returns : ∀ popped script, worker.phase = .executing popped script →
      script.Returns fun completion => Answers completion popped.job) :
    Accounted (({ pool with jobs := { pool.jobs with items := rest } }.setWorker index
      worker).record (.popped index ⟨pool.popped.length, job⟩)) := by
  have none : (pool.workers index).holds = none := by
    rw [Worker.holds, idle]
  have phase : worker.phase ≠ .exited := by
    intro exited
    rw [Worker.holds, exited] at holds
    cases holds
  have unanswered : pool.popped.length ∉ pool.pushed.map fun entry => entry.2.1 := by
    intro member
    rcases List.mem_map.mp member with ⟨⟨other, ticket, completion⟩, pushed, rfl⟩
    rcases accounted.answered other _ completion pushed with ⟨earlier, there, _⟩
    exact Nat.lt_irrefl _ (fresh_ticket accounted there)
  constructor
  · rw [Pool.record_accepted]
    simp only [Event.accepted?, Option.toList_none, List.append_nil]
    exact accounted.numbered
  · rw [Pool.record_accepted, Pool.record_popped]
    simp only [Event.accepted?, Event.popped?, Option.toList_none, Option.toList_some,
      List.append_nil, List.map_append, List.map_cons, List.map_nil, List.append_assoc,
      List.singleton_append]
    have queue := accounted.queue
    rw [items] at queue
    exact queue
  · rw [Pool.record_popped]
    simp only [Event.popped?, Option.toList_some, List.map_append, List.map_cons, List.map_nil,
      List.length_append, List.length_singleton, List.range_succ]
    exact congrArg (· ++ [pool.popped.length]) accounted.tickets
  · rw [Pool.record_popped]
    simp only [Event.popped?, Option.toList_some]
    intro entry member
    rcases List.mem_append.mp member with earlier | new
    · exact accounted.bounded entry earlier
    · rw [List.mem_singleton.mp new]
      exact bound
  · rw [Pool.record_pushed]
    simp only [Event.pushed?, Option.toList_none, List.append_nil]
    exact accounted.once
  · rw [Pool.record_pushed, Pool.record_popped]
    simp only [Event.pushed?, Event.popped?, Option.toList_none, List.append_nil]
    intro other ticket completion pushed
    rcases accounted.answered other ticket completion pushed with ⟨earlier, there, answers⟩
    exact ⟨earlier, List.mem_append_left _ there, answers⟩
  · rw [Pool.record_pushed, Pool.record_popped]
    simp only [Event.pushed?, Event.popped?, Option.toList_none, Option.toList_some,
      List.append_nil]
    intro other popped member
    rcases List.mem_append.mp member with earlier | new
    · rcases accounted.every other popped earlier with done | held
      · exact Or.inl done
      · right
        have apart : other ≠ index := by
          rintro rfl
          cases none.symm.trans held
        exact (congrArg Worker.holds (Pool.set_worker_other apart)).trans held
    · cases List.mem_singleton.mp new
      exact Or.inr ((congrArg Worker.holds Pool.set_worker_same).trans holds)
  · rw [Pool.record_pushed, Pool.record_popped]
    simp only [Event.pushed?, Event.popped?, Option.toList_none, Option.toList_some,
      List.append_nil]
    intro other popped held
    by_cases here : other = index
    · subst here
      have mine := (congrArg Worker.holds Pool.set_worker_same).symm.trans held
      cases holds.symm.trans mine
      exact ⟨List.mem_append_right _ (List.mem_singleton_self _), unanswered⟩
    · have theirs := (congrArg Worker.holds (Pool.set_worker_other here)).symm.trans held
      rcases accounted.held other popped theirs with ⟨there, open_⟩
      exact ⟨List.mem_append_left _ there, open_⟩
  · exact scripts_worker accounted rfl returns
  · rw [Pool.record_pushed, Pool.record_delivered]
    simp only [Event.pushed?, Event.delivered?, Option.toList_none, List.append_nil]
    exact accounted.deliveries
  · intro other exited
    by_cases here : other = index
    · rw [here] at exited
      exact absurd ((congrArg Worker.phase Pool.set_worker_same).symm.trans exited) phase
    · have theirs := (congrArg Worker.phase (Pool.set_worker_other here)).symm.trans exited
      have empty := (accounted.gone other theirs).2
      rw [items] at empty
      cases empty
  · intro joined
    rw [(accounted.stopped joined).2 index bound] at idle
    cases idle

theorem accounted_push (accounted : Accounted pool) {index : Nat} (bound : index < pool.poolSize)
    {popped : Popped} {script : JobScript DbCompletion} {completion : DbCompletion}
    {connection : Option Link} (busy : (pool.workers index).phase = .executing popped script)
    (answers : Answers completion popped.job) :
    Accounted (({ pool with completions := pool.completions ++ [completion] }.setWorker index
      ⟨connection, .signalling⟩).record (.pushed index popped.ticket completion)) := by
  have mine : (pool.workers index).holds = some popped := by
    rw [Worker.holds, busy]
  rcases accounted.held index popped mine with ⟨there, open_⟩
  constructor
  · rw [Pool.record_accepted]
    simp only [Event.accepted?, Option.toList_none, List.append_nil]
    exact accounted.numbered
  · rw [Pool.record_accepted, Pool.record_popped]
    simp only [Event.accepted?, Event.popped?, Option.toList_none, List.append_nil]
    exact accounted.queue
  · rw [Pool.record_popped]
    simp only [Event.popped?, Option.toList_none, List.append_nil]
    exact accounted.tickets
  · rw [Pool.record_popped]
    simp only [Event.popped?, Option.toList_none, List.append_nil]
    exact accounted.bounded
  · rw [Pool.record_pushed]
    simp only [Event.pushed?, Option.toList_some, List.map_append, List.map_cons, List.map_nil]
    apply List.nodup_append.mpr
    refine ⟨accounted.once, List.nodup_singleton _, ?_⟩
    intro ticket earlier other new
    rw [List.mem_singleton.mp new]
    rintro rfl
    exact open_ earlier
  · rw [Pool.record_pushed, Pool.record_popped]
    simp only [Event.pushed?, Event.popped?, Option.toList_none, Option.toList_some, List.append_nil]
    intro other ticket done member
    rcases List.mem_append.mp member with earlier | new
    · exact accounted.answered other ticket done earlier
    · cases List.mem_singleton.mp new
      exact ⟨popped.job, there, answers⟩
  · rw [Pool.record_pushed, Pool.record_popped]
    simp only [Event.pushed?, Event.popped?, Option.toList_none, Option.toList_some, List.append_nil]
    intro other taken member
    rcases accounted.every other taken member with ⟨done, earlier⟩ | held
    · exact Or.inl ⟨done, List.mem_append_left _ earlier⟩
    · by_cases here : other = index
      · subst here
        cases mine.symm.trans held
        exact Or.inl ⟨completion, List.mem_append_right _ (List.mem_singleton_self _)⟩
      · exact Or.inr ((congrArg Worker.holds (Pool.set_worker_other here)).trans held)
  · rw [Pool.record_pushed, Pool.record_popped]
    simp only [Event.pushed?, Event.popped?, Option.toList_none, Option.toList_some, List.append_nil]
    intro other taken held
    by_cases here : other = index
    · subst here
      cases (congrArg Worker.holds Pool.set_worker_same).symm.trans held
    · have theirs := (congrArg Worker.holds (Pool.set_worker_other here)).symm.trans held
      rcases accounted.held other taken theirs with ⟨listed, unanswered⟩
      refine ⟨listed, ?_⟩
      simp only [List.map_append, List.map_cons, List.map_nil, List.mem_append, List.mem_singleton,
        not_or]
      refine ⟨unanswered, ?_⟩
      intro same
      -- one number, one worker
      have equal := List.inj_on_of_nodup_map (accounted.tickets ▸ List.nodup_range) listed there same
      exact here (congrArg Prod.fst equal)
  · apply scripts_worker accounted rfl
    intro taken rest phase
    cases phase
  · rw [Pool.record_pushed, Pool.record_delivered]
    simp only [Event.pushed?, Event.delivered?, Option.toList_none, Option.toList_some,
      List.append_nil, List.map_append, List.map_cons, List.map_nil]
    have deliveries := congrArg (· ++ [completion]) accounted.deliveries
    simp only [List.append_assoc] at deliveries
    exact deliveries
  · intro other exited
    by_cases here : other = index
    · rw [here] at exited
      cases (congrArg Worker.phase Pool.set_worker_same).symm.trans exited
    · exact accounted.gone other
        ((congrArg Worker.phase (Pool.set_worker_other here)).symm.trans exited)
  · intro joined
    rw [(accounted.stopped joined).2 index bound] at busy
    cases busy

theorem accounted_step {mysql : Mysql} {label : Label} (accounted : Accounted pool)
    (taken : step mysql pool label = some after) : Accounted after := by
  cases label with
  | submit job =>
      cases taken
      exact accounted_submit accounted job
  | close =>
      cases taken
      exact accounted_close accounted
  | join => exact accounted_join accounted taken
  | popCompletion =>
      cases taken
      exact accounted_pop_completion accounted
  | drainEvents =>
      cases taken
      apply accounted_kept accounted
      · exact ⟨rfl, rfl, rfl, rfl, rfl, fun _ => rfl⟩
      · exact accounted.scripts
      · exact accounted.deliveries
      · exact accounted.gone
      · exact accounted.stopped
  | worker index chosen =>
      simp only [step] at taken
      split_ifs at taken with bound
      cases chosen with
      | pop =>
          rcases Pool.pop_cases taken with ⟨idle, ⟨empty, closed, rfl⟩ |
            ⟨job, rest, phase, items, ⟨_, rfl⟩ | ⟨_, rfl⟩, rfl⟩⟩
          · exact accounted_leave accounted idle empty closed
          · apply accounted_take accounted bound idle items rfl
            intro popped script executing
            cases executing
          · apply accounted_take accounted bound idle items rfl
            intro popped script executing
            cases executing
            exact execute_job_returns job
      | connect outcome =>
          rcases Pool.connect_cases taken with ⟨popped, busy, ⟨_, rfl⟩ | ⟨error, _, rfl⟩⟩
          · refine accounted_worker accounted (by rw [Worker.holds, Worker.holds, busy])
              (by simp [busy]) ?_
            intro other script executing
            cases executing
            exact execute_job_returns popped.job
          · refine accounted_worker accounted (by rw [Worker.holds, Worker.holds, busy])
              (by simp [busy]) ?_
            intro other script executing
            cases executing
            trivial
      | execute choice =>
          rcases Pool.execute_cases taken with
            ⟨popped, statement, next, link, answer, store, link', busy, _, _, rfl⟩
          apply accounted_ran
          refine accounted_worker accounted (by rw [Worker.holds, Worker.holds, busy])
            (by simp [busy]) ?_
          intro other script executing
          cases executing
          exact accounted.scripts index popped _ busy answer
      | push =>
          rcases Pool.push_cases taken with ⟨popped, script, result, busy, ended, rfl⟩
          exact accounted_push accounted bound busy
            (pushed_answers (accounted.scripts index popped script busy) ended)
      | signal =>
          rcases Pool.signal_cases taken with ⟨busy, rfl⟩
          refine accounted_worker accounted (by rw [Worker.holds, Worker.holds, busy])
            (by simp [busy]) ?_
          intro other script executing
          cases executing
      | lose =>
          rcases Pool.lose_cases taken with ⟨link, _, rfl⟩
          refine accounted_worker accounted (by rw [Worker.holds, Worker.holds]) Iff.rfl ?_
          intro other script executing
          exact accounted.scripts index other script executing

def submittedBeforeClose : List Label → List DbJob
  | [] => []
  | .submit job :: rest => job :: submittedBeforeClose rest
  | .close :: _ => []
  | _ :: rest => submittedBeforeClose rest

/-- What a step adds to the accepted jobs, and who closes the queue. -/
structure Intake (pool after : Pool) (closes : Bool) (jobs : List DbJob) : Prop where
  poolSize : after.poolSize = pool.poolSize
  closed : after.jobs.closed = (pool.jobs.closed || closes)
  accepted : after.accepted.map Prod.snd = pool.accepted.map Prod.snd ++ jobs

theorem intake_none (poolSize : after.poolSize = pool.poolSize)
    (closed : after.jobs.closed = pool.jobs.closed) (accepted : after.accepted = pool.accepted) :
    Intake pool after false [] :=
  ⟨poolSize, by rw [closed, Bool.or_false], by rw [accepted, List.append_nil]⟩

theorem intake_submit (pool : Pool) (job : DbJob) :
    Intake pool (pool.submit job) false (if pool.jobs.closed then [] else [job]) := by
  unfold Pool.submit
  cases closed : pool.jobs.closed with
  | true =>
      have kept : pool.jobs.push job = pool.jobs := by
        rw [BlockingQueue.push, closed]
        rfl
      rw [if_pos rfl, kept]
      refine intake_none (by rfl) (by rfl) ?_
      rw [Pool.record_accepted]
      exact List.append_nil _
  | false =>
      rw [if_neg Bool.false_ne_true]
      refine ⟨rfl, ?_, ?_⟩
      · rw [Bool.or_false, BlockingQueue.push, closed]
        rfl
      · rw [Pool.record_accepted]
        simp only [Event.accepted?, Option.toList_some, List.map_append, List.map_cons, List.map_nil]
        rfl

theorem intake_act {mysql : Mysql} {index : Nat} {chosen : Act}
    (taken : act mysql pool index chosen = some after) : Intake pool after false [] := by
  cases chosen with
  | pop =>
      rcases Pool.pop_cases taken with ⟨_, ⟨_, _, rfl⟩ | ⟨job, rest, phase, _, _, rfl⟩⟩
      · refine intake_none (by rfl) (by rfl) ?_
        rw [Pool.record_accepted]
        exact List.append_nil _
      · refine intake_none (by rfl) (by rfl) ?_
        rw [Pool.record_accepted]
        exact List.append_nil _
  | connect outcome =>
      rcases Pool.connect_cases taken with ⟨popped, _, ⟨_, rfl⟩ | ⟨error, _, rfl⟩⟩
      · exact intake_none rfl rfl rfl
      · exact intake_none rfl rfl rfl
  | execute choice =>
      rcases Pool.execute_cases taken with
        ⟨popped, statement, next, link, answer, store, link', _, _, _, rfl⟩
      refine intake_none (by rfl) (by rfl) ?_
      rw [Pool.record_accepted]
      exact List.append_nil _
  | push =>
      rcases Pool.push_cases taken with ⟨popped, script, result, _, _, rfl⟩
      refine intake_none (by rfl) (by rfl) ?_
      rw [Pool.record_accepted]
      exact List.append_nil _
  | signal =>
      rcases Pool.signal_cases taken with ⟨_, rfl⟩
      exact intake_none rfl rfl rfl
  | lose =>
      rcases Pool.lose_cases taken with ⟨link, _, rfl⟩
      exact intake_none rfl rfl rfl

theorem intake_step {mysql : Mysql} {label : Label}
    (taken : step mysql pool label = some after) :
    (∃ job, label = .submit job ∧
        Intake pool after false (if pool.jobs.closed then [] else [job])) ∨
      (label = .close ∧ Intake pool after true []) ∨
      ((∀ job, label ≠ .submit job) ∧ label ≠ .close ∧ Intake pool after false []) := by
  cases label with
  | submit job =>
      cases taken
      exact Or.inl ⟨job, rfl, intake_submit pool job⟩
  | close =>
      cases taken
      refine Or.inr (Or.inl ⟨rfl, rfl, ?_, (List.append_nil _).symm⟩)
      rw [Bool.or_true]
      rfl
  | join =>
      rcases Pool.join_cases taken with ⟨_, rfl⟩
      exact Or.inr (Or.inr ⟨nofun, nofun, intake_none rfl rfl rfl⟩)
  | popCompletion =>
      cases taken
      refine Or.inr (Or.inr ⟨nofun, nofun, ?_⟩)
      unfold Pool.popCompletion
      cases pool.completions with
      | nil => exact intake_none rfl rfl rfl
      | cons completion rest =>
          refine intake_none (by rfl) (by rfl) ?_
          rw [Pool.record_accepted]
          exact List.append_nil _
  | drainEvents =>
      cases taken
      exact Or.inr (Or.inr ⟨nofun, nofun, intake_none rfl rfl rfl⟩)
  | worker index chosen =>
      simp only [step] at taken
      split_ifs at taken
      exact Or.inr (Or.inr ⟨nofun, nofun, intake_act taken⟩)

theorem accepted_run {mysql : Mysql} {labels : List Label}
    (ran : run (step mysql) pool labels = some after) :
    after.poolSize = pool.poolSize ∧ after.accepted.map Prod.snd = pool.accepted.map Prod.snd ++
      (if pool.jobs.closed then [] else submittedBeforeClose labels) := by
  induction labels generalizing pool with
  | nil =>
      obtain rfl : pool = after := Option.some.inj ran
      refine ⟨rfl, ?_⟩
      cases pool.jobs.closed <;> exact (List.append_nil _).symm
  | cons label rest ih =>
      rcases Option.bind_eq_some_iff.mp ran with ⟨middle, taken, later⟩
      rcases ih later with ⟨size, accepted⟩
      rcases intake_step taken with ⟨job, rfl, intake⟩ | ⟨rfl, intake⟩ |
        ⟨other, running, intake⟩
      · refine ⟨size.trans intake.poolSize, ?_⟩
        rw [accepted, intake.accepted, intake.closed, Bool.or_false]
        cases pool.jobs.closed with
        | true => simp
        | false => simp [submittedBeforeClose]
      · refine ⟨size.trans intake.poolSize, ?_⟩
        rw [accepted, intake.accepted, intake.closed, Bool.or_true]
        cases pool.jobs.closed <;> simp [submittedBeforeClose]
      · refine ⟨size.trans intake.poolSize, ?_⟩
        rw [accepted, intake.accepted, intake.closed, Bool.or_false, List.append_nil]
        cases label with
        | submit job => exact absurd rfl (other job)
        | close => exact absurd rfl running
        | join | popCompletion | drainEvents | worker => rfl

theorem accounted_run {mysql : Mysql} {poolSize : Nat} {tables : Tables} {labels : List Label}
    (ran : run (step mysql) (Pool.start poolSize tables) labels = some pool) : Accounted pool :=
  invariant_of_run (accounted_start poolSize tables)
    (fun _ _ _ accounted taken => accounted_step accounted taken) ran

/-- The jobs of a run: taken in order by one worker each, answered once each by
that worker, and none left behind once the workers have been joined. -/
structure CompletedOnce (jobs : List DbJob) (pool : Pool) : Prop where
  in_order : (pool.popped.map fun entry => entry.2.job) ++ pool.jobs.items = jobs
  one_worker : (pool.popped.map fun entry => entry.2.ticket) = List.range pool.popped.length
  one_completion : ∀ index popped, (index, popped) ∈ pool.popped →
    ((pool.workers index).holds = some popped ∧
        popped.ticket ∉ pool.pushed.map fun entry => entry.2.1) ∨
      ∃ completion, (index, popped.ticket, completion) ∈ pool.pushed ∧
        Answers completion popped.job
  no_second : (pool.pushed.map fun entry => entry.2.1).Nodup
  no_other : ∀ index ticket completion, (index, ticket, completion) ∈ pool.pushed →
    ∃ job, (index, ⟨ticket, job⟩) ∈ pool.popped
  delivered : (pool.pushed.map fun entry => entry.2.2) = pool.delivered ++ pool.completions
  left : ∀ index, (pool.workers index).phase = .exited →
    pool.jobs.closed = true ∧ pool.jobs.items = []
  joined : pool.joined = true → (pool.popped.map fun entry => entry.2.job) = jobs ∧
    ∀ index popped, (index, popped) ∈ pool.popped →
      ∃ completion, (index, popped.ticket, completion) ∈ pool.pushed ∧ Answers completion popped.job

theorem completed_once_of_accounted (accounted : Accounted pool) (positive : 0 < pool.poolSize) :
    CompletedOnce (pool.accepted.map Prod.snd) pool := by
  have answers : ∀ index popped completion, (index, popped) ∈ pool.popped →
      (index, popped.ticket, completion) ∈ pool.pushed → Answers completion popped.job := by
    rintro index ⟨ticket, taken⟩ completion listed pushed
    rcases accounted.answered index ticket completion pushed with ⟨job, there, answers⟩
    have equal := List.inj_on_of_nodup_map (accounted.tickets ▸ List.nodup_range) listed there rfl
    cases equal
    exact answers
  have one : ∀ index popped, (index, popped) ∈ pool.popped →
      ((pool.workers index).holds = some popped ∧
          popped.ticket ∉ pool.pushed.map fun entry => entry.2.1) ∨
        ∃ completion, (index, popped.ticket, completion) ∈ pool.pushed ∧
          Answers completion popped.job := by
    intro index popped listed
    rcases accounted.every index popped listed with ⟨completion, pushed⟩ | held
    · exact Or.inr ⟨completion, pushed, answers index popped completion listed pushed⟩
    · exact Or.inl ⟨held, (accounted.held index popped held).2⟩
  refine ⟨accounted.queue, accounted.tickets, one, accounted.once, ?_, accounted.deliveries,
    accounted.gone, ?_⟩
  · intro index ticket completion pushed
    rcases accounted.answered index ticket completion pushed with ⟨job, there, _⟩
    exact ⟨job, there⟩
  · intro joined
    have all := (accounted.stopped joined).2
    have empty := (accounted.gone 0 (all 0 positive)).2
    constructor
    · have queue := accounted.queue
      rw [empty, List.append_nil] at queue
      exact queue
    · intro index popped listed
      rcases one index popped listed with ⟨held, _⟩ | done
      · rw [Worker.holds, all index (accounted.bounded _ listed)] at held
        cases held
      · exact done

/-- In every run after `start()`, however submissions, workers, faults, `stop()`
and the event loop are interleaved, the jobs submitted before the queue is closed
are executed and completed once. -/
theorem jobs_completed_once {mysql : Mysql} {poolSize : Nat} {tables : Tables}
    {labels : List Label} (positive : 0 < poolSize)
    (ran : run (step mysql) (Pool.start poolSize tables) labels = some pool) :
    CompletedOnce (submittedBeforeClose labels) pool := by
  have accepted := accepted_run ran
  have jobs : pool.accepted.map Prod.snd = submittedBeforeClose labels := accepted.2
  rw [← jobs]
  apply completed_once_of_accounted (accounted_run ran)
  rw [accepted.1]
  exact positive

def unknownLogin : DbJob :=
  ⟨⟨7, 1⟩, 3, .loginPlayer, ascii "LOGIN", [ascii "ada"], true⟩

/-- One worker, one job, a stop, and a job that comes too late. -/
def stoppedRun : List Label :=
  [.submit unknownLogin, .worker 0 .pop, .worker 0 (.connect (.ok ())), .close,
    .worker 0 (.execute (.goes .asStored)), .submit unknownLogin, .worker 0 .push,
    .worker 0 .signal, .worker 0 .pop, .join]

theorem jobs_completed_once_stopped :
    ∃ pool, run (step Mysql.binary) (Pool.start 1 Tables.empty) stoppedRun = some pool ∧
      pool.joined = true ∧ CompletedOnce [unknownLogin] pool := by
  refine ⟨_, rfl, rfl, ?_⟩
  exact jobs_completed_once (by decide) (rfl : run (step Mysql.binary)
    (Pool.start 1 Tables.empty) stoppedRun = some _)

end DungeonPortfolio.ExactlyOnce
