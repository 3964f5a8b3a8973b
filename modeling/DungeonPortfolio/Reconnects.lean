import DungeonPortfolio.Linearized

/-!
# What becomes of a lost connection

`worker_loop` connects when it has no connection yet and keeps the connection
through every exception. A job whose call meets a lost connection fails; the
worker recovers if its next job runs on a live connection. It does so exactly in
the runs in which there is no next job.
-/

namespace DungeonPortfolio.Reconnects

open DungeonPortfolio.Text DungeonPortfolio.Dispatcher DungeonPortfolio.Schema
open DungeonPortfolio.Statements DungeonPortfolio.Connection DungeonPortfolio.Workers
open DungeonPortfolio.Linearized
open Library Library.Execution

set_option autoImplicit false

def rejected {Row : Type} : Answer Row → Bool
  | .failed _ _ => true
  | .duplicate _ | .fetched _ _ => false

def missed (mysql : Mysql) (pool : Pool) : Label → Option (Nat × Nat)
  | .worker index (.execute choice) =>
      match (pool.workers index).phase, (pool.workers index).connection with
      | .executing popped (.call statement _), some link =>
          (perform mysql index (pool.store, link) statement choice).bind
            fun (answer, _, later) =>
              if rejected answer ∧ later.alive = false then some (index, popped.ticket) else none
      | _, _ => none
  | _ => none

/-- After `before`, a call of the job fails because the worker's connection is lost. -/
def FailsAt (mysql : Mysql) (start : Pool) (before : List Label) (label : Label)
    (index ticket : Nat) : Prop :=
  ∃ pool, run (step mysql) start before = some pool ∧ missed mysql pool label = some (index, ticket)

def TakesAt (mysql : Mysql) (start : Pool) (before : List Label) (index : Nat)
    (worker : Worker) : Prop :=
  ∃ pool after, run (step mysql) start before = some pool ∧
    step mysql pool (.worker index .pop) = some after ∧ after.workers index = worker ∧
    worker.holds ≠ none

def Accepting : Label → Prop
  | .worker _ (.connect (.error _)) => False
  | _ => True

instance (label : Label) : Decidable (Accepting label) :=
  match label with
  | .worker _ (.connect (.error _)) => inferInstanceAs (Decidable False)
  | .worker _ (.connect (.ok _)) | .worker _ .pop | .worker _ (.execute _) | .worker _ .push
  | .worker _ .signal | .worker _ .lose | .submit _ | .close | .join | .popCompletion
  | .drainEvents => inferInstanceAs (Decidable True)

/-- Every worker recovers from a lost connection. -/
structure Recovers (mysql : Mysql) (start : Pool) (labels : List Label) : Prop where
  /-- Between two jobs that fail for lack of a connection there is a new one. -/
  once : ∀ before first between second after index one two,
    labels = before ++ first :: between ++ second :: after →
    FailsAt mysql start before first index one →
    FailsAt mysql start (before ++ first :: between) second index two → one ≠ two →
    .worker index (.connect (.ok ())) ∈ between
  /-- The next job is not started on a lost connection. -/
  next : ∀ before first between after index ticket worker,
    labels = before ++ first :: between ++ .worker index .pop :: after →
    FailsAt mysql start before first index ticket → .worker index .pop ∉ between →
    TakesAt mysql start (before ++ first :: between) index worker →
    ∀ link, worker.connection = some link → link.alive = true

/-- No worker pops another job once a job of it has failed for lack of a connection. -/
def LastJobs (mysql : Mysql) (start : Pool) (labels : List Label) : Prop :=
  ∀ before first between after index ticket worker,
    labels = before ++ first :: between ++ .worker index .pop :: after →
    FailsAt mysql start before first index ticket →
    ¬ TakesAt mysql start (before ++ first :: between) index worker

variable {mysql : Mysql} {pool after : Pool} {index : Nat}

def Dead (worker : Worker) : Prop := ∃ link, worker.connection = some link ∧ link.alive = false

def Unconnected (pool : Pool) : Prop :=
  ∀ index popped, (pool.workers index).phase = .connecting popped →
    (pool.workers index).connection = none

theorem step_other {label : Label} (others : ∀ chosen, label ≠ .worker index chosen)
    (taken : step mysql pool label = some after) : after.workers index = pool.workers index := by
  cases label with
  | submit job | close | drainEvents =>
      cases taken
      rfl
  | popCompletion =>
      cases taken
      unfold Pool.popCompletion
      split <;> rfl
  | join =>
      rcases Pool.join_cases taken with ⟨_, rfl⟩
      rfl
  | worker other chosen =>
      have apart : index ≠ other := by
        rintro rfl
        exact others chosen rfl
      simp only [step] at taken
      split_ifs at taken
      cases chosen with
      | pop =>
          rcases Pool.pop_cases taken with ⟨_, ⟨_, _, rfl⟩ | ⟨_, _, _, _, _, rfl⟩⟩
          · exact Pool.set_worker_other apart
          · exact Pool.set_worker_other apart
      | connect outcome =>
          rcases Pool.connect_cases taken with ⟨_, _, ⟨_, rfl⟩ | ⟨_, _, rfl⟩⟩
          · exact Pool.set_worker_other apart
          · exact Pool.set_worker_other apart
      | execute choice =>
          rcases Pool.execute_cases taken with ⟨_, _, _, _, _, _, _, _, _, _, rfl⟩
          exact Pool.set_worker_other apart
      | push =>
          rcases Pool.push_cases taken with ⟨_, _, _, _, _, rfl⟩
          exact Pool.set_worker_other apart
      | signal =>
          rcases Pool.signal_cases taken with ⟨_, rfl⟩
          exact Pool.set_worker_other apart
      | lose =>
          rcases Pool.lose_cases taken with ⟨_, _, rfl⟩
          exact Pool.set_worker_other apart

inductive Acts (before : Worker) : Act → Worker → Prop where
  | leave : before.phase = .popping → Acts before .pop ⟨before.connection, .exited⟩
  | first (popped : Popped) : before.phase = .popping → before.connection = none →
      Acts before .pop ⟨none, .connecting popped⟩
  | take (popped : Popped) (link : Link) : before.phase = .popping →
      before.connection = some link →
      Acts before .pop ⟨some link, .executing popped (executeJob popped.job)⟩
  | connect (popped : Popped) : before.phase = .connecting popped →
      Acts before (.connect (.ok ())) ⟨some Link.fresh, .executing popped (executeJob popped.job)⟩
  | refused (popped : Popped) (error : StdException) : before.phase = .connecting popped →
      Acts before (.connect (.error error)) ⟨none, .executing popped (.throws error)⟩
  | execute (popped : Popped) (script later : JobScript DbCompletion) (choice : Choice)
      (link link' : Link) : before.phase = .executing popped script →
      before.connection = some link → (link.alive = false → link'.alive = false) →
      Acts before (.execute choice) ⟨some link', .executing popped later⟩
  | push (popped : Popped) (script : JobScript DbCompletion) :
      before.phase = .executing popped script → Acts before .push ⟨before.connection, .signalling⟩
  | signal : before.phase = .signalling → Acts before .signal ⟨before.connection, .popping⟩
  | lose (link : Link) : before.connection = some link →
      Acts before .lose ⟨some ⟨false, none⟩, before.phase⟩

theorem perform_dead {store store' : Store} {link link' : Link} {statement : Statement}
    {choice : Choice} {answer : Answer statement.Row} (dead : link.alive = false)
    (performed : perform mysql index (store, link) statement choice = some (answer, (store', link'))) :
    link'.alive = false := by
  cases choice with
  | goes order =>
      simp only [perform, dead, Bool.false_or, decide_eq_true_eq] at performed
      split_ifs at performed with undone
      subst undone
      cases performed
      exact dead
  | fails stage text =>
      simp only [perform, dead, Bool.false_and, Bool.false_eq_true, if_false] at performed
      split_ifs at performed
      cases performed
      exact dead
  | breaks order count text => simp [perform, dead] at performed
  | loses stage text =>
      simp only [perform] at performed
      split_ifs at performed
      cases performed
      rfl

theorem acts_of {before worker : Worker} {chosen : Act} (own : Acts before chosen worker)
    (same : after.workers index = worker) : Acts before chosen (after.workers index) := by
  rw [same]
  exact own

theorem step_own {chosen : Act} (taken : step mysql pool (.worker index chosen) = some after) :
    Acts (pool.workers index) chosen (after.workers index) := by
  simp only [step] at taken
  split_ifs at taken
  cases chosen with
  | pop =>
      rcases Pool.pop_cases taken with
        ⟨idle, ⟨_, _, rfl⟩ | ⟨job, rest, phase, _, ⟨missing, rfl⟩ | ⟨⟨link, connected⟩, rfl⟩, rfl⟩⟩
      · exact acts_of (Acts.leave idle) Pool.set_worker_same
      · rw [missing]
        exact acts_of (Acts.first _ idle missing) Pool.set_worker_same
      · rw [connected]
        exact acts_of (Acts.take ⟨pool.popped.length, job⟩ link idle connected)
          Pool.set_worker_same
  | connect outcome =>
      rcases Pool.connect_cases taken with ⟨popped, waiting, ⟨rfl, rfl⟩ | ⟨error, rfl, rfl⟩⟩
      · exact acts_of (Acts.connect popped waiting) Pool.set_worker_same
      · exact acts_of (Acts.refused popped error waiting) Pool.set_worker_same
  | execute choice =>
      rcases Pool.execute_cases taken with
        ⟨popped, statement, next, link, answer, store, link', busy, connected, performed, rfl⟩
      exact acts_of (Acts.execute popped _ _ choice link link' busy connected
        fun dead => perform_dead dead performed) Pool.set_worker_same
  | push =>
      rcases Pool.push_cases taken with ⟨popped, script, result, busy, _, rfl⟩
      exact acts_of (Acts.push popped script busy) Pool.set_worker_same
  | signal =>
      rcases Pool.signal_cases taken with ⟨signalling, rfl⟩
      exact acts_of (Acts.signal signalling) Pool.set_worker_same
  | lose =>
      rcases Pool.lose_cases taken with ⟨link, connected, rfl⟩
      exact acts_of (Acts.lose link connected) Pool.set_worker_same

theorem step_worker {label : Label} (taken : step mysql pool label = some after) :
    after.workers index = pool.workers index ∨
      ∃ chosen, label = .worker index chosen ∧
        Acts (pool.workers index) chosen (after.workers index) := by
  by_cases own : ∃ chosen, label = .worker index chosen
  · rcases own with ⟨chosen, rfl⟩
    exact Or.inr ⟨chosen, rfl, step_own taken⟩
  · left
    apply step_other _ taken
    intro chosen same
    exact own ⟨chosen, same⟩

theorem unconnected_step {label : Label} (unconnected : Unconnected pool)
    (taken : step mysql pool label = some after) : Unconnected after := by
  intro index popped waiting
  rcases step_worker taken with same | ⟨chosen, _, acts⟩
  · rw [same] at waiting ⊢
    exact unconnected index popped waiting
  · generalize after.workers index = worker at acts waiting ⊢
    cases acts with
    | first | refused => rfl
    | leave | take | connect | execute | push | signal => cases waiting
    | lose link connected =>
        have missing := unconnected index popped waiting
        rw [connected] at missing
        cases missing

theorem dead_step {label : Label} (unconnected : Unconnected pool)
    (dead : Dead (pool.workers index)) (taken : step mysql pool label = some after) :
    Dead (after.workers index) := by
  rcases step_worker taken with same | ⟨chosen, _, acts⟩
  · rw [same]
    exact dead
  · rcases dead with ⟨link, connected, lost⟩
    have present : ∀ popped, (pool.workers index).phase ≠ .connecting popped := by
      intro popped waiting
      rw [unconnected index popped waiting] at connected
      cases connected
    generalize after.workers index = worker at acts ⊢
    cases acts with
    | leave | push | signal => exact ⟨link, connected, lost⟩
    | first popped idle missing =>
        rw [missing] at connected
        cases connected
    | take popped other idle same => exact ⟨other, rfl, by
        rw [← Option.some.inj (connected.symm.trans same)]
        exact lost⟩
    | connect popped waiting | refused popped error waiting => exact absurd waiting (present popped)
    | execute popped script later choice other link' busy same keeps =>
        refine ⟨link', rfl, keeps ?_⟩
        rw [← Option.some.inj (connected.symm.trans same)]
        exact lost
    | lose => exact ⟨_, rfl, rfl⟩

theorem exited_step {label : Label} (exited : (pool.workers index).phase = .exited)
    (taken : step mysql pool label = some after) : (after.workers index).phase = .exited := by
  rcases step_worker taken with same | ⟨chosen, _, acts⟩
  · rw [same]
    exact exited
  · generalize after.workers index = worker at acts ⊢
    cases acts with
    | leave | lose => first | rfl | exact exited
    | first _ phase | take _ _ phase | connect _ phase | refused _ _ phase
    | execute _ _ _ _ _ _ phase | push _ _ phase | signal phase =>
        rw [exited] at phase
        cases phase

theorem holds_step {label : Label} {popped : Popped} (unpopped : label ≠ .worker index .pop)
    (holds : (pool.workers index).holds = none ∨ (pool.workers index).holds = some popped)
    (taken : step mysql pool label = some after) :
    (after.workers index).holds = none ∨ (after.workers index).holds = some popped := by
  rcases step_worker taken with same | ⟨chosen, here, acts⟩
  · rw [same]
    exact holds
  · generalize after.workers index = worker at acts ⊢
    cases acts with
    | leave | first | take => exact absurd here unpopped
    | connect other phase | refused other _ phase | execute other _ _ _ _ _ phase =>
        rw [Worker.holds, phase] at holds
        exact holds
    | push | signal => exact Or.inl rfl
    | lose => exact holds

theorem unconnected_run {poolSize : Nat} {tables : Tables} {labels : List Label}
    (ran : run (step mysql) (Pool.start poolSize tables) labels = some pool) : Unconnected pool := by
  have initial : Unconnected (Pool.start poolSize tables) := by
    intro index popped waiting
    cases waiting
  exact invariant_of_run initial (fun _ _ _ kept taken => unconnected_step kept taken) ran

theorem dead_run {labels : List Label} (unconnected : Unconnected pool)
    (dead : Dead (pool.workers index)) (ran : run (step mysql) pool labels = some after) :
    Dead (after.workers index) := by
  let kept : Pool → Prop := fun pool => Unconnected pool ∧ Dead (pool.workers index)
  have preserved : ∀ source label next, kept source → step mysql source label = some next →
      kept next := by
    intro source label next both taken
    exact ⟨unconnected_step both.1 taken, dead_step both.1 both.2 taken⟩
  have last : kept after := invariant_of_run ⟨unconnected, dead⟩ preserved ran
  exact last.2

theorem exited_run {labels : List Label} (exited : (pool.workers index).phase = .exited)
    (ran : run (step mysql) pool labels = some after) : (after.workers index).phase = .exited := by
  let gone : Pool → Prop := fun pool => (pool.workers index).phase = .exited
  have preserved : ∀ source label next, gone source → step mysql source label = some next →
      gone next := fun _ _ _ kept taken => exited_step kept taken
  have last : gone after := invariant_of_run exited preserved ran
  exact last

theorem holds_run {labels : List Label} {popped : Popped}
    (unpopped : .worker index .pop ∉ labels) (holds : (pool.workers index).holds = some popped)
    (ran : run (step mysql) pool labels = some after) :
    (after.workers index).holds = none ∨ (after.workers index).holds = some popped := by
  let atMost : Pool → Prop := fun pool =>
    (pool.workers index).holds = none ∨ (pool.workers index).holds = some popped
  let other : Pool → Label → Prop := fun _ label => label ≠ .worker index .pop
  have preserved : ∀ source label next, atMost source → other source label →
      step mysql source label = some next → atMost next :=
    fun _ _ _ kept fine taken => holds_step fine kept taken
  have others : ∀ label ∈ labels, label ≠ .worker index .pop := by
    rintro label listed rfl
    exact unpopped listed
  have met : EveryStep (step mysql) (fun source label _ => other source label) pool labels :=
    every_step_of_labels others
  have last : atMost after := guarded_invariant (Or.inr holds) preserved met ran
  exact last

theorem missed_step {label : Label} {ticket : Nat}
    (misses : missed mysql pool label = some (index, ticket))
    (taken : step mysql pool label = some after) :
    ∃ popped, popped.ticket = ticket ∧ (after.workers index).holds = some popped ∧
      (pool.workers index).holds = some popped ∧ Dead (after.workers index) := by
  cases label with
  | submit | close | join | popCompletion | drainEvents => cases misses
  | worker other chosen =>
      cases chosen with
      | pop | connect | push | signal | lose => cases misses
      | execute choice =>
          simp only [step] at taken
          split_ifs at taken
          rcases Pool.execute_cases taken with
            ⟨popped, statement, next, link, answer, store, link', busy, connected, performed, rfl⟩
          simp only [missed, busy, connected, performed, Option.bind_some] at misses
          split_ifs at misses with lost
          cases misses
          refine ⟨popped, rfl, ?_, by rw [Worker.holds, busy], ?_⟩
          · exact congrArg Worker.holds Pool.set_worker_same
          · have same := @Pool.set_worker_same { pool with store } index
              ⟨some link', .executing popped (next answer)⟩
            exact ⟨link', congrArg Worker.connection same, lost.2⟩

theorem missed_holds {label : Label} {ticket : Nat}
    (misses : missed mysql pool label = some (index, ticket)) :
    ∃ popped, popped.ticket = ticket ∧ (pool.workers index).holds = some popped := by
  cases label with
  | submit | close | join | popCompletion | drainEvents => cases misses
  | worker other chosen =>
      cases chosen with
      | pop | connect | push | signal | lose => cases misses
      | execute choice =>
          simp only [missed] at misses
          split at misses
          · rename_i popped statement next link busy connected
            rcases Option.bind_eq_some_iff.mp misses with ⟨⟨answer, store, later⟩, _, lost⟩
            simp only at lost
            split_ifs at lost
            cases lost
            exact ⟨popped, rfl, by rw [Worker.holds, busy]⟩
          · cases misses

theorem after_failure {poolSize : Nat} {tables : Tables} {before between : List Label}
    {first : Label} {ticket : Nat} {middle : Pool}
    (fails : FailsAt mysql (Pool.start poolSize tables) before first index ticket)
    (ran : run (step mysql) (Pool.start poolSize tables) (before ++ first :: between) = some middle) :
    ∃ failing popped, run (step mysql) failing between = some middle ∧
      run (step mysql) (Pool.start poolSize tables) (before ++ [first]) = some failing ∧
      popped.ticket = ticket ∧ (failing.workers index).holds = some popped ∧
      Dead (failing.workers index) := by
  rcases fails with ⟨source, earlier, misses⟩
  rw [run_append, earlier, Option.bind_some, run] at ran
  rcases Option.bind_eq_some_iff.mp ran with ⟨failing, taken, rest⟩
  rcases missed_step misses taken with ⟨popped, ticket, holds, _, dead⟩
  exact ⟨failing, popped, rest, (run_snoc_eq_some _).mpr ⟨source, earlier, taken⟩, ticket, holds,
    dead⟩

theorem takes_dead {poolSize : Nat} {tables : Tables} {before between : List Label}
    {first : Label} {ticket : Nat} {worker : Worker}
    (fails : FailsAt mysql (Pool.start poolSize tables) before first index ticket)
    (takes : TakesAt mysql (Pool.start poolSize tables) (before ++ first :: between) index worker) :
    Dead worker := by
  rcases takes with ⟨middle, after, ran, taken, rfl, _⟩
  rcases after_failure fails ran with ⟨failing, popped, rest, earlier, _, _, dead⟩
  have unconnected := unconnected_run earlier
  exact dead_step (unconnected_run ran) (dead_run unconnected dead rest) taken

theorem first_pop {between : List Label} {middle : Pool}
    (listed : .worker index .pop ∈ between) (ran : run (step mysql) pool between = some middle) :
    ∃ front back source target, between = front ++ .worker index .pop :: back ∧
      .worker index .pop ∉ front ∧ run (step mysql) pool front = some source ∧
      step mysql source (.worker index .pop) = some target ∧
      ((target.workers index).holds ≠ none ∨ (middle.workers index).phase = .exited) := by
  rcases List.eq_append_cons_of_mem listed with ⟨front, back, rfl, fresh⟩
  rw [run_append] at ran
  rcases Option.bind_eq_some_iff.mp ran with ⟨source, first, ran⟩
  rw [run] at ran
  rcases Option.bind_eq_some_iff.mp ran with ⟨target, taken, rest⟩
  refine ⟨front, back, source, target, rfl, fresh, first, taken, ?_⟩
  have acts := step_own taken
  have left : (target.workers index).holds ≠ none ∨ (target.workers index).phase = .exited := by
    generalize target.workers index = worker at acts ⊢
    cases acts with
    | leave => exact Or.inr rfl
    | first | take => exact Or.inl (Option.some_ne_none _)
  rcases left with takes | exited
  · exact Or.inl takes
  · exact Or.inr (exited_run exited rest)

theorem exited_takes_none {start : Pool} {before : List Label} {worker : Worker} {middle : Pool}
    (ran : run (step mysql) start before = some middle)
    (exited : (middle.workers index).phase = .exited) :
    ¬ TakesAt mysql start before index worker := by
  rintro ⟨source, target, same, taken, _⟩
  obtain rfl := Option.some.inj (ran.symm.trans same)
  have acts := step_own taken
  generalize target.workers index = later at acts
  cases acts with
  | leave idle | first _ idle | take _ _ idle =>
      rw [exited] at idle
      cases idle

/-- A pop somewhere after such a call: the first one takes a job on the lost
connection, or the worker has left by then. -/
theorem later_pop {poolSize : Nat} {tables : Tables} {before between : List Label}
    {first : Label} {ticket : Nat} {middle : Pool}
    (fails : FailsAt mysql (Pool.start poolSize tables) before first index ticket)
    (listed : .worker index .pop ∈ between)
    (ran : run (step mysql) (Pool.start poolSize tables) (before ++ first :: between) = some middle) :
    (∃ front back worker, between = front ++ .worker index .pop :: back ∧
      .worker index .pop ∉ front ∧
      TakesAt mysql (Pool.start poolSize tables) (before ++ first :: front) index worker) ∨
    (middle.workers index).phase = .exited := by
  rcases after_failure fails ran with ⟨failing, popped, rest, earlier, _⟩
  rcases first_pop listed rest with
    ⟨front, back, source, target, rfl, fresh, reached, taken, takes | exited⟩
  · left
    refine ⟨front, back, _, rfl, fresh, source, target, ?_, taken, rfl, takes⟩
    have whole : before ++ first :: front = (before ++ [first]) ++ front := by simp
    rw [whole, run_append, earlier, Option.bind_some]
    exact reached
  · exact Or.inr exited

/-- The connection is kept after a failure, so the next job would meet it. -/
theorem last_jobs_of_recovers {poolSize : Nat} {tables : Tables} {labels : List Label}
    (recovers : Recovers mysql (Pool.start poolSize tables) labels) :
    LastJobs mysql (Pool.start poolSize tables) labels := by
  have never : ∀ before first between after index ticket worker,
      labels = before ++ first :: between ++ .worker index .pop :: after →
      FailsAt mysql (Pool.start poolSize tables) before first index ticket →
      .worker index .pop ∉ between →
      ¬ TakesAt mysql (Pool.start poolSize tables) (before ++ first :: between) index worker := by
    intro before first between after index ticket worker split fails fresh takes
    rcases takes_dead fails takes with ⟨link, connected, lost⟩
    have alive := recovers.next before first between after index ticket worker split fails fresh
      takes link connected
    rw [lost] at alive
    cases alive
  intro before first between after index ticket worker split fails takes
  by_cases listed : .worker index .pop ∈ between
  · rcases takes with ⟨middle, target, ran, taken⟩
    rcases later_pop fails listed ran with ⟨front, back, early, rfl, fresh, takes⟩ | exited
    · refine never before first front (back ++ .worker index .pop :: after) index ticket early ?_
        fails fresh takes
      rw [split]
      simp
    · exact exited_takes_none ran exited ⟨middle, target, ran, taken⟩
  · exact never before first between after index ticket worker split fails listed takes

/-- A worker without a job after the failed one has no second failure. -/
theorem recovers_of_last_jobs {poolSize : Nat} {tables : Tables} {labels : List Label}
    (last : LastJobs mysql (Pool.start poolSize tables) labels) :
    Recovers mysql (Pool.start poolSize tables) labels where
  once := by
    intro before first between second after index one two split fails again different
    exfalso
    rcases again with ⟨middle, ran, misses⟩
    rcases missed_holds misses with ⟨later, rfl, busy⟩
    by_cases listed : .worker index .pop ∈ between
    · rcases later_pop fails listed ran with ⟨front, back, worker, rfl, _, takes⟩ | exited
      · refine last before first front (back ++ second :: after) index one worker ?_ fails takes
        rw [split]
        simp
      · rw [Worker.holds, exited] at busy
        cases busy
    · rcases after_failure fails ran with ⟨failing, popped, rest, _, rfl, holds, _⟩
      rcases holds_run listed holds rest with none | same
      · rw [busy] at none
        cases none
      · rw [busy] at same
        cases same
        exact different rfl
  next := by
    intro before first between after index ticket worker split fails _ takes
    exact absurd takes (last before first between after index ticket worker split fails)

/-- The workers recover from lost connections exactly in the runs in which no
worker pops another job after one that failed for lack of a connection. -/
theorem recovers_iff_last_jobs (mysql : Mysql) (poolSize : Nat) (tables : Tables)
    (labels : List Label) :
    Recovers mysql (Pool.start poolSize tables) labels ↔
      LastJobs mysql (Pool.start poolSize tables) labels :=
  ⟨last_jobs_of_recovers, recovers_of_last_jobs⟩

/-- One registration, then the connection times out, then a login that meets the
lost connection. -/
def timeout : List Label :=
  [.submit registerAda, .submit loginAda, .submit loginAda,
    .worker 0 .pop, .worker 0 (.connect (.ok ())), .worker 0 (.execute (.goes .asStored)),
    .worker 0 .push, .worker 0 .signal, .worker 0 .lose, .worker 0 .pop]

def goneAway : Label := .worker 0 (.execute (.fails .init (ascii "server has gone away")))

def secondFailure : List Label := [.worker 0 .push, .worker 0 .signal]

theorem lost_connection_kept :
    ∃ pool labels, run (step Mysql.binary) (Pool.start 1 Tables.empty) labels = some pool ∧
      (∀ label ∈ labels, Accepting label) ∧
      (pool.pushed.map fun entry => entry.2.2.ok) = [true, false, false] ∧
      ¬ Recovers Mysql.binary (Pool.start 1 Tables.empty) labels := by
  refine ⟨_, timeout ++ goneAway :: secondFailure ++
    .worker 0 .pop :: [goneAway, .worker 0 .push], rfl, by decide, by decide, ?_⟩
  intro recovers
  have alive := recovers.next timeout goneAway secondFailure _ 0 1 _ rfl ⟨_, rfl, rfl⟩
    (by simp [secondFailure])
    ⟨_, _, rfl, rfl, rfl, nofun⟩ _ rfl
  cases alive

end DungeonPortfolio.Reconnects
