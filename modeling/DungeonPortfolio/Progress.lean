import DungeonPortfolio.Library.Progress
import DungeonPortfolio.Locks
import Mathlib.Algebra.Order.BigOperators.Group.Finset

/-!
# The workers get done

A job makes five calls at most, so the workers can only take so many steps before
they wait for the queue; and until they do, one of them can go on, since whoever
waits for a row waits for a worker that does not.
-/

namespace DungeonPortfolio.Progress

open DungeonPortfolio.Text DungeonPortfolio.Dispatcher DungeonPortfolio.Schema
open DungeonPortfolio.Statements DungeonPortfolio.Connection DungeonPortfolio.Workers
open DungeonPortfolio.ExactlyOnce DungeonPortfolio.Linearized DungeonPortfolio.Locks
open Library Library.Execution Library.Progress

set_option autoImplicit false

theorem within_executed (statement : Statement) : (executed statement).Within 1 := by
  intro answer
  cases answer with
  | failed stage text => exact Script.within_throws _ 0
  | duplicate text => exact Script.within_throws _ 0
  | fetched rows broken => exact Script.within_done _ 0

theorem within_exec (statement : Statement) : (exec statement).Within 1 :=
  Script.within_bind (within_executed statement) fun _ => Script.within_done () 0

theorem within_execute_prepared (statement : Statement) : (executePrepared statement).Within 1 :=
  within_exec statement

theorem within_computed {Value Result : Type} {script : JobScript Value}
    {next : Value → JobScript Result} {count : Nat} (silent : script.Within 0)
    (rest : ∀ value, (next value).Within count) : (script >>= next).Within count := by
  have both := Script.within_bind silent rest
  rw [Nat.zero_add] at both
  exact both

theorem within_convert {Value Result : Type} {result : Except StdException Value}
    {next : Value → JobScript Result} {count : Nat} (rest : ∀ value, (next value).Within count) :
    (convert result >>= next).Within count :=
  within_computed (Script.within_lift result 0) rest

theorem within_fetch_one {Row : Type} (account : Bytes) (fetched : List Row × Option Bytes) :
    (fetchOne account fetched).Within 0 := by
  rcases fetched with ⟨_ | ⟨row, rest⟩, _ | text⟩ <;> trivial

theorem within_lookup {statement : Statement} (account : Bytes) :
    (executed statement >>= fetchOne account).Within 1 :=
  Script.within_bind (within_executed statement) (within_fetch_one account)

theorem within_rolled_back {Value : Type} (fault : StdException) :
    (rollbackNoexcept >>= fun _ => .throws fault : JobScript Value).Within 1 :=
  fun _ => Script.within_throws fault 0

theorem within_transaction {Value : Type} {body : JobScript Value} {count : Nat}
    (inside : body.Within count) : (transaction body).Within (count + 3) := by
  have commits : (body >>= fun value => exec .commit >>= fun _ => pure value :
      JobScript Value).Within (count + 1) :=
    Script.within_bind inside fun value =>
      Script.within_bind (within_exec .commit) fun _ => Script.within_done value 0
  have handled := Script.within_rescue commits within_rolled_back
  have whole := Script.within_bind (within_exec .begin) fun _ => handled
  exact Script.within_more whole (by omega)

theorem within_saving {account : Bytes} {change : Nat → JobScript Unit} {completion : DbCompletion}
    (writes : ∀ row, (change row).Within 1) :
    (transaction (selectPlayerIdForUpdate account >>= change) >>= fun _ => pure completion :
      JobScript DbCompletion).Within 5 := by
  have body : (selectPlayerIdForUpdate account >>= change).Within 2 :=
    Script.within_bind (within_lookup account : (selectPlayerIdForUpdate account).Within 1) writes
  exact Script.within_bind (within_transaction body) fun _ => Script.within_done completion 0

theorem within_last {Value Result : Type} {first : JobScript Value} {next : Value → JobScript Result}
    (one : first.Within 1) (silent : ∀ value, (next value).Within 0) : (first >>= next).Within 1 :=
  Script.within_bind one silent

theorem within_two {Row : Type} {first : JobScript Row} {next : Row → JobScript DbCompletion}
    (one : first.Within 1) (other : ∀ row, (next row).Within 1) : (first >>= next).Within 5 :=
  Script.within_more (Script.within_bind one other) (by omega)

theorem job_within (job : DbJob) : (executeJob job).Within 5 := by
  unfold executeJob
  cases job.operation with
  | registerPlayer =>
      apply within_convert
      intro account
      apply within_convert
      intro displayName answer
      cases answer <;> trivial
  | loginPlayer =>
      apply within_convert
      intro account
      refine within_two (within_executed _) fun rows => ?_
      refine within_computed (within_fetch_one account rows) ?_
      rintro ⟨id, displayName⟩
      simp only
      split_ifs
      · exact Script.within_throws _ 1
      · exact Script.within_bind (within_execute_prepared _) fun _ => Script.within_done _ 0
  | saveCharacter | savePosition =>
      apply within_convert
      intro account
      apply within_convert
      intro character
      apply within_convert
      intro third
      apply within_convert
      intro fourth
      exact within_saving fun row => within_execute_prepared _
  | saveInventoryItem =>
      apply within_convert
      intro account
      apply within_convert
      intro slot
      apply within_convert
      intro itemId
      apply within_convert
      intro count
      refine within_saving fun row => ?_
      split_ifs <;> exact within_execute_prepared _
  | loadCharacters =>
      apply within_convert
      intro account
      refine within_two (within_lookup account) fun _ => ?_
      refine within_last (within_executed _) ?_
      rintro ⟨rows, broken⟩
      exact within_computed (fetch_characters_silent account rows broken)
        fun _ => Script.within_done _ 0
  | loadInventory =>
      apply within_convert
      intro account
      refine within_two (within_lookup account) fun _ => ?_
      refine within_last (within_executed _) ?_
      rintro ⟨rows, broken⟩
      exact within_computed (fetch_items_silent rows broken) fun _ => Script.within_done _ 0

/-- How many steps a worker takes before it asks for the next job, and one to ask. -/
def Takes : Phase → Nat → Prop
  | .popping, count => count = 1
  | .connecting _, count => count = 9
  | .executing _ script, count => ∃ calls ≤ 5, script.Within calls ∧ count = calls + 3
  | .signalling, count => count = 2
  | .exited, count => count = 0

theorem takes_le {phase : Phase} {count : Nat} (takes : Takes phase count) : count ≤ 9 := by
  cases phase with
  | popping | connecting | signalling | exited =>
      simp only [Takes] at takes
      omega
  | executing popped script =>
      rcases takes with ⟨calls, few, _, rfl⟩
      omega

/-- Nine steps for a job in the queue, and what the workers still take. -/
def Left (pool : Pool) (count : Nat) : Prop :=
  ∃ each : Nat → Nat, (∀ index < pool.poolSize, Takes (pool.workers index).phase (each index)) ∧
    count = 9 * pool.jobs.items.length + ∑ index ∈ Finset.range pool.poolSize, each index

theorem left_le {pool : Pool} {count : Nat} (left : Left pool count) :
    count ≤ 9 * (pool.jobs.items.length + pool.poolSize) := by
  rcases left with ⟨each, takes, rfl⟩
  have most : ∑ index ∈ Finset.range pool.poolSize, each index ≤ pool.poolSize * 9 := by
    have bound := Finset.sum_le_card_nsmul (Finset.range pool.poolSize) each 9 fun index listed =>
      takes_le (takes index (Finset.mem_range.mp listed))
    simpa using bound
  omega

theorem left_start (poolSize : Nat) (tables : Tables) :
    Left (Pool.start poolSize tables) poolSize := by
  refine ⟨fun _ => 1, fun _ _ => rfl, ?_⟩
  simp [Pool.start]

def Work : Workers.Label → Bool
  | .worker _ .lose => false
  | .worker _ _ => true
  | _ => false

def worked (label : Workers.Label) : Nat := (Work label).toNat

def brought : Workers.Label → Nat
  | .submit _ => 9
  | _ => 0

variable {mysql : Mysql} {pool after : Pool} {index before : Nat}

theorem left_worker (taken spent : Nat) (phase : Phase) (left : Left pool before)
    (bound : index < pool.poolSize) (size : after.poolSize = pool.poolSize)
    (queue : pool.jobs.items.length = after.jobs.items.length + taken)
    (mine : (after.workers index).phase = phase)
    (others : ∀ other, other ≠ index → after.workers other = pool.workers other)
    (goes : ∀ count, Takes (pool.workers index).phase count →
      ∃ later, Takes phase later ∧ later + spent ≤ count + 9 * taken) :
    ∃ later, Left after later ∧ later + spent ≤ before := by
  rcases left with ⟨each, takes, rfl⟩
  rcases goes (each index) (takes index bound) with ⟨later, reaches, paid⟩
  have split : ∀ counts : Nat → Nat, ∑ other ∈ Finset.range pool.poolSize, counts other =
      counts index + ∑ other ∈ (Finset.range pool.poolSize).erase index, counts other := by
    intro counts
    exact (Finset.add_sum_erase _ counts (Finset.mem_range.mpr bound)).symm
  have rest : ∑ other ∈ (Finset.range pool.poolSize).erase index,
      Function.update each index later other =
        ∑ other ∈ (Finset.range pool.poolSize).erase index, each other := by
    apply Finset.sum_congr rfl
    intro other listed
    exact Function.update_of_ne (Finset.ne_of_mem_erase listed) _ _
  refine ⟨_, ⟨Function.update each index later, ?_, rfl⟩, ?_⟩
  · intro other inside
    by_cases here : other = index
    · rw [here, mine, Function.update_self]
      exact reaches
    · rw [others other here, Function.update_of_ne here]
      exact takes other (size ▸ inside)
  · rw [size, split, rest, Function.update_self, split each]
    omega

theorem left_pop (left : Left pool before) (bound : index < pool.poolSize)
    (taken : pool.pop index = some after) : ∃ later, Left after later ∧ later + 1 ≤ before := by
  rcases Pool.pop_cases taken with ⟨idle, ⟨_, _, rfl⟩ | ⟨job, rest, phase, items, starts, rfl⟩⟩
  · refine left_worker 0 1 .exited left bound rfl rfl ?_ ?_ ?_
    · exact congrArg Worker.phase Pool.set_worker_same
    · exact fun other apart => Pool.set_worker_other apart
    · intro count takes
      rw [idle] at takes
      obtain rfl : count = 1 := takes
      exact ⟨0, rfl, Nat.le_refl _⟩
  · refine left_worker 1 1 phase left bound rfl ?_ ?_ ?_ ?_
    · rw [items]
      rfl
    · exact congrArg Worker.phase Pool.set_worker_same
    · exact fun other apart => Pool.set_worker_other apart
    · intro count takes
      rw [idle] at takes
      obtain rfl : count = 1 := takes
      rcases starts with ⟨_, rfl⟩ | ⟨_, rfl⟩
      · exact ⟨9, rfl, by omega⟩
      · exact ⟨8, ⟨5, Nat.le_refl 5, job_within job, rfl⟩, by omega⟩

theorem left_act {chosen : Act} (left : Left pool before) (bound : index < pool.poolSize)
    (taken : act mysql pool index chosen = some after) :
    ∃ later, Left after later ∧ later + worked (.worker index chosen) ≤ before := by
  cases chosen with
  | pop => exact left_pop left bound taken
  | connect outcome =>
      rcases Pool.connect_cases taken with ⟨popped, waiting, ⟨_, rfl⟩ | ⟨error, _, rfl⟩⟩
      · refine left_worker 0 1 (.executing popped (executeJob popped.job)) left bound rfl rfl ?_ ?_ ?_
        · exact congrArg Worker.phase Pool.set_worker_same
        · exact fun other apart => Pool.set_worker_other apart
        · intro count takes
          rw [waiting] at takes
          obtain rfl : count = 9 := takes
          exact ⟨8, ⟨5, Nat.le_refl 5, job_within popped.job, rfl⟩, by omega⟩
      · refine left_worker 0 1 (.executing popped (.throws error)) left bound rfl rfl ?_ ?_ ?_
        · exact congrArg Worker.phase Pool.set_worker_same
        · exact fun other apart => Pool.set_worker_other apart
        · intro count takes
          rw [waiting] at takes
          obtain rfl : count = 9 := takes
          exact ⟨3, ⟨0, Nat.zero_le 5, trivial, rfl⟩, by omega⟩
  | execute choice =>
      rcases Pool.execute_cases taken with
        ⟨popped, statement, next, link, answer, store, later, busy, _, _, rfl⟩
      refine left_worker 0 1 (.executing popped (next answer)) left bound rfl rfl ?_ ?_ ?_
      · exact congrArg Worker.phase Pool.set_worker_same
      · exact fun other apart => Pool.set_worker_other apart
      · intro count takes
        rw [busy] at takes
        rcases takes with ⟨calls, few, within, rfl⟩
        cases calls with
        | zero => cases within
        | succ calls => exact ⟨calls + 3, ⟨calls, by omega, within answer, rfl⟩, by omega⟩
  | push =>
      rcases Pool.push_cases taken with ⟨popped, script, result, busy, _, rfl⟩
      refine left_worker 0 1 .signalling left bound rfl rfl ?_ ?_ ?_
      · exact congrArg Worker.phase Pool.set_worker_same
      · exact fun other apart => Pool.set_worker_other apart
      · intro count takes
        rw [busy] at takes
        rcases takes with ⟨calls, _, _, rfl⟩
        exact ⟨2, rfl, by omega⟩
  | signal =>
      rcases Pool.signal_cases taken with ⟨owing, rfl⟩
      refine left_worker 0 1 .popping left bound rfl rfl ?_ ?_ ?_
      · exact congrArg Worker.phase Pool.set_worker_same
      · exact fun other apart => Pool.set_worker_other apart
      · intro count takes
        rw [owing] at takes
        obtain rfl : count = 2 := takes
        exact ⟨1, rfl, Nat.le_refl _⟩
  | lose =>
      rcases Pool.lose_cases taken with ⟨link, _, rfl⟩
      refine left_worker 0 0 (pool.workers index).phase left bound rfl rfl ?_ ?_ ?_
      · rw [Pool.set_worker_same]
      · exact fun other apart => Pool.set_worker_other apart
      · exact fun count takes => ⟨count, takes, Nat.le_refl _⟩

theorem left_same (left : Left pool before) (size : after.poolSize = pool.poolSize)
    (workers : after.workers = pool.workers) (jobs : after.jobs.items = pool.jobs.items) :
    Left after before := by
  rcases left with ⟨each, takes, counted⟩
  refine ⟨each, ?_, ?_⟩
  · rw [size, workers]
    exact takes
  · rw [size, jobs]
    exact counted

/-- The workers pay for their steps out of what they have been brought. -/
theorem left_pays (mysql : Mysql) : Pays (step mysql) Left worked brought := by
  intro pool label after before left taken
  cases label with
  | submit job =>
      cases taken
      rcases left with ⟨each, takes, rfl⟩
      refine ⟨_, ⟨each, takes, rfl⟩, ?_⟩
      have queue : (pool.submit job).jobs.items.length ≤ pool.jobs.items.length + 1 := by
        change (pool.jobs.push job).items.length ≤ _
        unfold BlockingQueue.push
        split_ifs
        · exact Nat.le_succ _
        · exact Nat.le_of_eq List.length_append
      have same : (pool.submit job).poolSize = pool.poolSize := rfl
      have free : worked (.submit job) = 0 := rfl
      have nine : brought (.submit job) = 9 := rfl
      rw [same, free, nine]
      omega
  | close | drainEvents =>
      cases taken
      exact ⟨before, left_same left rfl rfl rfl, Nat.le_refl _⟩
  | join =>
      rcases Pool.join_cases taken with ⟨_, rfl⟩
      exact ⟨before, left_same left rfl rfl rfl, Nat.le_refl _⟩
  | popCompletion =>
      cases taken
      refine ⟨before, ?_, Nat.le_refl _⟩
      unfold Pool.popCompletion
      cases pool.completions with
      | nil => exact left
      | cons completion rest => exact left_same left rfl rfl rfl
  | worker index chosen =>
      simp only [step] at taken
      split_ifs at taken with bound
      exact left_act left bound taken

/-- What a statement does next: it is executed, or it fails at once on a lost
connection. -/
def attempt (statement : Statement) (connection : Option Link) : Choice :=
  if connection.any Link.alive then .goes .asStored
  else match statement.stages with
    | [] => .goes .asStored
    | stage :: _ => .fails stage (ascii "MySQL server has gone away")

/-- The next step of a worker when no call fails but for a lost connection. -/
def proceed (worker : Worker) : Act :=
  match worker.phase with
  | .popping => .pop
  | .connecting _ => .connect (.ok ())
  | .executing _ (.call statement _) => .execute (attempt statement worker.connection)
  | .executing _ _ => .push
  | .signalling | .exited => .signal

def canProceed (mysql : Mysql) (pool : Pool) (index : Nat) : Bool :=
  (act mysql pool index (proceed (pool.workers index))).isSome

def Resting (pool : Pool) (index : Nat) : Prop :=
  (pool.workers index).phase = .exited ∨
    ((pool.workers index).phase = .popping ∧ pool.jobs.items = [] ∧ pool.jobs.closed = false)

def Linked (pool : Pool) : Prop :=
  ∀ index popped statement next,
    (pool.workers index).phase = .executing popped (.call statement next) →
      ∃ link, (pool.workers index).connection = some link

theorem linked_worker {worker : Worker} (linked : Linked pool)
    (mine : ∀ popped statement next, worker.phase = .executing popped (.call statement next) →
      ∃ link, worker.connection = some link) : Linked (pool.setWorker index worker) := by
  intro other popped statement next busy
  by_cases here : other = index
  · rw [here, Pool.set_worker_same] at busy ⊢
    exact mine popped statement next busy
  · rw [Pool.set_worker_other here] at busy ⊢
    exact linked other popped statement next busy

theorem linked_quiet {worker : Worker} (linked : Linked pool)
    (quiet : ∀ popped statement next, worker.phase ≠ .executing popped (.call statement next)) :
    Linked (pool.setWorker index worker) :=
  linked_worker linked fun popped statement next busy =>
    absurd busy (quiet popped statement next)

theorem linked_step {label : Workers.Label} (linked : Linked pool)
    (taken : step mysql pool label = some after) : Linked after := by
  cases label with
  | submit job | close | drainEvents =>
      cases taken
      exact linked
  | join =>
      rcases Pool.join_cases taken with ⟨_, rfl⟩
      exact linked
  | popCompletion =>
      cases taken
      unfold Pool.popCompletion
      cases pool.completions with
      | nil => exact linked
      | cons completion rest => exact linked
  | worker index chosen =>
      simp only [step] at taken
      split_ifs at taken
      cases chosen with
      | pop =>
          rcases Pool.pop_cases taken with ⟨_, ⟨_, _, rfl⟩ | ⟨job, rest, phase, _, starts, rfl⟩⟩
          · refine linked_quiet linked ?_
            intro popped statement next same
            cases same
          · refine linked_worker linked ?_
            rcases starts with ⟨_, rfl⟩ | ⟨connected, _⟩
            · intro popped statement next busy
              cases busy
            · exact fun _ _ _ _ => connected
      | connect outcome =>
          rcases Pool.connect_cases taken with ⟨popped, _, ⟨_, rfl⟩ | ⟨error, _, rfl⟩⟩
          · exact linked_worker linked fun _ _ _ _ => ⟨_, rfl⟩
          · refine linked_quiet linked ?_
            intro popped statement next same
            cases same
      | execute choice =>
          rcases Pool.execute_cases taken with
            ⟨popped, statement, next, link, answer, store, later, _, _, _, rfl⟩
          exact linked_worker linked fun _ _ _ _ => ⟨_, rfl⟩
      | push =>
          rcases Pool.push_cases taken with ⟨popped, script, result, _, _, rfl⟩
          refine linked_quiet linked ?_
          intro popped statement next same
          cases same
      | signal =>
          rcases Pool.signal_cases taken with ⟨_, rfl⟩
          refine linked_quiet linked ?_
          intro popped statement next same
          cases same
      | lose =>
          rcases Pool.lose_cases taken with ⟨link, _, rfl⟩
          exact linked_worker linked fun _ _ _ _ => ⟨_, rfl⟩

theorem linked_start (poolSize : Nat) (tables : Tables) : Linked (Pool.start poolSize tables) := by
  intro index popped statement next busy
  cases busy

theorem waits_for_owner {order : RowOrder} {store : Store} {link : Link} {statement : Statement}
    (waits : effect mysql index order store link statement = none) :
    ∃ owner row, owner ≠ index ∧ (owner, row) ∈ store.locks := by
  have owned : ∀ row, store.lockedByOther index row = true →
      ∃ owner row, owner ≠ index ∧ (owner, row) ∈ store.locks := by
    intro row locked
    rcases List.any_eq_true.mp locked with ⟨⟨owner, held⟩, listed, apart⟩
    exact ⟨owner, held, by simpa using (Bool.and_eq_true_iff.mp apart).1, listed⟩
  have writes : ∀ playerId name change,
      writeRow mysql index store link playerId name change = none →
        ∃ owner row, owner ≠ index ∧ (owner, row) ∈ store.locks := by
    intro playerId name change blocked
    unfold writeRow at blocked
    split_ifs at blocked with _ _ locked
    exact owned playerId locked
  cases statement with
  | begin | commit | rollback | selectPlayer | selectPlayerId | selectCharacters | deleteItem
  | selectItems => cases waits
  | insertPlayer account displayName =>
      simp only [effect] at waits
      split_ifs at waits
      split at waits
      · cases waits
      · split_ifs at waits with locked
        exact owned _ locked
  | touchLogin id =>
      simp only [effect] at waits
      split_ifs at waits with locked
      exact owned id locked
  | selectPlayerIdForUpdate account =>
      simp only [effect] at waits
      split at waits
      · cases waits
      · split_ifs at waits with locked
        exact owned _ locked
  | upsertCharacter | upsertPosition | upsertItem => exact writes _ _ _ waits

/-- The owner of a row has no statement left that would have to wait. -/
theorem owner_goes {order : RowOrder} {store : Store} {link : Link} {statement : Statement}
    {row : Nat} (exclusive : Exclusive store) (mine : (index, row) ∈ store.locks)
    (fits : Fits statement (.locking (some row))) :
    (effect mysql index order store link statement).isSome = true := by
  have free : store.lockedByOther index row = false := by
    apply List.any_eq_false.mpr
    rintro ⟨owner, held⟩ listed both
    rcases Bool.and_eq_true_iff.mp both with ⟨apart, same⟩
    obtain rfl : held = row := by simpa using same
    have one := exclusive owner index held listed mine
    simp [one] at apart
  have writes : ∀ name change, (writeRow mysql index store link row name change).isSome = true := by
    intro name change
    unfold writeRow
    rw [free]
    split_ifs <;> first | rfl | contradiction
  cases statement with
  | commit | rollback | deleteItem => rfl
  | upsertCharacter | upsertPosition | upsertItem =>
      cases fits
      exact writes _ _
  | begin | insertPlayer | selectPlayer | touchLogin | selectPlayerId | selectPlayerIdForUpdate
  | selectCharacters | selectItems => cases fits

structure Working (pool : Pool) : Prop where
  accounted : Accounted pool
  disciplined : Disciplined pool
  linked : Linked pool

theorem working_start (poolSize : Nat) (tables : Tables) : Working (Pool.start poolSize tables) :=
  ⟨accounted_start poolSize tables, disciplined_start poolSize tables,
    linked_start poolSize tables⟩

theorem working_step {label : Workers.Label} (working : Working pool)
    (taken : step mysql pool label = some after) : Working after :=
  ⟨accounted_step working.accounted taken, disciplined_step working.disciplined taken,
    linked_step working.linked taken⟩

theorem working_run {poolSize : Nat} {tables : Tables} {labels : List Workers.Label}
    (ran : run (step mysql) (Pool.start poolSize tables) labels = some pool) : Working pool :=
  invariant_of_run (working_start poolSize tables)
    (fun _ _ _ working taken => working_step working taken) ran

theorem proceeds {chosen : Act} (here : proceed (pool.workers index) = chosen)
    (goes : (act mysql pool index chosen).isSome = true) : canProceed mysql pool index = true := by
  unfold canProceed
  rw [here]
  exact goes

theorem call_proceeds {popped : Popped} {statement : Statement}
    {next : Answer statement.Row → JobScript DbCompletion} {link : Link}
    (busy : (pool.workers index).phase = .executing popped (.call statement next))
    (connected : (pool.workers index).connection = some link)
    (free : (effect mysql index .asStored pool.store link statement).isSome = true) :
    canProceed mysql pool index = true := by
  have here : proceed (pool.workers index) = .execute (attempt statement (some link)) := by
    unfold proceed
    rw [busy, connected]
  apply proceeds here
  have performed : (perform mysql index (pool.store, link) statement
      (attempt statement (some link))).isSome = true := by
    cases alive : link.alive with
    | true => simpa [attempt, alive, perform] using free
    | false =>
        cases stages : statement.stages with
        | nil =>
            have rollback : statement = .rollback := by
              cases statement <;> first | rfl | cases stages
            subst rollback
            simp [attempt, alive, Statement.stages, perform, effect]
        | cons stage rest => simp [attempt, alive, stages, perform]
  change (pool.execute mysql index _).isSome = true
  unfold Pool.execute
  rw [busy, connected]
  simpa using performed

theorem owner_proceeds {row : Nat} (working : Working pool)
    (owns : (index, row) ∈ pool.store.locks) :
    index < pool.poolSize ∧ canProceed mysql pool index = true := by
  rcases working.disciplined.mindful index with ⟨grip, gripped, keeps⟩
  obtain rfl := gripped.rows row owns
  cases busy : (pool.workers index).phase with
  | popping | connecting | signalling | exited =>
      rw [busy] at keeps
      cases keeps
  | executing popped script =>
      rw [busy] at keeps
      have holds : (pool.workers index).holds = some popped := by
        unfold Worker.holds
        rw [busy]
      have listed := (working.accounted.held index popped holds).1
      refine ⟨working.accounted.bounded _ listed, ?_⟩
      cases script with
      | done value => cases keeps
      | throws error => cases keeps
      | call statement next =>
          rcases working.linked index popped statement next busy with ⟨link, connected⟩
          exact call_proceeds busy connected
            (owner_goes working.disciplined.exclusive owns keeps.1)

/-- While somebody has work, somebody can go on. -/
theorem somebody_proceeds (mysql : Mysql) (working : Working pool) (bound : index < pool.poolSize)
    (busy : ¬Resting pool index) :
    ∃ other < pool.poolSize, canProceed mysql pool other = true := by
  cases phase : (pool.workers index).phase with
  | exited => exact absurd (Or.inl phase) busy
  | popping =>
      have here : proceed (pool.workers index) = .pop := by
        unfold proceed
        rw [phase]
      refine ⟨index, bound, proceeds here ?_⟩
      change (pool.pop index).isSome = true
      unfold Pool.pop BlockingQueue.pop
      rw [phase]
      cases items : pool.jobs.items with
      | cons job rest => rfl
      | nil =>
          cases closed : pool.jobs.closed with
          | true => rfl
          | false => exact absurd (Or.inr ⟨phase, items, closed⟩) busy
  | connecting popped =>
      have here : proceed (pool.workers index) = .connect (.ok ()) := by
        unfold proceed
        rw [phase]
      refine ⟨index, bound, proceeds here ?_⟩
      change (pool.connect index (.ok ())).isSome = true
      unfold Pool.connect
      rw [phase]
      rfl
  | signalling =>
      have here : proceed (pool.workers index) = .signal := by
        unfold proceed
        rw [phase]
      refine ⟨index, bound, proceeds here ?_⟩
      change (pool.signal index).isSome = true
      unfold Pool.signal
      rw [phase]
      rfl
  | executing popped script =>
      cases script with
      | done value | throws error =>
          have here : proceed (pool.workers index) = .push := by
            unfold proceed
            rw [phase]
          refine ⟨index, bound, proceeds here ?_⟩
          change (pool.push index).isSome = true
          unfold Pool.push
          rw [phase]
          rfl
      | call statement next =>
          rcases working.linked index popped statement next phase with ⟨link, connected⟩
          cases waits : effect mysql index .asStored pool.store link statement with
          | some outcome =>
              refine ⟨index, bound, call_proceeds phase connected ?_⟩
              rw [waits]
              rfl
          | none =>
              rcases waits_for_owner waits with ⟨owner, row, _, owns⟩
              exact ⟨owner, owner_proceeds working owns⟩

def AtRest (pool : Pool) : Prop := ∀ index < pool.poolSize, Resting pool index

/-- Nothing is left to do, and `stop()` finds every thread at its end. -/
structure Done (pool : Pool) : Prop where
  completed : AllCompleted pool
  queue : pool.jobs.items = []
  told : ∀ index < pool.poolSize, (pool.workers index).phase ≠ .signalling
  joins : pool.jobs.closed = true → pool.join.isSome = true

theorem holds_of_rest (rest : AtRest pool) (bound : index < pool.poolSize) :
    (pool.workers index).holds = none := by
  unfold Worker.holds
  rcases rest index bound with exited | ⟨popping, _⟩
  · rw [exited]
  · rw [popping]

theorem done_of_rest (working : Working pool) (positive : 0 < pool.poolSize) (rest : AtRest pool) :
    Done pool := by
  have accounted := working.accounted
  have empty : pool.jobs.items = [] := by
    rcases rest 0 positive with exited | ⟨_, empty, _⟩
    · exact (accounted.gone 0 exited).2
    · exact empty
  refine ⟨?_, empty, ?_, ?_⟩
  · rintro ⟨ticket, job⟩ listed
    have jobs := accounted.queue
    rw [empty, List.append_nil] at jobs
    have count : pool.popped.length = pool.accepted.length := by
      simpa using congrArg List.length jobs
    have number : ticket ∈ List.range pool.accepted.length := by
      rw [← accounted.numbered]
      exact List.mem_map.mpr ⟨_, listed, rfl⟩
    rw [← count, ← accounted.tickets] at number
    rcases List.mem_map.mp number with ⟨⟨index, popped⟩, taken, rfl⟩
    rcases accounted.every index popped taken with ⟨completion, pushed⟩ | held
    · exact ⟨index, completion, pushed⟩
    · rw [holds_of_rest rest (accounted.bounded _ taken)] at held
      cases held
  · intro index bound signalling
    rcases rest index bound with exited | ⟨popping, _⟩
    · rw [exited] at signalling
      cases signalling
    · rw [popping] at signalling
      cases signalling
  · intro closed
    have all : ∀ index < pool.poolSize, (pool.workers index).phase = .exited := by
      intro index bound
      rcases rest index bound with exited | ⟨_, _, opened⟩
      · exact exited
      · rw [closed] at opened
        cases opened
    unfold Pool.join
    rw [if_pos ⟨closed, fun index bound => by rw [all index bound]⟩]
    rfl

def Proceeds (pool : Pool) (label : Workers.Label) : Prop :=
  ∃ index < pool.poolSize, label = .worker index (proceed (pool.workers index))

theorem work_of_proceed (worker : Worker) : Work (.worker index (proceed worker)) = true := by
  unfold proceed
  cases worker.phase with
  | popping | connecting | signalling | exited => rfl
  | executing popped script => cases script <;> rfl

theorem proceeding_drops (mysql : Mysql) (pool : Pool) (label : Workers.Label) (after : Pool)
    (before : Nat) (_ : Working pool) (proceeds : Proceeds pool label) (left : Left pool before)
    (taken : step mysql pool label = some after) : ∃ less < before, Left after less := by
  rcases proceeds with ⟨index, _, rfl⟩
  rcases left_pays mysql pool _ after before left taken with ⟨less, smaller, paid⟩
  have one : worked (.worker index (proceed (pool.workers index))) = 1 := by
    unfold worked
    rw [work_of_proceed]
    rfl
  have nothing : brought (.worker index (proceed (pool.workers index))) = 0 := rfl
  exact ⟨less, by omega, smaller⟩

theorem moves_of_working (mysql : Mysql) (pool : Pool) (working : Working pool) (busy : ¬AtRest pool) :
    ∃ label next, Proceeds pool label ∧ step mysql pool label = some next := by
  have some_busy : ∃ index < pool.poolSize, ¬Resting pool index := by
    by_contra none_busy
    exact busy fun index bound => by_contra fun here => none_busy ⟨index, bound, here⟩
  rcases some_busy with ⟨index, bound, here⟩
  rcases somebody_proceeds mysql working bound here with ⟨other, inside, goes⟩
  rcases Option.isSome_iff_exists.mp goes with ⟨next, taken⟩
  refine ⟨_, next, ⟨other, inside, rfl⟩, ?_⟩
  simp only [step, if_pos inside]
  exact taken

/-- The workers of a pool get done with what they have. -/
structure GetsDone (mysql : Mysql) (pool : Pool) : Prop where
  /-- Somebody can go on, without a call that fails on a connection that is alive,
  until nothing is left to do. -/
  moves : Done pool ∨ ∃ label next, Proceeds pool label ∧ step mysql pool label = some next
  /-- Whatever happens, only so many steps are ahead of the workers. -/
  bounded : ∀ labels last, run (step mysql) pool labels = some last →
    (labels.map worked).sum ≤
      9 * (pool.jobs.items.length + pool.poolSize) + (labels.map brought).sum
  /-- Left alone, they finish within that many steps. -/
  finish : ∃ labels last, run (step mysql) pool labels = some last ∧ Done last ∧
    labels.length ≤ 9 * (pool.jobs.items.length + pool.poolSize) ∧
      EveryStep (step mysql) (fun source label _ => Proceeds source label) pool labels

/-- In every state that the pool can be in, however its jobs, its faults and the
event loop were interleaved, its workers can get done. -/
theorem workers_get_done {poolSize : Nat} {tables : Tables} {labels : List Workers.Label}
    (positive : 0 < poolSize)
    (ran : run (step mysql) (Pool.start poolSize tables) labels = some pool) :
    GetsDone mysql pool := by
  have working := working_run ran
  have sized : 0 < pool.poolSize := by
    rw [(accepted_run ran).1]
    exact positive
  rcases run_cost (left_pays mysql) (left_start poolSize tables) ran with ⟨count, left, _⟩
  have most := left_le left
  refine ⟨?_, ?_, ?_⟩
  · by_cases rest : AtRest pool
    · exact Or.inl (done_of_rest working sized rest)
    · exact Or.inr (moves_of_working mysql pool working rest)
  · intro later last further
    rcases run_cost (left_pays mysql) left further with ⟨after, _, paid⟩
    omega
  · rcases run_to_rest (moves_of_working mysql) (fun _ _ _ kept _ taken => working_step kept taken)
        (proceeding_drops mysql) working left with
      ⟨steps, last, further, rest, short, every⟩
    have whole : run (step mysql) (Pool.start poolSize tables) (labels ++ steps) = some last := by
      rw [run_append, ran]
      exact further
    have still : 0 < last.poolSize := by
      rw [(accepted_run whole).1]
      exact positive
    exact ⟨steps, last, further, done_of_rest (working_run whole) still rest,
      Nat.le_trans short most, every⟩

def saveAda (gold : Bytes) : DbJob :=
  ⟨⟨7, 1⟩, 1, .saveCharacter, ascii "SAVE", [ascii "ada", ascii "mage", ascii "3", gold], true⟩

def adaTables : Tables := ⟨[⟨1, ascii "ada", ascii "Ada"⟩], [], [], 2⟩

/-- Two saves of one player: the second waits for the row of the first. -/
def waitingRun : List Workers.Label :=
  [.submit (saveAda (ascii "10")), .submit (saveAda (ascii "20")), .worker 0 .pop, .worker 1 .pop,
    .worker 0 (.connect (.ok ())), .worker 1 (.connect (.ok ())),
    .worker 0 (.execute (.goes .asStored)), .worker 0 (.execute (.goes .asStored)),
    .worker 1 (.execute (.goes .asStored))]

theorem workers_get_done_waiting :
    ∃ pool, run (step Mysql.binary) (Pool.start 2 adaTables) waitingRun = some pool ∧
      canProceed Mysql.binary pool 1 = false ∧ GetsDone Mysql.binary pool := by
  refine ⟨_, rfl, by decide, ?_⟩
  exact workers_get_done (by decide) (rfl : run (step Mysql.binary) (Pool.start 2 adaTables)
    waitingRun = some _)

end DungeonPortfolio.Progress
