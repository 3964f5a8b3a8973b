import DungeonPortfolio.Linearized

/-!
# Jobs under faults

Any call of a job may fail, a connection may be refused or break down at any
moment, and the workers interleave their statements. What the statements of a run
do to the tables is kept in a list of changes: the changes of a job that fails
leave the rows alone, one change of a job that succeeds is its whole effect, and
a worker without a job has no transaction open.
-/

namespace DungeonPortfolio.Faults

open DungeonPortfolio.Text DungeonPortfolio.Dispatcher DungeonPortfolio.Schema
open DungeonPortfolio.Statements DungeonPortfolio.Connection DungeonPortfolio.Commands
open DungeonPortfolio.Atomicity DungeonPortfolio.Executions DungeonPortfolio.Workers
open DungeonPortfolio.ExactlyOnce DungeonPortfolio.Linearized
open Library Library.Execution

set_option autoImplicit false

/-- What a statement of the job with this number did to the tables, and the player
whose `last_login_at` it set. -/
structure Change where
  ticket : Nat
  statement : Statement
  before : Tables
  after : Tables
  stamped : Option Nat
  deriving DecidableEq, Repr

def stampOf : (statement : Statement) → Answer statement.Row → Option Nat
  | .touchLogin id, .fetched _ _ => some id
  | _, _ => none

def changed (mysql : Mysql) (pool : Pool) : Label → List Change
  | .worker index (.execute choice) =>
      match (pool.workers index).phase, (pool.workers index).connection with
      | .executing popped (.call statement _), some link =>
          ((perform mysql index (pool.store, link) statement choice).map
            fun (answer, store, _) => (⟨popped.ticket, statement, pool.store.tables, store.tables,
              stampOf statement answer⟩ : Change)).toList
      | _, _ => []
  | _ => []

def changes (mysql : Mysql) : Pool → List Label → List Change
  | _, [] => []
  | pool, label :: rest =>
      match step mysql pool label with
      | none => []
      | some after => changed mysql pool label ++ changes mysql after rest

def ofJob (ticket : Nat) (changes : List Change) : List Change :=
  changes.filter fun change => change.ticket == ticket

/-- Each change starts from the tables that the one before it left. -/
def Chained : Tables → List Change → Tables → Prop
  | first, [], last => last = first
  | first, change :: rest, last => change.before = first ∧ Chained change.after rest last

def Untouched (changes : List Change) : Prop := ∀ change ∈ changes, change.after = change.before

/-- One of the changes is the whole effect of the job, of a save at its COMMIT, and
the others change nothing. -/
def ActsOnce (mysql : Mysql) (job : DbJob) (outcome : Except StdException Bytes)
    (mine : List Change) : Prop :=
  ∃ early acting late order, mine = early ++ acting :: late ∧ Untouched early ∧ Untouched late ∧
    atomically mysql order acting.before job = (outcome, acting.after) ∧
    Timely job acting.statement outcome

/-- A login sets `last_login_at` of its player once, other jobs of none. -/
def Stamped (job : DbJob) (line : Bytes) (ids : List Nat) : Prop :=
  if job.operation = .loginPlayer then
    ∃ account id displayName, at? job.args 0 = .ok account ∧
      line = loginLine id account displayName ∧ ids = [id]
  else ids = []

def stamps (changes : List Change) : List Nat := changes.filterMap Change.stamped

/-- What a completion says about the changes of its job. -/
structure AllOrNothing (mysql : Mysql) (job : DbJob) (completion : DbCompletion)
    (mine : List Change) : Prop where
  nothing : completion.ok = false →
    (∀ change ∈ mine, SameRows change.before change.after) ∧ stamps mine = []
  all : completion.ok = true → ∃ line, completion = completed job line ∧
    ActsOnce mysql job (.ok line) mine ∧ Stamped job line (stamps mine)
  /-- The tables before and after a job with no statement of another job in between. -/
  alone : ∀ before after, Chained before mine after →
    (completion.ok = false → SameRows before after) ∧
      (completion.ok = true → ∃ order line, completion = completed job line ∧
        atomically mysql order before job = (.ok line, after))

def Closed (worker : Worker) : Prop :=
  ∀ link, worker.connection = some link → link.transaction = none

variable {mysql : Mysql} {tables : Tables} {pool after : Pool} {done : List Change}

theorem changes_snoc {start source target : Pool} {labels : List Label} {label : Label}
    (earlier : run (step mysql) start labels = some source)
    (taken : step mysql source label = some target) :
    changes mysql start (labels ++ [label]) =
      changes mysql start labels ++ changed mysql source label := by
  induction labels generalizing start with
  | nil =>
      cases earlier
      simp only [List.nil_append, changes, taken, List.append_nil]
  | cons first rest ih =>
      rcases Option.bind_eq_some_iff.mp earlier with ⟨next, one, ran⟩
      simp only [List.cons_append, changes, one, ih ran, List.append_assoc]

theorem of_job_append (ticket : Nat) (front back : List Change) :
    ofJob ticket (front ++ back) = ofJob ticket front ++ ofJob ticket back :=
  List.filter_append _ _

theorem stamps_append (front back : List Change) :
    stamps (front ++ back) = stamps front ++ stamps back := List.filterMap_append

theorem stamps_single (change : Change) : stamps [change] = change.stamped.toList := by
  rw [stamps, List.filterMap_cons]
  cases change.stamped <;> rfl

theorem of_job_same (change : Change) : ofJob change.ticket [change] = [change] := by
  simp [ofJob]

theorem of_job_other {ticket : Nat} {change : Change} (apart : change.ticket ≠ ticket) :
    ofJob ticket [change] = [] := by
  simp [ofJob, apart]

theorem of_job_unknown {ticket : Nat} (unknown : ∀ change ∈ done, change.ticket < ticket) :
    ofJob ticket done = [] := by
  apply List.filter_eq_nil_iff.mpr
  intro change listed
  have less := unknown change listed
  simp only [beq_iff_eq]
  omega

theorem untouched_append {front back : List Change} (first : Untouched front)
    (second : Untouched back) : Untouched (front ++ back) := by
  intro change listed
  rcases List.mem_append.mp listed with before | later
  · exact first change before
  · exact second change later

theorem untouched_nil : Untouched [] := nofun

theorem chained_append {first last : Tables} {front back : List Change} :
    Chained first (front ++ back) last ↔
      ∃ middle, Chained first front middle ∧ Chained middle back last := by
  induction front generalizing first with
  | nil => exact ⟨fun chained => ⟨first, rfl, chained⟩, fun ⟨_, same, chained⟩ => same ▸ chained⟩
  | cons change rest ih =>
      simp only [List.cons_append, Chained, ih]
      constructor
      · rintro ⟨starts, middle, one, two⟩
        exact ⟨middle, ⟨starts, one⟩, two⟩
      · rintro ⟨middle, ⟨starts, one⟩, two⟩
        exact ⟨starts, middle, one, two⟩

theorem chained_untouched {first last : Tables} {mine : List Change} (untouched : Untouched mine)
    (chained : Chained first mine last) : last = first := by
  induction mine generalizing first with
  | nil => exact chained
  | cons change rest ih =>
      rcases chained with ⟨rfl, later⟩
      have here := untouched change List.mem_cons_self
      have same := ih (fun other listed => untouched other (List.mem_cons_of_mem _ listed)) later
      exact same.trans here

theorem chained_same_rows {first last : Tables} {mine : List Change}
    (same : ∀ change ∈ mine, SameRows change.before change.after)
    (chained : Chained first mine last) : SameRows first last := by
  induction mine generalizing first with
  | nil =>
      rw [chained]
      exact ⟨rfl, rfl, rfl⟩
  | cons change rest ih =>
      rcases chained with ⟨rfl, later⟩
      rcases same change List.mem_cons_self with ⟨players, characters, items⟩
      rcases ih (fun other listed => same other (List.mem_cons_of_mem _ listed)) later with
        ⟨players', characters', items'⟩
      exact ⟨players'.trans players, characters'.trans characters, items'.trans items⟩

theorem same_rows_of_untouched {mine : List Change} (untouched : Untouched mine) :
    ∀ change ∈ mine, SameRows change.before change.after := by
  intro change listed
  rw [untouched change listed]
  exact ⟨rfl, rfl, rfl⟩

/-- The one effective change leaves the rows alone, so all do. -/
theorem same_rows_of_acts {job : DbJob} {outcome : Except StdException Bytes} {mine : List Change}
    (acts : ActsOnce mysql job outcome mine)
    (harmless : ∀ order before, (atomically mysql order before job).1 = outcome →
      SameRows before (atomically mysql order before job).2) :
    ∀ change ∈ mine, SameRows change.before change.after := by
  rcases acts with ⟨early, acting, late, order, rfl, first, last, acted, _⟩
  intro change listed
  rcases List.mem_append.mp listed with before | later
  · exact same_rows_of_untouched first change before
  · rcases List.mem_cons.mp later with rfl | later
    · have rows := harmless order change.before (by rw [acted])
      rw [acted] at rows
      exact rows
    · exact same_rows_of_untouched last change later

theorem failed_nothing {job : DbJob} {error : StdException} {mine : List Change}
    (same : ∀ change ∈ mine, SameRows change.before change.after) (unstamped : stamps mine = []) :
    AllOrNothing mysql job (errorCompletion job error) mine where
  nothing := fun _ => ⟨same, unstamped⟩
  all := nofun
  alone := fun _ _ chained => ⟨fun _ => chained_same_rows same chained, nofun⟩

theorem completed_all {job : DbJob} {line : Bytes} {mine : List Change}
    (acts : ActsOnce mysql job (.ok line) mine) (stamped : Stamped job line (stamps mine)) :
    AllOrNothing mysql job (completed job line) mine where
  nothing := nofun
  all := fun _ => ⟨line, rfl, acts, stamped⟩
  alone := by
    intro before after chained
    refine ⟨nofun, fun _ => ?_⟩
    rcases acts with ⟨early, acting, late, order, rfl, first, last, acted, _⟩
    rcases chained_append.mp chained with ⟨middle, opening, starts, closing⟩
    rw [chained_untouched first opening] at starts
    rw [starts] at acted
    rw [chained_untouched last closing]
    exact ⟨order, line, rfl, acted⟩

/-- What holds of the players stamped so far, whatever a statement answers. -/
def stampCalls (statement : Statement) (next : Answer statement.Row → List Nat → Prop)
    (ids : List Nat) : Prop :=
  ∀ answer, next answer (ids ++ (stampOf statement answer).toList)

def Stamping (job : DbJob) : Except StdException DbCompletion → List Nat → Prop
  | .ok completion, ids => ∃ line, completion = completed job line ∧ Stamped job line ids
  | .error _, ids => ids = []

/-- A part of a job that sets no `last_login_at`. -/
def Quiet {Value : Type} (script : JobScript Value) : Prop :=
  ∀ ids, script.Holds stampCalls (fun _ later => later = ids) ids

section

variable {Value Result : Type}

theorem stamp_calls_monotone : Script.Monotone stampCalls := by
  intro statement next wider ids weaker holds answer
  exact weaker _ _ (holds answer)

theorem holds_quiet_bind {post : Except StdException Result → List Nat → Prop}
    {script : JobScript Value} {next : Value → JobScript Result} {ids : List Nat}
    (quiet : Quiet script) (failed : ∀ error, post (.error error) ids)
    (rest : ∀ value, (next value).Holds stampCalls post ids) :
    (script >>= next).Holds stampCalls post ids := by
  rw [Script.holds_bind]
  apply Script.holds_mono stamp_calls_monotone _ (quiet ids)
  rintro result later rfl
  cases result with
  | ok value => exact rest value
  | error error => exact failed error

theorem quiet_bind {script : JobScript Value} {next : Value → JobScript Result}
    (first : Quiet script) (second : ∀ value, Quiet (next value)) : Quiet (script >>= next) := by
  intro ids
  exact holds_quiet_bind first (fun _ => rfl) fun value => second value ids

theorem quiet_rescue {script : JobScript Value} {handler : StdException → JobScript Value}
    (first : Quiet script) (second : ∀ error, Quiet (handler error)) :
    Quiet (script.rescue handler) := by
  intro ids
  rw [Script.holds_rescue]
  apply Script.holds_mono stamp_calls_monotone _ (first ids)
  rintro result later rfl
  cases result with
  | ok value => rfl
  | error error => exact second error later

theorem quiet_done (value : Value) : Quiet (.done value) := fun _ => rfl

theorem quiet_throws (error : StdException) : Quiet (.throws error : JobScript Value) :=
  fun _ => rfl

theorem quiet_convert (result : Except StdException Value) : Quiet (convert result) := by
  cases result with
  | ok value => exact quiet_done value
  | error error => exact quiet_throws error

theorem quiet_request {statement : Statement} (plain : ∀ answer, stampOf statement answer = none) :
    Quiet (Script.request statement : JobScript (Answer statement.Row)) := by
  intro ids answer
  change ids ++ (stampOf statement answer).toList = ids
  rw [plain answer]
  exact List.append_nil ids

theorem quiet_executed {statement : Statement} (plain : ∀ answer, stampOf statement answer = none) :
    Quiet (executed statement) := by
  apply quiet_bind (quiet_request plain)
  intro answer
  cases answer with
  | failed | duplicate => exact quiet_throws _
  | fetched rows broken => exact quiet_done _

theorem quiet_execute_prepared {statement : Statement}
    (plain : ∀ answer, stampOf statement answer = none) : Quiet (executePrepared statement) :=
  quiet_bind (quiet_executed plain) fun _ => quiet_done _

theorem quiet_exec {statement : Statement} (plain : ∀ answer, stampOf statement answer = none) :
    Quiet (exec statement) :=
  quiet_execute_prepared plain

theorem quiet_fetch_one {Row : Type} (account : Bytes) (rows : List Row × Option Bytes) :
    Quiet (fetchOne account rows) := by
  rcases rows with ⟨_ | ⟨row, rest⟩, _ | text⟩
  · exact quiet_throws _
  · exact quiet_throws _
  · exact quiet_done row
  · exact quiet_done row

theorem quiet_transaction {body : JobScript Value} (quiet : Quiet body) :
    Quiet (transaction body) := by
  apply quiet_bind (quiet_exec fun _ => rfl)
  intro _
  apply quiet_rescue
  · apply quiet_bind quiet
    intro value
    exact quiet_bind (quiet_exec fun _ => rfl) fun _ => quiet_done value
  · intro error
    apply quiet_bind _ fun _ => quiet_throws error
    exact quiet_bind (quiet_request fun _ => rfl) fun _ => quiet_done _

theorem quiet_fetch_characters (account : Bytes) (rows : List Character) (broken : Option Bytes) :
    Quiet (fetchCharacters account rows broken) := by
  induction rows with
  | nil => cases broken with
      | none => exact quiet_done _
      | some text => exact quiet_throws _
  | cons row rest ih =>
      unfold fetchCharacters
      split_ifs
      · exact quiet_throws _
      · exact quiet_bind ih fun _ => quiet_done _

theorem quiet_fetch_items (rows : List Item) (broken : Option Bytes) :
    Quiet (fetchItems rows broken) := by
  induction rows with
  | nil => cases broken with
      | none => exact quiet_done _
      | some text => exact quiet_throws _
  | cons row rest ih => exact quiet_bind ih fun _ => quiet_done _

end

theorem quiet_save {account : Bytes} {save : Nat → JobScript Unit}
    (quiet : ∀ playerId, Quiet (save playerId)) :
    Quiet (transaction do
      let playerId ← selectPlayerIdForUpdate account
      save playerId) := by
  apply quiet_transaction
  apply quiet_bind _ quiet
  exact quiet_bind (quiet_executed fun _ => rfl) fun _ => quiet_fetch_one _ _

theorem stamping_completed {job : DbJob} (kind : job.operation ≠ .loginPlayer) (line : Bytes) :
    (pure (completed job line) : JobScript DbCompletion).Holds stampCalls (Stamping job) [] :=
  ⟨line, rfl, by rw [Stamped, if_neg kind]⟩

theorem holds_login_stamps {job : DbJob} (kind : job.operation = .loginPlayer) :
    (loginPlayer job).Holds stampCalls (Stamping job) [] := by
  unfold loginPlayer
  cases first : at? job.args 0 with
  | error error => rfl
  | ok account =>
      simp only [convert, Script.lift_ok, Script.done_bind]
      refine holds_quiet_bind (quiet_executed fun _ => rfl) (fun _ => rfl) fun rows => ?_
      refine holds_quiet_bind (quiet_fetch_one account rows) (fun _ => rfl) ?_
      rintro ⟨id, displayName⟩
      simp only
      split_ifs
      · rfl
      · intro answer
        cases answer with
        | failed | duplicate => rfl
        | fetched rows broken =>
            refine ⟨_, rfl, ?_⟩
            rw [Stamped, if_pos kind]
            exact ⟨account, id, displayName, first, rfl, rfl⟩

/-- A job that fails has set no `last_login_at`, and one that succeeds has set
what its operation sets. -/
theorem holds_stamps (job : DbJob) : (executeJob job).Holds stampCalls (Stamping job) [] := by
  have failed : ∀ error : StdException, Stamping job (.error error) [] := fun _ => rfl
  have converted : ∀ {Value : Type} (result : Except StdException Value)
      {next : Value → JobScript DbCompletion},
      (∀ value, (next value).Holds stampCalls (Stamping job) []) →
        (convert result >>= next).Holds stampCalls (Stamping job) [] := by
    intro Value result next rest
    exact holds_quiet_bind (quiet_convert result) failed rest
  unfold executeJob
  cases kind : job.operation with
  | registerPlayer =>
      have plain : job.operation ≠ .loginPlayer := by rw [kind]; nofun
      apply converted
      intro account
      apply converted
      intro displayName
      refine holds_quiet_bind (quiet_request fun _ => rfl) failed fun answer => ?_
      cases answer with
      | failed | duplicate => rfl
      | fetched rows broken => exact stamping_completed plain _
  | loginPlayer => exact holds_login_stamps kind
  | saveCharacter | savePosition =>
      have plain : job.operation ≠ .loginPlayer := by rw [kind]; nofun
      apply converted
      intro account
      apply converted
      intro character
      apply converted
      intro third
      apply converted
      intro fourth
      refine holds_quiet_bind (quiet_save fun _ => quiet_execute_prepared fun _ => rfl) failed ?_
      intro _
      exact stamping_completed plain _
  | saveInventoryItem =>
      have plain : job.operation ≠ .loginPlayer := by rw [kind]; nofun
      apply converted
      intro account
      apply converted
      intro slot
      apply converted
      intro itemId
      apply converted
      intro count
      refine holds_quiet_bind (quiet_save fun _ => ?_) failed fun _ => stamping_completed plain _
      split_ifs
      · exact quiet_execute_prepared fun _ => rfl
      · exact quiet_execute_prepared fun _ => rfl
  | loadCharacters | loadInventory =>
      have plain : job.operation ≠ .loginPlayer := by rw [kind]; nofun
      apply converted
      intro account
      have select : Quiet (selectPlayerId account) :=
        quiet_bind (quiet_executed fun _ => rfl) fun _ => quiet_fetch_one _ _
      refine holds_quiet_bind select failed fun _ => ?_
      refine holds_quiet_bind (quiet_executed fun _ => rfl) failed ?_
      rintro ⟨rows, broken⟩
      refine holds_quiet_bind ?_ failed fun _ => stamping_completed plain _
      first
        | exact quiet_fetch_characters account rows broken
        | exact quiet_fetch_items rows broken

/-- A script that copes with every fault copes with the loss of its connection
between two calls. -/
theorem holds_lost {Value : Type} {self : Nat} {job : DbJob}
    {post : Except StdException Value → Moment → Prop}
    (stable : ∀ result now, post result now → post result ⟨⟨false, none⟩, now.settled, now.players⟩)
    {script : JobScript Value} {now : Moment}
    (holds : script.Holds (calls mysql self true job) post now) :
    script.Holds (calls mysql self true job) post ⟨⟨false, none⟩, now.settled, now.players⟩ := by
  induction script generalizing now with
  | done value => exact stable _ _ holds
  | throws error => exact stable _ _ holds
  | call statement next ih =>
      intro store choice order answer after link known sound allowed ordered performed
      cases choice with
      | goes chosen =>
          -- only a ROLLBACK goes through on a lost connection
          simp only [perform, Bool.false_or, decide_eq_true_eq] at performed
          split_ifs at performed with undone
          subst undone
          cases performed
          have rolled : perform mysql self (store, now.link) .rollback (.goes chosen) =
              some (.fetched [] none, (store.release self, { now.link with transaction := none })) := by
            simp [perform, effect]
          rcases holds store (.goes chosen) order _ _ _ known sound allowed ordered rolled with
            ⟨same, continued⟩ | ⟨fresh, timely, acted, continued⟩
          · exact Or.inl ⟨same, ih _ continued⟩
          · exact Or.inr ⟨fresh, timely, acted, ih _ continued⟩
      | fails stage text =>
          simp only [perform, Bool.false_and, Bool.false_eq_true, if_false] at performed
          split_ifs at performed with reached
          cases performed
          have lost : perform mysql self (store, now.link) statement (.loses stage text) =
              some (.failed stage text, (store.release self, ⟨false, none⟩)) := by
            simp only [perform, if_pos reached]
          have kept := holds store (.loses stage text) order _ _ _ known sound (fun _ => rfl) trivial
            lost
          exact kept
      | breaks chosen count text => simp [perform] at performed
      | loses stage text =>
          exact holds store (.loses stage text) order answer after link known sound allowed ordered
            performed

theorem finished_lost {job : DbJob} (result : Except StdException DbCompletion) (now : Moment)
    (finished : Finished true job result now) :
    Finished true job result ⟨⟨false, none⟩, now.settled, now.players⟩ := by
  cases result with
  | ok completion => exact ⟨rfl, finished.2⟩
  | error error => exact ⟨rfl, finished.2⟩

/-- What the changes of a job are, by the outcome it has acted with. -/
def Marked (mysql : Mysql) (job : DbJob) (mine : List Change) :
    Option (Except StdException Bytes) → Prop
  | none => Untouched mine
  | some outcome => ActsOnce mysql job outcome mine

def Underway (mysql : Mysql) (players : List PlayerRow) (done : List Change) (index : Nat)
    (worker : Worker) : Prop :=
  match worker.phase with
  | .connecting popped => ofJob popped.ticket done = []
  | .executing popped script =>
      (worker.connection = none ∧ (∃ error, script = .throws error) ∧
        ofJob popped.ticket done = []) ∨
      ∃ link settled, worker.connection = some link ∧
        script.Holds (calls mysql index true popped.job) (Finished true popped.job)
          ⟨link, settled, players⟩ ∧
        Marked mysql popped.job (ofJob popped.ticket done) settled ∧
        script.Holds stampCalls (Stamping popped.job) (stamps (ofJob popped.ticket done))
  | .popping | .signalling | .exited => Closed worker

structure Traced (mysql : Mysql) (tables : Tables) (pool : Pool) (done : List Change) : Prop where
  sound : Sound mysql pool.store.tables
  chained : Chained tables done pool.store.tables
  known : ∀ change ∈ done, change.ticket < pool.popped.length
  answered : ∀ index ticket completion, (index, ticket, completion) ∈ pool.pushed →
    ∃ job, (index, ⟨ticket, job⟩) ∈ pool.popped ∧
      AllOrNothing mysql job completion (ofJob ticket done)
  underway : ∀ index, Underway mysql pool.store.tables.players done index (pool.workers index)

theorem traced_start (poolSize : Nat) (sound : Sound mysql tables) :
    Traced mysql tables (Pool.start poolSize tables) [] where
  sound := sound
  chained := rfl
  known := nofun
  answered := nofun
  underway := by
    intro index link connected
    cases connected

theorem underway_idle {players : List PlayerRow} {index : Nat} {worker : Worker}
    (idle : worker.holds = none) : Underway mysql players done index worker ↔ Closed worker := by
  rcases worker with ⟨connection, phase⟩
  cases phase with
  | popping | signalling | exited => exact Iff.rfl
  | connecting | executing => cases idle

theorem underway_later {players more : List PlayerRow} {index : Nat} {worker : Worker}
    (underway : Underway mysql players done index worker) (grown : players <+: more)
    {later : List Change} (others : ∀ popped, worker.holds = some popped →
      ofJob popped.ticket later = ofJob popped.ticket done) :
    Underway mysql more later index worker := by
  rcases worker with ⟨connection, phase⟩
  cases phase with
  | popping | signalling | exited => exact underway
  | connecting popped =>
      have same := others popped rfl
      simp only [Underway, same]
      exact underway
  | executing popped script =>
      have same := others popped rfl
      simp only [Underway, same]
      rcases underway with broken | ⟨link, settled, connected, holds, marked⟩
      · exact Or.inl broken
      · exact Or.inr ⟨link, settled, connected, holds_later finished_stable holds grown, marked⟩

theorem underway_worker {index : Nat} {worker : Worker} {players more : List PlayerRow}
    {later : List Change} (underway : ∀ index, Underway mysql players done index (pool.workers index))
    (mine : Underway mysql more later index worker) (grown : players <+: more)
    (others : ∀ other, other ≠ index → ∀ popped, (pool.workers other).holds = some popped →
      ofJob popped.ticket later = ofJob popped.ticket done) :
    ∀ other, Underway mysql more later other ((pool.setWorker index worker).workers other) := by
  intro other
  by_cases here : other = index
  · rw [here, Pool.set_worker_same]
    exact mine
  · rw [Pool.set_worker_other here]
    exact underway_later (underway other) grown (others other here)

theorem underway_alone {index : Nat} {worker : Worker} {players : List PlayerRow}
    (underway : ∀ index, Underway mysql players done index (pool.workers index))
    (mine : Underway mysql players done index worker) :
    ∀ other, Underway mysql players done other ((pool.setWorker index worker).workers other) :=
  underway_worker underway mine (List.prefix_refl _) fun _ _ _ _ => rfl

theorem traced_kept (traced : Traced mysql tables pool done)
    (store : after.store.tables = pool.store.tables) (popped : pool.popped <+: after.popped)
    (pushed : after.pushed = pool.pushed)
    (underway : ∀ index, Underway mysql pool.store.tables.players done index (after.workers index)) :
    Traced mysql tables after done where
  sound := by
    rw [store]
    exact traced.sound
  chained := by
    rw [store]
    exact traced.chained
  known := by
    intro change listed
    exact Nat.lt_of_lt_of_le (traced.known change listed) popped.length_le
  answered := by
    rw [pushed]
    intro index ticket completion listed
    rcases traced.answered index ticket completion listed with ⟨job, taken, whole⟩
    exact ⟨job, popped.subset taken, whole⟩
  underway := by
    rw [store]
    exact underway

theorem traced_record (traced : Traced mysql tables pool done) {event : Event}
    (silent : event.pushed? = none) : Traced mysql tables (pool.record event) done := by
  apply traced_kept traced
  · rfl
  · rw [Pool.record_popped]
    exact List.prefix_append _ _
  · rw [Pool.record_pushed, silent]
    exact List.append_nil _
  · exact traced.underway

theorem traced_submit (traced : Traced mysql tables pool done) (job : DbJob) :
    Traced mysql tables (pool.submit job) done := by
  refine traced_record ?_ ?_
  · exact traced_kept traced rfl (List.prefix_refl _) rfl traced.underway
  · split <;> rfl

theorem traced_pop_completion (traced : Traced mysql tables pool done) :
    Traced mysql tables pool.popCompletion done := by
  unfold Pool.popCompletion
  cases pool.completions with
  | nil => exact traced
  | cons completion rest =>
      refine traced_record ?_ rfl
      exact traced_kept traced rfl (List.prefix_refl _) rfl traced.underway

theorem traced_worker (traced : Traced mysql tables pool done) {index eventCount : Nat}
    {jobs : BlockingQueue DbJob} {store : Store} {worker : Worker}
    (same : store.tables = pool.store.tables)
    (mine : Underway mysql pool.store.tables.players done index worker) :
    Traced mysql tables ({ pool with store, jobs, eventCount }.setWorker index worker) done := by
  apply traced_kept traced
  · exact same
  · exact List.prefix_refl _
  · rfl
  · exact underway_alone traced.underway mine

theorem traced_take (traced : Traced mysql tables pool done) {index : Nat} {job : DbJob}
    {rest : List DbJob} {phase : Phase} (idle : (pool.workers index).phase = .popping)
    (starts : ((pool.workers index).connection = none ∧
        phase = .connecting ⟨pool.popped.length, job⟩) ∨
      ((∃ link, (pool.workers index).connection = some link) ∧
        phase = .executing ⟨pool.popped.length, job⟩ (executeJob job))) :
    Traced mysql tables (({ pool with jobs := { pool.jobs with items := rest } }.setWorker index
      ⟨(pool.workers index).connection, phase⟩).record
        (.popped index ⟨pool.popped.length, job⟩)) done := by
  have none : ofJob pool.popped.length done = [] := of_job_unknown traced.known
  refine traced_record ?_ rfl
  apply traced_worker traced rfl
  rcases starts with ⟨_, rfl⟩ | ⟨⟨link, connected⟩, rfl⟩
  · exact none
  · have closed := traced.underway index
    rw [Underway, idle] at closed
    simp only [Underway, none]
    exact Or.inr ⟨link, Option.none, connected, holds_job rfl (closed link connected),
      untouched_nil, holds_stamps job⟩

theorem traced_connect (traced : Traced mysql tables pool done) {index : Nat} {popped : Popped}
    (waiting : (pool.workers index).phase = .connecting popped) {worker : Worker}
    (mine : worker = ⟨some Link.fresh, .executing popped (executeJob popped.job)⟩ ∨
      ∃ error, worker = ⟨none, .executing popped (.throws error)⟩) :
    Traced mysql tables (pool.setWorker index worker) done := by
  have unserved := traced.underway index
  rw [Underway, waiting] at unserved
  refine traced_worker traced rfl ?_
  rcases mine with rfl | ⟨error, rfl⟩
  · simp only [Underway, unserved]
    exact Or.inr ⟨Link.fresh, none, rfl, holds_job rfl rfl, untouched_nil, holds_stamps popped.job⟩
  · exact Or.inl ⟨rfl, ⟨error, rfl⟩, unserved⟩

theorem traced_lose (traced : Traced mysql tables pool done) {index : Nat} {link : Link}
    (connected : (pool.workers index).connection = some link) :
    Traced mysql tables ({ pool with store := pool.store.release index }.setWorker index
      ⟨some ⟨false, none⟩, (pool.workers index).phase⟩) done := by
  have before := traced.underway index
  refine traced_worker traced (by rfl) ?_
  cases phase : (pool.workers index).phase with
  | popping | signalling | exited =>
      intro other same
      cases same
      rfl
  | connecting popped =>
      rw [Underway, phase] at before
      exact before
  | executing popped script =>
      rw [Underway, phase] at before
      rcases before with ⟨missing, _⟩ | ⟨_, settled, _, holds, rest⟩
      · rw [connected] at missing
        cases missing
      · exact Or.inr ⟨⟨false, none⟩, settled, rfl, holds_lost finished_lost holds, rest⟩

def orderOf : Choice → RowOrder
  | .goes order | .breaks order _ _ => order
  | .fails _ _ | .loses _ _ => .asStored

theorem ordered_of (choice : Choice) : choice.Ordered (orderOf choice) := by
  cases choice with
  | goes | breaks => rfl
  | fails | loses => trivial

theorem marked_same {job : DbJob} {mine : List Change}
    {settled : Option (Except StdException Bytes)} {change : Change}
    (marked : Marked mysql job mine settled) (same : change.after = change.before) :
    Marked mysql job (mine ++ [change]) settled := by
  have last : Untouched [change] := by
    intro other listed
    rw [List.mem_singleton.mp listed]
    exact same
  cases settled with
  | none => exact untouched_append marked last
  | some outcome =>
      rcases marked with ⟨early, acting, late, order, rfl, first, second, acted⟩
      refine ⟨early, acting, late ++ [change], order, ?_, first, untouched_append second last, acted⟩
      simp

theorem marked_acts {job : DbJob} {mine : List Change} {order : RowOrder} {change : Change}
    (untouched : Untouched mine)
    (acted : change.after = (atomically mysql order change.before job).2)
    (timely : Timely job change.statement (atomically mysql order change.before job).1) :
    Marked mysql job (mine ++ [change]) (some (atomically mysql order change.before job).1) :=
  ⟨mine, change, [], order, rfl, untouched, untouched_nil, by rw [acted], timely⟩

theorem traced_execute (accounted : Accounted pool) (traced : Traced mysql tables pool done)
    {index : Nat} {choice : Choice} (taken : pool.execute mysql index choice = some after) :
    Traced mysql tables after (done ++ changed mysql pool (.worker index (.execute choice))) := by
  rcases Pool.execute_cases taken with
    ⟨popped, statement, next, link, answer, store, link', busy, connected, performed, rfl⟩
  have mine : (pool.workers index).holds = some popped := by
    rw [Worker.holds, busy]
  rcases added : (⟨popped.ticket, statement, pool.store.tables, store.tables,
    stampOf statement answer⟩ : Change) with change
  have single : changed mysql pool (.worker index (.execute choice)) = [change] := by
    rw [← added]
    simp only [changed, busy, connected, performed]
    rfl
  rw [single]
  have underway := traced.underway index
  rw [Underway, busy] at underway
  rcases underway with ⟨missing, _⟩ | ⟨link₀, settled, same, holds, marked, stamping⟩
  · rw [connected] at missing
    cases missing
  obtain rfl := Option.some.inj (connected.symm.trans same)
  have listed : ofJob popped.ticket (done ++ [change]) = ofJob popped.ticket done ++ [change] := by
    rw [of_job_append, ← added]
    exact congrArg _ (of_job_same _)
  have apart : ∀ ticket, popped.ticket ≠ ticket →
      ofJob ticket (done ++ [change]) = ofJob ticket done := by
    intro ticket other
    rw [of_job_append, of_job_other (by rw [← added]; exact other), List.append_nil]
  have next : ∃ later, (next answer).Holds (calls mysql index true popped.job)
      (Finished true popped.job) ⟨link', later, store.tables.players⟩ ∧
      Marked mysql popped.job (ofJob popped.ticket done ++ [change]) later ∧
      Sound mysql store.tables ∧ pool.store.tables.players <+: store.tables.players := by
    rcases holds pool.store choice (orderOf choice) answer store link' (List.prefix_refl _)
      traced.sound (fun _ => rfl) (ordered_of choice) performed with
      ⟨unchanged, continued⟩ | ⟨rfl, timely, acted, continued⟩
    · rw [unchanged]
      refine ⟨settled, continued, marked_same marked ?_, traced.sound, List.prefix_refl _⟩
      rw [← added]
      exact unchanged
    · refine ⟨_, continued, ?_, ?_, ?_⟩
      · rw [← added]
        exact marked_acts marked acted timely
      · rw [acted]
        exact sound_atomically traced.sound _ popped.job
      · rw [acted]
        exact players_atomically _ popped.job
  rcases next with ⟨later, continued, marked', sound, grown⟩
  rcases accounted.held index popped mine with ⟨taken, unanswered⟩
  constructor
  · exact sound
  · refine chained_append.mpr ⟨_, traced.chained, ?_⟩
    rw [← added]
    exact ⟨rfl, rfl⟩
  · rw [Pool.record_popped]
    intro other member
    rw [List.length_append]
    apply Nat.lt_add_right
    rcases List.mem_append.mp member with earlier | now
    · exact traced.known other earlier
    · rw [List.mem_singleton.mp now, ← added]
      exact fresh_ticket accounted taken
  · intro other ticket completion pushed
    rw [Pool.record_pushed] at pushed
    simp only [Event.pushed?, Option.toList_none, List.append_nil] at pushed
    have before : (other, ticket, completion) ∈ pool.pushed := pushed
    rcases traced.answered other ticket completion before with ⟨job, known, whole⟩
    have different : popped.ticket ≠ ticket := by
      rintro rfl
      exact unanswered (List.mem_map.mpr ⟨_, before, rfl⟩)
    rw [Pool.record_popped, apart ticket different]
    exact ⟨job, List.mem_append_left _ known, whole⟩
  · refine underway_worker traced.underway ?_ grown ?_
    · refine Or.inr ⟨link', later, rfl, continued, ?_⟩
      rw [listed, stamps_append, stamps_single]
      refine ⟨marked', ?_⟩
      rw [← added]
      exact stamping answer
    · intro other different theirs held
      exact apart theirs.ticket (held_apart accounted different mine held).symm

/-- A job that ends has done what its completion says. -/
theorem finished_all_or_nothing {job : DbJob} {result : Except StdException DbCompletion}
    {link : Link} {settled : Option (Except StdException Bytes)} {players : List PlayerRow}
    {mine : List Change} (finished : Finished true job result ⟨link, settled, players⟩)
    (marked : Marked mysql job mine settled) (stamping : Stamping job result (stamps mine)) :
    AllOrNothing mysql job (Connection.pushed job result) mine := by
  cases result with
  | ok completion =>
      rcases finished with ⟨_, line, rfl, rfl⟩
      rcases stamping with ⟨same, completions, stamped⟩
      cases completions
      exact completed_all marked stamped
  | error error =>
      refine failed_nothing ?_ stamping
      rcases finished with ⟨_, rfl | ⟨rfl, _⟩ | ⟨_, rfl | login⟩⟩
      · apply same_rows_of_acts marked
        intro order before failed
        exact error_same_rows failed
      · exact same_rows_of_untouched marked
      · exact same_rows_of_untouched marked
      · -- a login may fail after it has acted, but it changes no row
        cases settled with
        | none => exact same_rows_of_untouched marked
        | some outcome =>
            apply same_rows_of_acts marked
            intro order before _
            rw [login_changes_nothing login]
            exact ⟨rfl, rfl, rfl⟩

theorem traced_push (accounted : Accounted pool) (traced : Traced mysql tables pool done)
    {index : Nat} (taken : pool.push index = some after) : Traced mysql tables after done := by
  rcases Pool.push_cases taken with ⟨popped, script, result, busy, ended, rfl⟩
  have underway := traced.underway index
  rw [Underway, busy] at underway
  have ending : Closed (pool.workers index) ∧ AllOrNothing mysql popped.job
      (Connection.pushed popped.job result) (ofJob popped.ticket done) := by
    rcases underway with ⟨missing, ⟨error, rfl⟩, unserved⟩ |
      ⟨link, settled, connected, holds, marked, stamping⟩
    · cases ended
      rw [unserved]
      refine ⟨?_, failed_nothing nofun rfl⟩
      intro link connected
      rw [missing] at connected
      cases connected
    · have finished : Finished true popped.job result
          ⟨link, settled, pool.store.tables.players⟩ ∧
            Stamping popped.job result (stamps (ofJob popped.ticket done)) := by
        cases script with
        | call statement next => cases ended
        | done completion =>
            cases ended
            exact ⟨holds, stamping⟩
        | throws error =>
            cases ended
            exact ⟨holds, stamping⟩
      rcases finished with ⟨finished, stamped⟩
      refine ⟨?_, finished_all_or_nothing finished marked stamped⟩
      intro other same
      obtain rfl := Option.some.inj (connected.symm.trans same)
      cases result with
      | ok completion => exact finished.1
      | error error => exact finished.1
  rcases ending with ⟨closed, whole⟩
  have mine : (pool.workers index).holds = some popped := by
    rw [Worker.holds, busy]
  constructor
  · exact traced.sound
  · exact traced.chained
  · rw [Pool.record_popped]
    intro change listed
    rw [List.length_append]
    exact Nat.lt_add_right _ (traced.known change listed)
  · intro other ticket completion pushed
    rw [Pool.record_pushed] at pushed
    rw [Pool.record_popped]
    rcases List.mem_append.mp pushed with before | now
    · rcases traced.answered other ticket completion before with ⟨job, known, rows⟩
      exact ⟨job, List.mem_append_left _ known, rows⟩
    · cases List.mem_singleton.mp now
      exact ⟨popped.job, List.mem_append_left _ (accounted.held index popped mine).1, whole⟩
  · exact underway_alone traced.underway closed

theorem traced_step {label : Label} (accounted : Accounted pool)
    (traced : Traced mysql tables pool done) (taken : step mysql pool label = some after) :
    Traced mysql tables after (done ++ changed mysql pool label) := by
  have quiet : changed mysql pool label = [] →
      Traced mysql tables after done →
      Traced mysql tables after (done ++ changed mysql pool label) := by
    intro none kept
    rw [none, List.append_nil]
    exact kept
  cases label with
  | submit job =>
      cases taken
      exact quiet rfl (traced_submit traced job)
  | close | drainEvents =>
      cases taken
      exact quiet rfl (traced_kept traced rfl (List.prefix_refl _) rfl traced.underway)
  | join =>
      rcases Pool.join_cases taken with ⟨_, rfl⟩
      exact quiet rfl (traced_kept traced rfl (List.prefix_refl _) rfl traced.underway)
  | popCompletion =>
      cases taken
      exact quiet rfl (traced_pop_completion traced)
  | worker index chosen =>
      simp only [step] at taken
      split_ifs at taken with bound
      have idle : ∀ {eventCount : Nat} {worker : Worker}, (pool.workers index).holds = none →
          worker.holds = none → worker.connection = (pool.workers index).connection →
          Traced mysql tables ({ pool with eventCount }.setWorker index worker) done := by
        intro eventCount worker free still same
        refine traced_worker traced (by rfl) ?_
        rw [underway_idle still, Closed, same]
        exact (underway_idle free).mp (traced.underway index)
      cases chosen with
      | pop =>
          apply quiet rfl
          rcases Pool.pop_cases taken with
            ⟨popping, ⟨_, _, rfl⟩ | ⟨job, rest, phase, _, starts, rfl⟩⟩
          · refine traced_record ?_ (by rfl)
            exact idle (by rw [Worker.holds, popping]) rfl rfl
          · exact traced_take traced popping starts
      | connect outcome =>
          apply quiet rfl
          rcases Pool.connect_cases taken with ⟨popped, waiting, ⟨_, rfl⟩ | ⟨error, _, rfl⟩⟩
          · exact traced_connect traced waiting (Or.inl rfl)
          · exact traced_connect traced waiting (Or.inr ⟨error, rfl⟩)
      | execute choice => exact traced_execute accounted traced taken
      | push =>
          apply quiet rfl
          exact traced_push accounted traced taken
      | signal =>
          apply quiet rfl
          rcases Pool.signal_cases taken with ⟨signalling, rfl⟩
          exact idle (by rw [Worker.holds, signalling]) rfl rfl
      | lose =>
          apply quiet rfl
          rcases Pool.lose_cases taken with ⟨link, connected, rfl⟩
          exact traced_lose traced connected

theorem traced_run {poolSize : Nat} {labels : List Label} (sound : Sound mysql tables)
    (ran : run (step mysql) (Pool.start poolSize tables) labels = some pool) :
    Accounted pool ∧
      Traced mysql tables pool (changes mysql (Pool.start poolSize tables) labels) := by
  induction labels using List.reverseRecOn generalizing pool with
  | nil =>
      cases ran
      exact ⟨accounted_start poolSize tables, traced_start poolSize sound⟩
  | append_singleton labels label ih =>
      rcases (run_snoc_eq_some (step mysql)).mp ran with ⟨source, earlier, taken⟩
      rcases ih earlier with ⟨accounted, traced⟩
      rw [changes_snoc earlier taken]
      exact ⟨accounted_step accounted taken, traced_step accounted traced taken⟩

/-- In every run, whichever calls fail and whenever a connection is lost, the
tables change by the statements of the jobs only, each completion tells whether
its job has had its full effect or none, and no transaction outlives its job. -/
theorem jobs_all_or_nothing {poolSize : Nat} {labels : List Label} (sound : Sound mysql tables)
    (ran : run (step mysql) (Pool.start poolSize tables) labels = some pool) :
    Chained tables (changes mysql (Pool.start poolSize tables) labels) pool.store.tables ∧
      (∀ index ticket completion, (index, ticket, completion) ∈ pool.pushed →
        ∃ job, (ticket, job) ∈ pool.accepted ∧ AllOrNothing mysql job completion
          (ofJob ticket (changes mysql (Pool.start poolSize tables) labels))) ∧
      ∀ index, (pool.workers index).holds = none → Closed (pool.workers index) := by
  rcases traced_run sound ran with ⟨accounted, traced⟩
  refine ⟨traced.chained, ?_, ?_⟩
  · intro index ticket completion pushed
    rcases traced.answered index ticket completion pushed with ⟨job, taken, whole⟩
    exact ⟨job, popped_accepted accounted taken, whole⟩
  · intro index free
    exact (underway_idle free).mp (traced.underway index)

def saveAda : DbJob :=
  ⟨⟨7, 1⟩, 2, .savePosition, ascii "SAVE_POSITION",
    [ascii "ada", ascii "mage", ascii "12", ascii "8"], false⟩

/-- A registration, a save whose COMMIT fails, and a login on a lost connection. -/
def faultyRun : List Label :=
  [.submit registerAda, .submit saveAda, .submit loginAda,
    .worker 0 .pop, .worker 0 (.connect (.ok ())), .worker 0 (.execute (.goes .asStored)),
    .worker 0 .push, .worker 0 .signal,
    .worker 0 .pop, .worker 0 (.execute (.goes .asStored)),
    .worker 0 (.execute (.goes .asStored)), .worker 0 (.execute (.goes .asStored)),
    .worker 0 (.execute (.fails .query (ascii "disk full"))),
    .worker 0 (.execute (.goes .asStored)), .worker 0 .push, .worker 0 .signal,
    .worker 0 .lose, .worker 0 .pop,
    .worker 0 (.execute (.fails .init (ascii "server has gone away"))), .worker 0 .push]

theorem jobs_all_or_nothing_faulty :
    ∃ pool, run (step Mysql.binary) (Pool.start 1 Tables.empty) faultyRun = some pool ∧
      (pool.pushed.map fun entry => entry.2.2.ok) = [true, false, false] ∧
      Chained Tables.empty (changes Mysql.binary (Pool.start 1 Tables.empty) faultyRun)
        pool.store.tables ∧
      (∀ index ticket completion, (index, ticket, completion) ∈ pool.pushed →
        ∃ job, (ticket, job) ∈ pool.accepted ∧ AllOrNothing Mysql.binary job completion
          (ofJob ticket (changes Mysql.binary (Pool.start 1 Tables.empty) faultyRun))) ∧
      ∀ index, (pool.workers index).holds = none → Closed (pool.workers index) := by
  refine ⟨_, rfl, by decide, ?_⟩
  exact jobs_all_or_nothing (sound_empty Mysql.binary) (rfl : run (step Mysql.binary)
    (Pool.start 1 Tables.empty) faultyRun = some _)

end DungeonPortfolio.Faults
