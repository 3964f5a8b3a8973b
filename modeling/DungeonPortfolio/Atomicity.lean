import DungeonPortfolio.Commands

/-!
# Every job acts in one moment

Other connections may change the tables before each statement of a job, but
player rows are never changed or removed. A job's reply and its effect are those
of its command at one moment of its run: a registration at its INSERT, a login at
its SELECT, a load at its second SELECT, a save at its COMMIT, and an unknown
account or a refused name where it is noticed. With faults the job may also end
in an error without any effect. Transactions are closed at the end in each case.
-/

namespace DungeonPortfolio.Atomicity

open DungeonPortfolio.Text DungeonPortfolio.Dispatcher DungeonPortfolio.Schema
open DungeonPortfolio.Statements DungeonPortfolio.Connection DungeonPortfolio.Commands
open Library

set_option autoImplicit false

/-- What a job can rely on between two of its statements: its connection, the
outcome of the moment it acted in, if it has acted, and player rows that are
there. -/
structure Moment where
  link : Link
  settled : Option (Except StdException Bytes)
  players : List PlayerRow

section

variable (mysql : Mysql) (self : Nat) (faulty : Bool) (job : DbJob)

/-- A save that succeeds acts at its COMMIT. -/
def Timely (statement : Statement) (outcome : Except StdException Bytes) : Prop :=
  ∀ command line, commandOf job = .ok command → command.isSave = true → outcome = .ok line →
    statement = .commit

/-- A statement of the job, after any change by others: it leaves the rows alone
or it is the moment in which the job acts. -/
def calls (statement : Statement) (next : Answer statement.Row → Moment → Prop)
    (now : Moment) : Prop :=
  ∀ store choice order answer after link,
    now.players <+: store.tables.players → Sound mysql store.tables →
    (choice.isFault = true → faulty = true) → choice.Ordered order →
    perform mysql self (store, now.link) statement choice = some (answer, (after, link)) →
      (after.tables = store.tables ∧ next answer ⟨link, now.settled, store.tables.players⟩) ∨
      (now.settled = none ∧ Timely job statement (atomically mysql order store.tables job).1 ∧
        after.tables = (atomically mysql order store.tables job).2 ∧
        next answer ⟨link, some (atomically mysql order store.tables job).1,
          after.tables.players⟩)

def Finished : Except StdException DbCompletion → Moment → Prop
  | .ok completion, now => now.link.transaction = none ∧
      ∃ line, completion = completed job line ∧ now.settled = some (.ok line)
  | .error error, now => now.link.transaction = none ∧
      (now.settled = some (.error error) ∨
        (now.settled = none ∧ commandOf job = .error error) ∨
        (faulty = true ∧ (now.settled = none ∨ job.operation = .loginPlayer)))

end

variable {mysql : Mysql} {self : Nat} {faulty : Bool} {job : DbJob}

theorem calls_monotone : Script.Monotone (calls mysql self faulty job) := by
  intro statement next wider now weaker holds store choice order answer after link known sound
    allowed ordered performed
  rcases holds store choice order answer after link known sound allowed ordered performed with
    ⟨same, continued⟩ | ⟨fresh, timely, acted, continued⟩
  · exact Or.inl ⟨same, weaker _ _ continued⟩
  · exact Or.inr ⟨fresh, timely, acted, weaker _ _ continued⟩

theorem timely_of_error {statement : Statement} {outcome : Except StdException Bytes}
    {error : StdException} (failed : outcome = .error error) : Timely job statement outcome := by
  intro command line _ _ done
  rw [failed] at done
  cases done

theorem timely_of_command {statement : Statement} {outcome : Except StdException Bytes}
    {command : Command} (converted : commandOf job = .ok command)
    (plain : command.isSave = false) : Timely job statement outcome := by
  intro other line same saves _
  rw [converted] at same
  rw [← Except.ok.inj same, plain] at saves
  cases saves

theorem holds_later {Value : Type} {post : Except StdException Value → Moment → Prop}
    (stable : ∀ result link settled players more, post result ⟨link, settled, players⟩ →
      post result ⟨link, settled, more⟩)
    {script : JobScript Value} {link : Link} {settled : Option (Except StdException Bytes)}
    {players more : List PlayerRow}
    (holds : script.Holds (calls mysql self faulty job) post ⟨link, settled, players⟩)
    (grown : players <+: more) :
    script.Holds (calls mysql self faulty job) post ⟨link, settled, more⟩ := by
  cases script with
  | done value => exact stable _ _ _ _ _ holds
  | throws error => exact stable _ _ _ _ _ holds
  | call statement next =>
      intro store choice order answer after link' known sound allowed ordered performed
      exact holds store choice order answer after link' (grown.trans known) sound allowed ordered
        performed

theorem finished_stable (result : Except StdException DbCompletion) (link : Link)
    (settled : Option (Except StdException Bytes)) (players more : List PlayerRow)
    (finished : Finished faulty job result ⟨link, settled, players⟩) :
    Finished faulty job result ⟨link, settled, more⟩ := by
  cases result with
  | ok completion => exact finished
  | error error => exact finished

theorem select_changes_nothing {order : RowOrder} {store after : Store} {link link' : Link}
    {statement : Statement} {answer : Answer statement.Row}
    (select : Stage.storeResult ∈ statement.stages)
    (done : effect mysql self order store link statement = some (answer, (after, link'))) :
    after.tables = store.tables ∧ link' = link := by
  have locked : ∀ id, (store.lock self id link).tables = store.tables := by
    intro id
    unfold Store.lock
    split_ifs <;> rfl
  cases statement with
  | selectPlayer account | selectPlayerId account | selectCharacters account
  | selectItems account =>
      cases done
      exact ⟨rfl, rfl⟩
  | selectPlayerIdForUpdate account =>
      simp only [effect] at done
      split at done
      · cases done
        exact ⟨rfl, rfl⟩
      · split_ifs at done
        cases done
        exact ⟨locked _, rfl⟩
  | begin | commit | rollback | insertPlayer | touchLogin | upsertCharacter | upsertPosition
  | deleteItem | upsertItem => simp [Statement.stages] at select

/-- A statement turns out as the server executes it, or a fault makes it fail
without effect, or a fault cuts its result set short. -/
theorem perform_cases {store after : Store} {link link' : Link} {statement : Statement}
    {choice : Choice} {order : RowOrder} {answer : Answer statement.Row}
    (ordered : choice.Ordered order)
    (performed : perform mysql self (store, link) statement choice = some (answer, (after, link'))) :
    effect mysql self order store link statement = some (answer, (after, link')) ∨
      (choice.isFault = true ∧ statement ≠ .rollback ∧ (∃ stage text, answer = .failed stage text) ∧
        after.tables = store.tables ∧ (link' = link ∨ link' = ⟨false, none⟩)) ∨
      (choice.isFault = true ∧ Stage.storeResult ∈ statement.stages ∧ ∃ count text raw,
        answer = Answer.cut count text raw ∧
          effect mysql self order store link statement = some (raw, (after, link'))) := by
  have fails : ∀ stage : Stage, stage ∈ statement.stages → statement ≠ .rollback := by
    rintro stage reached rfl
    simp [Statement.stages] at reached
  cases choice with
  | goes chosen =>
      cases ordered
      simp only [perform] at performed
      split_ifs at performed
      exact Or.inl performed
  | fails stage text =>
      simp only [perform] at performed
      split_ifs at performed with reached late
      · right
        left
        rcases Option.map_eq_some_iff.mp performed with ⟨⟨raw, later⟩, done, same⟩
        cases same
        have select : Stage.storeResult ∈ statement.stages := by
          have isLate : stage = .bindResult ∨ stage = .storeResult := by simp_all
          revert reached
          rcases isLate with rfl | rfl <;> cases statement <;> simp [Statement.stages]
        have unchanged := select_changes_nothing select done
        exact ⟨rfl, fails stage reached, ⟨stage, text, rfl⟩, unchanged.1, Or.inl unchanged.2⟩
      · right
        left
        cases performed
        exact ⟨rfl, fails stage reached, ⟨stage, text, rfl⟩, rfl, Or.inl rfl⟩
  | breaks chosen count text =>
      cases ordered
      simp only [perform] at performed
      split_ifs at performed with possible
      right
      right
      rcases Option.map_eq_some_iff.mp performed with ⟨⟨raw, later⟩, done, same⟩
      cases same
      have select : Stage.storeResult ∈ statement.stages := by simp_all
      exact ⟨rfl, select, count, text, raw, rfl, done⟩
  | loses stage text =>
      simp only [perform] at performed
      split_ifs at performed with reached
      right
      left
      cases performed
      exact ⟨rfl, fails stage reached, ⟨stage, text, rfl⟩, rfl, Or.inr rfl⟩

section

variable {Value : Type} {post : Except StdException Value → Moment → Prop} {now : Moment}

/-- The tables go from `before` to `after` without the job, or by its acting. -/
def Acts (mysql : Mysql) (job : DbJob) (statement : Statement) (order : RowOrder) (now : Moment)
    (before after : Tables) (next : Option (Except StdException Bytes) → List PlayerRow → Prop) : Prop :=
  (after = before ∧ next now.settled before.players) ∨
    (now.settled = none ∧ Timely job statement (atomically mysql order before job).1 ∧
      after = (atomically mysql order before job).2 ∧ next (some (atomically mysql order before job).1) after.players)

/-- A fault leaves the job with an exception, on its connection or a lost one. -/
def Survives (faulty : Bool) (post : Except StdException Value → Moment → Prop)
    (now : Moment) : Prop :=
  faulty = true → ∀ error link players, (link = now.link ∨ link = ⟨false, none⟩) →
    post (.error error) ⟨link, now.settled, players⟩

theorem calls_of {statement : Statement} {next : Answer statement.Row → Moment → Prop}
    (going : ∀ order store answer after link, now.players <+: store.tables.players →
      Sound mysql store.tables →
      effect mysql self order store now.link statement = some (answer, (after, link)) →
      Acts mysql job statement order now store.tables after.tables fun settled players =>
        next answer ⟨link, settled, players⟩)
    (failing : faulty = true → statement ≠ .rollback → ∀ stage text link players,
      (link = now.link ∨ link = ⟨false, none⟩) →
      next (.failed stage text) ⟨link, now.settled, players⟩)
    (cutting : faulty = true → Stage.storeResult ∈ statement.stages →
      ∀ order store answer after link count text, now.players <+: store.tables.players →
      Sound mysql store.tables →
      effect mysql self order store now.link statement = some (answer, (after, link)) →
      Acts mysql job statement order now store.tables after.tables fun settled players =>
        next (answer.cut count text) ⟨link, settled, players⟩) :
    calls mysql self faulty job statement next now := by
  intro store choice order answer after link known sound allowed ordered performed
  rcases perform_cases ordered performed with done |
    ⟨fault, answered, ⟨stage, text, rfl⟩, same, kept⟩ |
    ⟨fault, select, count, text, raw, rfl, done⟩
  · exact going order store answer after link known sound done
  · exact Or.inl ⟨same, failing (allowed fault) answered stage text link _ kept⟩
  · exact cutting (allowed fault) select order store raw after link count text known sound done

theorem holds_convert {Converted : Type} {result : Except StdException Converted}
    {next : Converted → JobScript Value}
    (bad : ∀ error, result = .error error → post (.error error) now)
    (good : ∀ value, result = .ok value →
      (next value).Holds (calls mysql self faulty job) post now) :
    (convert result >>= next).Holds (calls mysql self faulty job) post now := by
  cases result with
  | ok value => exact good value rfl
  | error error => exact bad error rfl

def verdict (statement : Statement) :
    Answer statement.Row → Except StdException (List statement.Row × Option Bytes)
  | .failed stage text => .error (.runtimeError (errorMessage (context statement stage) text))
  | .duplicate text => .error (.runtimeError (errorMessage (context statement .execute) text))
  | .fetched rows broken => .ok (rows, broken)

theorem holds_executed (statement : Statement)
    (post : Except StdException (List statement.Row × Option Bytes) → Moment → Prop)
    (now : Moment) :
    (executed statement).Holds (calls mysql self faulty job) post now =
      calls mysql self faulty job statement
        (fun answer later => post (verdict statement answer) later) now := by
  have each : (fun answer later => ((match answer with
      | .failed stage text => throwRuntime (errorMessage (context statement stage) text)
      | .duplicate text => throwRuntime (errorMessage (context statement .execute) text)
      | .fetched rows broken => pure (rows, broken) :
        JobScript (List statement.Row × Option Bytes))).Holds
          (calls mysql self faulty job) post later) =
      fun answer later => post (verdict statement answer) later := by
    funext answer later
    cases answer <;> rfl
  rw [← each]
  rfl

theorem holds_execute_prepared {statement : Statement} {post : Except StdException Unit → Moment → Prop} :
    (executePrepared statement).Holds (calls mysql self faulty job) post now =
      calls mysql self faulty job statement
        (fun answer later => post ((verdict statement answer).map fun _ => ()) later) now := by
  unfold executePrepared
  rw [Script.holds_bind, holds_executed]
  have each : (fun answer later => Script.andThen (calls mysql self faulty job) post
      (fun _ => pure ()) (verdict statement answer) later) =
      fun answer later => post ((verdict statement answer).map fun _ => ()) later := by
    funext answer later
    cases answer <;> rfl
  exact congrArg (fun next => calls mysql self faulty job statement next now) each

theorem holds_exec {statement : Statement} {post : Except StdException Unit → Moment → Prop} :
    (exec statement).Holds (calls mysql self faulty job) post now =
      calls mysql self faulty job statement
        (fun answer later => post ((verdict statement answer).map fun _ => ()) later) now :=
  holds_execute_prepared

/-- A SELECT that reads the row of an account. -/
def LooksUp (mysql : Mysql) (self : Nat) (statement : Statement) (account : Bytes)
    (pick : PlayerRow → statement.Row) : Prop :=
  ∀ order store link answer after link',
    effect mysql self order store link statement = some (answer, (after, link')) →
    answer = .fetched (((seen mysql store link).player mysql account).toList.map pick) none ∧
      after.tables = store.tables ∧ link' = link

/-- Of an unknown account the job is told, and that is its outcome. -/
def MissesAccount (mysql : Mysql) (job : DbJob) (account : Bytes) : Prop :=
  ∀ order tables, tables.player mysql account = none → atomically mysql order tables job =
    (.error (.runtimeError (unknownAccount account)), tables)

theorem holds_lookup {statement : Statement} {account : Bytes} {pick : PlayerRow → statement.Row}
    {post : Except StdException statement.Row → Moment → Prop}
    (looks : LooksUp mysql self statement account pick)
    (unwritten : now.link.transaction.getD [] = []) (fresh : now.settled = none)
    (misses : MissesAccount mysql job account)
    (unknown : ∀ players, post (.error (.runtimeError (unknownAccount account)))
      ⟨now.link, some (.error (.runtimeError (unknownAccount account))), players⟩)
    (found : ∀ order tables row, now.players <+: tables.players → Sound mysql tables →
      tables.player mysql account = some row →
      Acts mysql job statement order now tables tables fun settled players =>
        post (.ok (pick row)) ⟨now.link, settled, players⟩)
    (fault : Survives faulty post now) :
    (executed statement >>= fetchOne account).Holds (calls mysql self faulty job) post now := by
  have sees : ∀ store : Store, seen mysql store now.link = store.tables := by
    intro store
    rw [seen, unwritten, apply_all_nil]
  rw [Script.holds_bind, holds_executed]
  apply calls_of
  · intro order store answer after link known sound done
    rcases looks order store now.link answer after link done with ⟨rfl, same, rfl⟩
    rw [sees, same]
    cases there : store.tables.player mysql account with
    | none =>
        right
        have acted := misses order store.tables there
        refine ⟨fresh, timely_of_error (by rw [acted]), ?_, ?_⟩
        · rw [acted]
        · rw [acted]
          exact unknown _
    | some row => exact found order store.tables row known sound there
  · intro faults _ stage text link players kept
    exact fault faults _ link players kept
  · intro faults _ order store answer after link count text known sound done
    rcases looks order store now.link answer after link done with ⟨rfl, same, rfl⟩
    rw [sees, same]
    cases there : store.tables.player mysql account with
    | none =>
        left
        have nothing : ([] : List statement.Row).take count = [] := List.take_nil
        simp only [Option.toList_none, List.map_nil, Answer.cut, nothing]
        exact ⟨trivial, fault faults _ now.link _ (Or.inl rfl)⟩
    | some row =>
        cases count with
        | zero => exact Or.inl ⟨rfl, fault faults _ now.link _ (Or.inl rfl)⟩
        | succ count =>
            have one : [pick row].take (count + 1) = [pick row] := List.take_of_length_le (by simp)
            simp only [Option.toList_some, List.map_cons, List.map_nil, Answer.cut, one]
            exact found order store.tables row known sound there

theorem player_of_known {players : List PlayerRow} {tables : Tables} {account : Bytes}
    {row : PlayerRow} (known : players <+: tables.players)
    (owner : players.find? (isAccount mysql account) = some row) :
    tables.player mysql account = some row := by
  rcases known with ⟨more, grown⟩
  rw [Tables.player, ← grown, List.find?_append, owner]
  rfl

def saving (mysql : Mysql) (tables : Tables) (account : Bytes) (refusal : Option StdException)
    (line : Bytes) (change : Nat → Write) : Except StdException Bytes × Tables :=
  match tables.player mysql account, refusal with
  | none, _ => (.error (.runtimeError (unknownAccount account)), tables)
  | some _, some error => (.error error, tables)
  | some row, none => (.ok line, tables.apply mysql (change row.id))

theorem saving_unknown {tables : Tables} {account line : Bytes} {refusal : Option StdException}
    {change : Nat → Write} (absent : tables.player mysql account = none) :
    saving mysql tables account refusal line change =
      (.error (.runtimeError (unknownAccount account)), tables) := by
  simp only [saving, absent]

theorem saving_refused {tables : Tables} {account line : Bytes} {error : StdException}
    {row : PlayerRow} {change : Nat → Write} (there : tables.player mysql account = some row) :
    saving mysql tables account (some error) line change = (.error error, tables) := by
  simp only [saving, there]

theorem saving_granted {tables : Tables} {account line : Bytes} {row : PlayerRow}
    {change : Nat → Write} (there : tables.player mysql account = some row) :
    saving mysql tables account none line change =
      (.ok line, tables.apply mysql (change row.id)) := by
  simp only [saving, there]

theorem saving_ok_iff {tables after : Tables} {account line done : Bytes}
    {refusal : Option StdException} {change : Nat → Write} :
    saving mysql tables account refusal line change = (.ok done, after) ↔
      ∃ row, tables.player mysql account = some row ∧ refusal = none ∧ done = line ∧
        after = tables.apply mysql (change row.id) := by
  cases there : tables.player mysql account with
  | none =>
      rw [saving_unknown there]
      simp
  | some row =>
      cases refusal with
      | some error =>
          rw [saving_refused there]
          simp
      | none =>
          rw [saving_granted there]
          simp [eq_comm]

/-- What the server makes of the write of a row inside a transaction. -/
def Writes (refusal : Option StdException) (statement : Statement) (change : Write) (link : Link)
    (answer : Answer statement.Row) (link' : Link) : Prop :=
  match refusal with
  | some error => verdict statement answer = .error error ∧ link' = link
  | none => verdict statement answer = .ok ([], none) ∧
      link' = { link with transaction := some [change] }

/-- What the three kinds of save have in common: the write of a row of the
account's player, refused for its arguments or not. -/
structure Saves (mysql : Mysql) (worker : Nat) (job : DbJob) where
  account : Bytes
  statement : Nat → Statement
  change : Nat → Write
  refusal : Option StdException
  line : Bytes
  plain : ∀ id, Stage.storeResult ∉ (statement id).stages
  effects : ∀ (order : RowOrder) (store after : Store) (id : Nat) (link link' : Link)
    (answer : Answer (statement id).Row), link.transaction = some [] →
    (∃ row ∈ store.tables.players, row.id = id) →
    effect mysql worker order store link (statement id) = some (answer, (after, link')) →
    after = store ∧ Writes refusal (statement id) (change id) link answer link'
  meant : ∀ order tables,
    atomically mysql order tables job = saving mysql tables account refusal line change

/-- `begin(); try ... commit(); catch ... rollback` around the lookup and the write. -/
def Saves.script (saves : Saves mysql self job) : JobScript DbCompletion := do
  transaction do
    let playerId ← selectPlayerIdForUpdate saves.account
    executePrepared (saves.statement playerId)
  return completed job saves.line

/-- A save that has not acted, or has been refused, can be rolled back. -/
def Undone (faulty : Bool) (error : StdException) (now : Moment) : Prop :=
  now.settled = some (.error error) ∨ (faulty = true ∧ now.settled = none)

theorem finished_undone {error : StdException} (undone : Undone faulty error now)
    (closed : now.link.transaction = none) : Finished faulty job (.error error) now := by
  refine ⟨closed, ?_⟩
  rcases undone with settled | ⟨fault, fresh⟩
  · exact Or.inl settled
  · exact Or.inr (Or.inr ⟨fault, Or.inl fresh⟩)

abbrev Afterwards (mysql : Mysql) (self : Nat) (faulty : Bool) (job : DbJob) (line : Bytes) :
    Except StdException Unit → Moment → Prop :=
  Script.andThen (calls mysql self faulty job) (Finished faulty job) fun _ =>
    pure (completed job line)

theorem holds_rollback {error : StdException} {line : Bytes} (undone : Undone faulty error now) :
    ((rollbackNoexcept >>= fun _ => .throws error : JobScript Unit)).Holds
      (calls mysql self faulty job) (Afterwards mysql self faulty job line) now := by
  have called : calls mysql self faulty job .rollback
      (fun _ later => Finished faulty job (.error error) later) now := by
    apply calls_of
    · intro order store answer after link known sound done
      cases done
      exact Or.inl ⟨rfl, finished_undone undone rfl⟩
    · intro _ rollback
      exact absurd rfl rollback
    · intro _ select
      simp [Statement.stages] at select
  exact called

variable {saves : Saves mysql self job}

/-- The postcondition inside the try block: COMMIT is still to come. -/
abbrev Inside (saves : Saves mysql self job) (faulty : Bool) :
    Except StdException Unit → Moment → Prop :=
  Script.andThen (calls mysql self faulty job)
    (Script.orElse (calls mysql self faulty job) (Afterwards mysql self faulty job saves.line)
      fun fault => do
        rollbackNoexcept
        .throws fault)
    fun value => do
      exec .commit
      return value

theorem inside_error {error : StdException} (undone : Undone faulty error now) :
    Inside saves faulty (.error error) now := holds_rollback undone

/-- COMMIT is the moment in which a save acts. -/
theorem inside_ok {row : PlayerRow} (fresh : now.settled = none) (granted : saves.refusal = none)
    (owner : now.players.find? (isAccount mysql saves.account) = some row)
    (pending : now.link.transaction = some [saves.change row.id]) :
    Inside saves faulty (.ok ()) now := by
  have called : (exec .commit).Holds (calls mysql self faulty job)
      (Script.andThen (calls mysql self faulty job)
        (Script.orElse (calls mysql self faulty job)
          (Afterwards mysql self faulty job saves.line) fun fault => do
            rollbackNoexcept
            .throws fault)
        fun _ => pure ()) now := by
    rw [holds_exec]
    apply calls_of
    · intro order store answer after link known sound done
      cases done
      have there := player_of_known known owner
      have acted := saves.meant order store.tables
      rw [granted, saving_granted there] at acted
      right
      refine ⟨fresh, fun _ _ _ _ _ => rfl, ?_, ?_⟩
      · rw [acted]
        simp only [commitAll, Store.release, seen, pending, Option.getD_some, apply_all_one]
      · rw [acted]
        exact ⟨rfl, saves.line, rfl, rfl⟩
    · intro faults _ stage text link players kept
      exact holds_rollback (Or.inr ⟨faults, fresh⟩)
    · intro _ select
      simp [Statement.stages] at select
  rw [← Script.holds_bind] at called
  exact called

/-- The write of the row, with the player row found and locked before. -/
theorem holds_write {row : PlayerRow} (fresh : now.settled = none)
    (owner : now.players.find? (isAccount mysql saves.account) = some row)
    (opened : now.link.transaction = some []) :
    (executePrepared (saves.statement row.id)).Holds (calls mysql self faulty job)
      (Inside saves faulty) now := by
  rw [holds_execute_prepared]
  apply calls_of
  · intro order store answer after link known sound done
    have there := player_of_known known owner
    have listed : ∃ other ∈ store.tables.players, other.id = row.id :=
      ⟨row, List.mem_of_find?_eq_some there, rfl⟩
    rcases saves.effects order store after row.id now.link link answer opened listed done with
      ⟨rfl, written⟩
    cases granted : saves.refusal with
    | some error =>
        rw [granted, Writes] at written
        have acted := saves.meant order after.tables
        rw [granted, saving_refused there] at acted
        right
        refine ⟨fresh, timely_of_error (by rw [acted]), ?_, ?_⟩
        · rw [acted]
        · rw [acted, written.1]
          exact inside_error (Or.inl rfl)
    | none =>
        rw [granted, Writes] at written
        left
        refine ⟨rfl, ?_⟩
        rw [written.1, written.2]
        have ready : Inside saves faulty (.ok ())
            ⟨{ now.link with transaction := some [saves.change row.id] }, now.settled,
              after.tables.players⟩ := inside_ok fresh granted there rfl
        exact ready
  · intro faults _ stage text link players kept
    exact inside_error (Or.inr ⟨faults, fresh⟩)
  · intro _ select
    exact absurd select (saves.plain row.id)

theorem looks_up_for_update (mysql : Mysql) (self : Nat) (account : Bytes) :
    LooksUp mysql self (.selectPlayerIdForUpdate account) account PlayerRow.id := by
  intro order store link answer after link' done
  have unchanged := select_changes_nothing (by simp [Statement.stages]) done
  refine ⟨?_, unchanged⟩
  simp only [effect] at done
  split at done
  · rename_i absent
    cases done
    rw [absent]
    rfl
  · rename_i row present
    split_ifs at done
    cases done
    rw [present]
    rfl

theorem misses_account (saves : Saves mysql self job) :
    MissesAccount mysql job saves.account := by
  intro order tables absent
  rw [saves.meant, saving_unknown absent]

theorem holds_saves (saves : Saves mysql self job) (fresh : now.settled = none)
    (closed : now.link.transaction = none) :
    saves.script.Holds (calls mysql self faulty job) (Finished faulty job) now := by
  unfold Saves.script transaction
  rw [Script.holds_bind, Script.holds_bind, holds_exec]
  apply calls_of
  · intro order store answer after link known sound done
    cases done
    left
    refine ⟨by simp [commitAll, Store.release, seen, closed], ?_⟩
    simp only [verdict, Except.map, Script.andThen]
    rw [Script.holds_rescue, Script.holds_bind, Script.holds_bind]
    change (executed (.selectPlayerIdForUpdate saves.account) >>= fetchOne saves.account).Holds
      _ _ _
    refine holds_lookup (looks_up_for_update mysql self saves.account) (by rfl) (by exact fresh)
      (misses_account saves) ?_ ?_ ?_
    · intro players
      exact inside_error (Or.inl rfl)
    · intro order tables row known sound there
      left
      exact ⟨rfl, holds_write fresh there rfl⟩
    · intro faults error link players kept
      exact inside_error (Or.inr ⟨faults, fresh⟩)
  · intro faults _ stage text link players kept
    have ending : Finished faulty job
        (.error (.runtimeError (errorMessage (context .begin stage) text)))
        ⟨link, now.settled, players⟩ := by
      refine finished_undone (by exact Or.inr ⟨faults, fresh⟩) ?_
      rcases kept with rfl | rfl
      · exact closed
      · rfl
    exact ending
  · intro _ select
    simp [Statement.stages] at select

theorem write_row_effects {name : Option Bytes} {change : Write} {id : Nat}
    {store after : Store} {link link' : Link} {answer : Answer Empty}
    (opened : link.transaction = some []) (listed : ∃ row ∈ store.tables.players, row.id = id)
    (done : writeRow mysql self store link id name change = some (answer, (after, link'))) :
    after = store ∧
      (name.any (fun name => !mysql.fits name) = true ∧ link' = link ∧
          answer = .failed .execute (mysql.tooLong (name.getD [])) ∨
        name.any (fun name => !mysql.fits name) = false ∧ answer = .fetched [] none ∧
          link' = { link with transaction := some [change] }) := by
  have present : (seen mysql store link).players.any (fun row => row.id == id) = true := by
    rcases listed with ⟨row, member, rfl⟩
    simp only [seen, opened, Option.getD_some, apply_all_nil, List.any_eq_true]
    exact ⟨row, member, beq_self_eq_true _⟩
  unfold writeRow at done
  cases long : name.any (fun name => !mysql.fits name) with
  | true =>
      rw [long, if_pos rfl] at done
      cases done
      exact ⟨rfl, Or.inl ⟨rfl, rfl, rfl⟩⟩
  | false =>
      rw [long, if_neg Bool.false_ne_true, present, if_pos rfl] at done
      split_ifs at done
      simp only [write, opened] at done
      cases done
      exact ⟨rfl, Or.inr ⟨rfl, rfl, rfl⟩⟩

def refusalOf (mysql : Mysql) (name : Bytes) : Option StdException :=
  if mysql.fits name then none else some (.runtimeError (nameTooLong mysql name))

theorem refusal_of_long {name : Bytes} (long : (some name).any (fun name => !mysql.fits name) = true) :
    refusalOf mysql name = some (.runtimeError (nameTooLong mysql name)) := by
  have unfit : mysql.fits name = false := by simpa using long
  rw [refusalOf, unfit]
  rfl

theorem refusal_of_short {name : Bytes}
    (short : (some name).any (fun name => !mysql.fits name) = false) :
    refusalOf mysql name = none := by
  have fit : mysql.fits name = true := by simpa using short
  rw [refusalOf, fit]
  rfl

theorem saving_of_outcome {command : Command} (converted : commandOf job = .ok command)
    (account line : Bytes) (name : Option Bytes) (change : Nat → Write) (order : RowOrder)
    (tables : Tables)
    (meant : command.outcome mysql order tables = forOwner mysql tables account fun row =>
      if name.any fun name => !mysql.fits name then refused (nameTooLong mysql (name.getD []))
      else (.ok line, some (change row.id))) :
    atomically mysql order tables job =
      saving mysql tables account (name.bind (refusalOf mysql)) line change := by
  unfold atomically
  rw [converted]
  simp only [meant, forOwner]
  cases there : tables.player mysql account with
  | none =>
      rw [saving_unknown there]
      rfl
  | some row =>
      cases name with
      | none =>
          rw [Option.bind_none, saving_granted there]
          rfl
      | some name =>
          cases long : (some name).any (fun name => !mysql.fits name) with
          | true =>
              rw [Option.bind_some, refusal_of_long long, saving_refused there]
              rfl
          | false =>
              rw [Option.bind_some, refusal_of_short long, saving_granted there]
              rfl

theorem atomically_save (mysql : Mysql) {account character : Bytes} {level gold : Nat}
    (converted : commandOf job = .ok (.save account character level gold)) (order : RowOrder)
    (tables : Tables) :
    atomically mysql order tables job = saving mysql tables account (refusalOf mysql character)
      (saveLine account character level gold) fun id => .character id character level gold :=
  saving_of_outcome converted account _ (some character) _ order tables (by
    simp [Command.outcome])

theorem atomically_save_position (mysql : Mysql) {account character : Bytes} {x y : Int32}
    (converted : commandOf job = .ok (.savePosition account character x y)) (order : RowOrder)
    (tables : Tables) :
    atomically mysql order tables job = saving mysql tables account (refusalOf mysql character)
      (savePositionLine account character x y) fun id => .position id character x y :=
  saving_of_outcome converted account _ (some character) _ order tables (by
    simp [Command.outcome])

theorem atomically_save_item (mysql : Mysql) {account : Bytes} {slot itemId count : Nat}
    (converted : commandOf job = .ok (.saveItem account slot itemId count)) (order : RowOrder)
    (tables : Tables) :
    atomically mysql order tables job = saving mysql tables account none
      (saveItemLine account slot itemId count) fun id =>
        if count = 0 then .clear id slot else .item id slot itemId count :=
  saving_of_outcome converted account _ none _ order tables (by
    simp [Command.outcome])

def savesCharacter {account character : Bytes} {level gold : Nat}
    (converted : commandOf job = .ok (.save account character level gold)) :
    Saves mysql self job where
  account := account
  statement id := .upsertCharacter id character level gold
  change id := .character id character level gold
  refusal := refusalOf mysql character
  line := saveLine account character level gold
  plain := by
    intro id
    simp [Statement.stages]
  effects := by
    intro order store after id link link' answer opened listed done
    rcases write_row_effects opened listed done with ⟨rfl, ⟨long, rfl, rfl⟩ | ⟨short, rfl, rfl⟩⟩
    · rw [refusal_of_long long]
      exact ⟨rfl, rfl, rfl⟩
    · rw [refusal_of_short short]
      exact ⟨rfl, rfl, rfl⟩
  meant := atomically_save mysql converted

def savesPosition {account character : Bytes} {x y : Int32}
    (converted : commandOf job = .ok (.savePosition account character x y)) :
    Saves mysql self job where
  account := account
  statement id := .upsertPosition id character x y
  change id := .position id character x y
  refusal := refusalOf mysql character
  line := savePositionLine account character x y
  plain := by
    intro id
    simp [Statement.stages]
  effects := by
    intro order store after id link link' answer opened listed done
    rcases write_row_effects opened listed done with ⟨rfl, ⟨long, rfl, rfl⟩ | ⟨short, rfl, rfl⟩⟩
    · rw [refusal_of_long long]
      exact ⟨rfl, rfl, rfl⟩
    · rw [refusal_of_short short]
      exact ⟨rfl, rfl, rfl⟩
  meant := atomically_save_position mysql converted

/-- `save_inventory_item` with a count that is not zero. -/
def savesItem {account : Bytes} {slot itemId count : Nat} (stays : count ≠ 0)
    (converted : commandOf job = .ok (.saveItem account slot itemId count)) :
    Saves mysql self job where
  account := account
  statement id := .upsertItem id slot itemId count
  change id := .item id slot itemId count
  refusal := none
  line := saveItemLine account slot itemId count
  plain := by
    intro id
    simp [Statement.stages]
  effects := by
    intro order store after id link link' answer opened listed done
    rcases write_row_effects opened listed done with ⟨rfl, ⟨long, _⟩ | ⟨_, rfl, rfl⟩⟩
    · cases long
    · exact ⟨rfl, rfl, rfl⟩
  meant := by
    intro order tables
    rw [atomically_save_item mysql converted]
    simp only [stays, if_false]

/-- `save_inventory_item` with the count zero. -/
def clearsItem {account : Bytes} {slot itemId : Nat}
    (converted : commandOf job = .ok (.saveItem account slot itemId 0)) :
    Saves mysql self job where
  account := account
  statement id := .deleteItem id slot
  change id := .clear id slot
  refusal := none
  line := saveItemLine account slot itemId 0
  plain := by
    intro id
    simp [Statement.stages]
  effects := by
    intro order store after id link link' answer opened listed done
    simp only [effect, write, opened] at done
    cases done
    exact ⟨rfl, rfl, rfl⟩
  meant := by
    intro order tables
    rw [atomically_save_item mysql converted]
    simp only [if_true]

theorem survives_finished (fresh : now.settled = none) (closed : now.link.transaction = none) :
    Survives faulty (Finished faulty job) now := by
  intro faults error link players kept
  refine finished_undone (by exact Or.inr ⟨faults, fresh⟩) ?_
  rcases kept with rfl | rfl
  · exact closed
  · rfl

theorem holds_converted {Converted : Type} {result : Except StdException Converted}
    {rest : Converted → Except StdException Command} {next : Converted → JobScript DbCompletion}
    (fresh : now.settled = none) (closed : now.link.transaction = none)
    (whole : commandOf job = result >>= rest)
    (good : ∀ value, commandOf job = rest value →
      (next value).Holds (calls mysql self faulty job) (Finished faulty job) now) :
    (convert result >>= next).Holds (calls mysql self faulty job) (Finished faulty job) now := by
  apply holds_convert
  · rintro error rfl
    exact ⟨closed, Or.inr (Or.inl ⟨fresh, whole⟩)⟩
  · rintro value rfl
    exact good value whole

def registered (job : DbJob) (account displayName : Bytes) :
    Answer Empty → Except StdException DbCompletion
  | .failed stage text => .error (.runtimeError
      (errorMessage (context (.insertPlayer account displayName) stage) text))
  | .duplicate _ => .error (.runtimeError (ascii "account already exists: " ++ account))
  | .fetched _ _ => .ok (completed job (registerLine account displayName))

theorem holds_register {account displayName : Bytes} (fresh : now.settled = none)
    (closed : now.link.transaction = none)
    (converted : commandOf job = .ok (.register account displayName)) :
    calls mysql self faulty job (.insertPlayer account displayName)
      (fun answer later => Finished faulty job (registered job account displayName answer) later)
      now := by
  apply calls_of
  · intro order store answer after link known sound done
    have sees : seen mysql store now.link = store.tables := by
      rw [seen, closed]
      rfl
    have acted : atomically mysql order store.tables job =
        (((Command.register account displayName).outcome mysql order store.tables).1,
          Tables.change mysql store.tables
            ((Command.register account displayName).outcome mysql order store.tables).2) := by
      unfold atomically
      rw [converted]
    right
    refine ⟨fresh, timely_of_command converted rfl, ?_⟩
    simp only [effect, sees, write, closed] at done
    rw [acted]
    simp only [Command.outcome]
    cases found : store.tables.player mysql account with
    | none =>
        simp only [found, Option.isSome_none, Bool.false_eq_true, if_false] at done ⊢
        split_ifs at done ⊢
        · cases done
          exact ⟨rfl, closed, Or.inl rfl⟩
        · cases done
          exact ⟨rfl, closed, Or.inl rfl⟩
        · cases done
          exact ⟨rfl, closed, _, rfl, rfl⟩
    | some row =>
        simp only [found, Option.isSome_some, if_true] at done ⊢
        split_ifs at done ⊢ <;> cases done <;> exact ⟨rfl, closed, Or.inl rfl⟩
  · intro faults _ stage text link players kept
    exact survives_finished fresh closed faults _ link players kept
  · intro _ select
    simp [Statement.stages] at select

theorem looks_up_player (mysql : Mysql) (self : Nat) (account : Bytes) :
    LooksUp mysql self (.selectPlayer account) account fun row => (row.id, row.displayName) := by
  intro order store link answer after link' done
  cases done
  exact ⟨rfl, rfl, rfl⟩

theorem looks_up_id (mysql : Mysql) (self : Nat) (account : Bytes) :
    LooksUp mysql self (.selectPlayerId account) account PlayerRow.id := by
  intro order store link answer after link' done
  cases done
  exact ⟨rfl, rfl, rfl⟩

theorem misses_of_outcome {command : Command} {account : Bytes}
    {act : RowOrder → Tables → PlayerRow → Outcome} (converted : commandOf job = .ok command)
    (meant : ∀ order tables, command.outcome mysql order tables =
      forOwner mysql tables account (act order tables)) : MissesAccount mysql job account := by
  intro order tables absent
  unfold atomically
  rw [converted]
  simp only [meant, forOwner, absent]
  rfl

theorem atomically_of_owner {command : Command} {account : Bytes}
    {act : RowOrder → Tables → PlayerRow → Outcome} {order : RowOrder} {tables : Tables}
    {row : PlayerRow} (converted : commandOf job = .ok command)
    (meant : ∀ order tables, command.outcome mysql order tables =
      forOwner mysql tables account (act order tables))
    (there : tables.player mysql account = some row) :
    atomically mysql order tables job =
      ((act order tables row).1, Tables.change mysql tables (act order tables row).2) := by
  unfold atomically
  rw [converted]
  simp only [meant, forOwner, there]

/-- LOGIN acts at its SELECT; its UPDATE changes a timestamp only. -/
theorem holds_login {account : Bytes} (fresh : now.settled = none)
    (closed : now.link.transaction = none) (converted : commandOf job = .ok (.login account))
    (kind : job.operation = .loginPlayer) :
    (executed (.selectPlayer account) >>= fetchOne account).Holds (calls mysql self faulty job)
      (Script.andThen (calls mysql self faulty job) (Finished faulty job) fun found =>
        if nameBuffer < found.2.length then
          throwRuntime (ascii "invalid player row for account: " ++ account)
        else do
          executePrepared (.touchLogin found.1)
          return completed job (loginLine found.1 account found.2)) now := by
  have meant : ∀ order tables, (Command.login account).outcome mysql order tables =
      forOwner mysql tables account fun row =>
        if nameBuffer < row.displayName.length then
          refused (ascii "invalid player row for account: " ++ account)
        else (.ok (loginLine row.id account row.displayName), none) := fun _ _ => rfl
  refine holds_lookup (looks_up_player mysql self account) (by rw [closed]; rfl) fresh
    (misses_of_outcome converted meant) ?_ ?_ ?_
  · intro players
    exact ⟨closed, Or.inl rfl⟩
  · intro order tables row known sound there
    right
    refine ⟨fresh, timely_of_command converted rfl, ?_⟩
    rw [atomically_of_owner converted meant there]
    by_cases long : nameBuffer < row.displayName.length
    · rw [if_pos long]
      simp only [Script.andThen, if_pos long]
      exact ⟨rfl, closed, Or.inl rfl⟩
    · rw [if_neg long]
      simp only [Script.andThen, if_neg long]
      refine ⟨rfl, ?_⟩
      rw [Script.holds_bind, holds_execute_prepared]
      apply calls_of
      · intro order store answer after link known sound done
        simp only [effect] at done
        split_ifs at done
        cases done
        refine Or.inl ⟨?_, closed, _, rfl, rfl⟩
        unfold Store.lock
        split_ifs <;> rfl
      · intro faults _ stage text link players kept
        refine ⟨?_, Or.inr (Or.inr ⟨faults, Or.inr kind⟩)⟩
        rcases kept with rfl | rfl
        · exact closed
        · rfl
      · intro _ select
        simp [Statement.stages] at select
  · intro faults error link players kept
    exact survives_finished fresh closed faults error link players kept

theorem holds_characters_broken {post : Except StdException (List Bytes) → Moment → Prop}
    (thrown : ∀ error, post (.error error) now) (account : Bytes) (rows : List Character)
    (text : Bytes) :
    (fetchCharacters account rows (some text)).Holds (calls mysql self faulty job) post now := by
  induction rows generalizing post with
  | nil => exact thrown _
  | cons row rest ih =>
      unfold fetchCharacters
      split_ifs
      · exact thrown _
      · rw [Script.holds_bind]
        apply ih
        exact thrown

theorem fetch_characters_whole (account : Bytes) (rows : List Character) :
    fetchCharacters account rows none =
      if rows.any fun row => decide (nameBuffer < row.name.length) then
        throwRuntime (ascii "invalid character row for account: " ++ account)
      else pure (rows.map characterText) := by
  induction rows with
  | nil => rfl
  | cons row rest ih =>
      unfold fetchCharacters
      by_cases long : nameBuffer < row.name.length
      · simp [long]
      · rw [if_neg long, ih]
        cases later : rest.any fun row => decide (nameBuffer < row.name.length) with
        | true => simp [long, later, throwRuntime]
        | false => simp [long, later]

theorem holds_items_broken {post : Except StdException (List Bytes) → Moment → Prop}
    (thrown : ∀ error, post (.error error) now) (rows : List Item) (text : Bytes) :
    (fetchItems rows (some text)).Holds (calls mysql self faulty job) post now := by
  induction rows generalizing post with
  | nil => exact thrown _
  | cons row rest ih =>
      unfold fetchItems
      rw [Script.holds_bind]
      apply ih
      exact thrown

theorem fetch_items_whole (rows : List Item) :
    fetchItems rows none = pure (rows.map itemText) := by
  induction rows with
  | nil => rfl
  | cons row rest ih =>
      unfold fetchItems
      rw [ih]
      rfl

/-- LOAD acts at its second SELECT. -/
theorem holds_load {account : Bytes} (fresh : now.settled = none)
    (closed : now.link.transaction = none) (converted : commandOf job = .ok (.load account)) :
    (selectPlayerId account).Holds (calls mysql self faulty job)
      (Script.andThen (calls mysql self faulty job) (Finished faulty job) fun _ => do
        let (rows, broken) ← executed (.selectCharacters account)
        let characters ← fetchCharacters account rows broken
        return completed job (loadLine account characters)) now := by
  have meant : ∀ order tables, (Command.load account).outcome mysql order tables =
      forOwner mysql tables account fun row =>
        if (charactersListed order tables row.id).any
            fun character => decide (nameBuffer < character.name.length) then
          refused (ascii "invalid character row for account: " ++ account)
        else (.ok (loadLine account ((charactersListed order tables row.id).map characterText)),
          none) := fun _ _ => rfl
  refine holds_lookup (looks_up_id mysql self account) (by rw [closed]; rfl) fresh
    (misses_of_outcome converted meant) ?_ ?_ ?_
  · intro players
    exact ⟨closed, Or.inl rfl⟩
  · intro order tables row known sound there
    left
    refine ⟨rfl, ?_⟩
    simp only [Script.andThen]
    rw [Script.holds_bind, holds_executed]
    apply calls_of
    · intro order store answer after link known sound done
      have present : (seen mysql store now.link).player mysql account = some row := by
        rw [seen, closed]
        exact player_of_known known there
      have sees : seen mysql store now.link = store.tables := by
        rw [seen, closed]
        rfl
      simp only [effect, present] at done
      cases done
      right
      refine ⟨fresh, timely_of_command converted rfl, ?_⟩
      rw [sees] at present ⊢
      rw [atomically_of_owner converted meant present]
      simp only [verdict, Script.andThen]
      rw [Script.holds_bind, fetch_characters_whole]
      cases long : (charactersListed order store.tables row.id).any
          fun character => decide (nameBuffer < character.name.length) with
      | true =>
          simp only [charactersListed] at long
          simp only [long, if_true]
          exact ⟨rfl, closed, Or.inl rfl⟩
      | false =>
          simp only [charactersListed] at long
          simp only [long]
          exact ⟨rfl, closed, _, rfl, rfl⟩
    · intro faults _ stage text link players kept
      exact survives_finished fresh closed faults _ link players kept
    · intro faults select order store answer after link count text known sound done
      rcases select_changes_nothing select done with ⟨same, rfl⟩
      left
      refine ⟨same, ?_⟩
      simp only [effect] at done
      cases done
      simp only [Answer.cut, verdict, Script.andThen]
      rw [Script.holds_bind]
      apply holds_characters_broken
      intro error
      exact survives_finished fresh closed faults error _ _ (Or.inl rfl)
  · intro faults error link players kept
    exact survives_finished fresh closed faults error link players kept

/-- LOAD_INVENTORY acts at its second SELECT. -/
theorem holds_load_inventory {account : Bytes} (fresh : now.settled = none)
    (closed : now.link.transaction = none)
    (converted : commandOf job = .ok (.loadInventory account)) :
    (selectPlayerId account).Holds (calls mysql self faulty job)
      (Script.andThen (calls mysql self faulty job) (Finished faulty job) fun _ => do
        let (rows, broken) ← executed (.selectItems account)
        let items ← fetchItems rows broken
        return completed job (loadInventoryLine account items)) now := by
  have meant : ∀ order tables, (Command.loadInventory account).outcome mysql order tables =
      forOwner mysql tables account fun row =>
        (.ok (loadInventoryLine account ((itemsListed tables row.id).map itemText)), none) :=
    fun _ _ => rfl
  refine holds_lookup (looks_up_id mysql self account) (by rw [closed]; rfl) fresh
    (misses_of_outcome converted meant) ?_ ?_ ?_
  · intro players
    exact ⟨closed, Or.inl rfl⟩
  · intro order tables row known sound there
    left
    refine ⟨rfl, ?_⟩
    simp only [Script.andThen]
    rw [Script.holds_bind, holds_executed]
    apply calls_of
    · intro order store answer after link known sound done
      have sees : seen mysql store now.link = store.tables := by
        rw [seen, closed]
        rfl
      have present := player_of_known known there
      simp only [effect, sees, present] at done
      cases done
      right
      refine ⟨fresh, timely_of_command converted rfl, ?_⟩
      rw [atomically_of_owner converted meant present]
      simp only [verdict, Script.andThen]
      rw [Script.holds_bind, fetch_items_whole]
      exact ⟨rfl, closed, _, rfl, rfl⟩
    · intro faults _ stage text link players kept
      exact survives_finished fresh closed faults _ link players kept
    · intro faults select order store answer after link count text known sound done
      rcases select_changes_nothing select done with ⟨same, rfl⟩
      left
      refine ⟨same, ?_⟩
      simp only [effect] at done
      cases done
      simp only [Answer.cut, verdict, Script.andThen]
      rw [Script.holds_bind]
      apply holds_items_broken
      intro error
      exact survives_finished fresh closed faults error _ _ (Or.inl rfl)
  · intro faults error link players kept
    exact survives_finished fresh closed faults error link players kept

/-- Whatever others do in between and whichever calls fail, a job acts in one
moment or ends in an error without effect. -/
theorem holds_job (fresh : now.settled = none) (closed : now.link.transaction = none) :
    (executeJob job).Holds (calls mysql self faulty job) (Finished faulty job) now := by
  unfold executeJob
  cases kind : job.operation with
  | registerPlayer =>
      apply holds_converted fresh closed (by simp only [commandOf, kind]; rfl)
      intro account whole
      apply holds_converted fresh closed whole
      intro displayName whole
      apply calls_monotone _ _ _ _ _ (holds_register fresh closed whole)
      intro answer later finished
      cases answer <;> exact finished
  | loginPlayer =>
      apply holds_converted fresh closed (by simp only [commandOf, kind]; rfl)
      intro account whole
      rw [← Script.bind_assoc (executed (.selectPlayer account)) (fetchOne account),
        Script.holds_bind]
      exact holds_login fresh closed whole kind
  | saveCharacter =>
      apply holds_converted fresh closed (by simp only [commandOf, kind]; rfl)
      intro account whole
      apply holds_converted fresh closed whole
      intro character whole
      apply holds_converted fresh closed whole
      intro level whole
      apply holds_converted fresh closed whole
      intro gold whole
      exact holds_saves (savesCharacter whole) fresh closed
  | loadCharacters =>
      apply holds_converted fresh closed (by simp only [commandOf, kind]; rfl)
      intro account whole
      rw [Script.holds_bind]
      exact holds_load fresh closed whole
  | saveInventoryItem =>
      apply holds_converted fresh closed (by simp only [commandOf, kind]; rfl)
      intro account whole
      apply holds_converted fresh closed whole
      intro slot whole
      apply holds_converted fresh closed whole
      intro itemId whole
      apply holds_converted fresh closed whole
      intro count whole
      by_cases zero : toUInt32 count = 0
      · simp only [zero, if_true] at whole ⊢
        exact holds_saves (clearsItem whole) fresh closed
      · simp only [zero, if_false]
        exact holds_saves (savesItem zero whole) fresh closed
  | loadInventory =>
      apply holds_converted fresh closed (by simp only [commandOf, kind]; rfl)
      intro account whole
      rw [Script.holds_bind]
      exact holds_load_inventory fresh closed whole
  | savePosition =>
      apply holds_converted fresh closed (by simp only [commandOf, kind]; rfl)
      intro account whole
      apply holds_converted fresh closed whole
      intro character whole
      apply holds_converted fresh closed whole
      intro x whole
      apply holds_converted fresh closed whole
      intro y whole
      exact holds_saves (savesPosition whole) fresh closed

end

end DungeonPortfolio.Atomicity
