import DungeonPortfolio.Faults
import DungeonPortfolio.Submissions

/-!
# The tables stay in order

The schema declares keys, column types and owners, but no check on a stack count, and
it takes any text for a name, while LOGIN and the LOAD commands print names as they are
stored. That a reader can rely on the tables is due to the program: whatever its
clients send, whichever calls fail and whenever a connection is lost, between any two
statements every row is owned, typed and named as its readers expect, no item is kept
with a count of zero, and no account and no character is ever removed.
-/

namespace DungeonPortfolio.Integrity

open DungeonPortfolio.Text DungeonPortfolio.Protocol DungeonPortfolio.Dispatcher
open DungeonPortfolio.Schema DungeonPortfolio.Statements DungeonPortfolio.Connection
open DungeonPortfolio.Commands DungeonPortfolio.Workers DungeonPortfolio.ExactlyOnce
open DungeonPortfolio.Linearized DungeonPortfolio.Faults DungeonPortfolio.Program
open DungeonPortfolio.Submissions
open DungeonPortfolio.EndToEnd (submittedIn pool_records)
open DungeonPortfolio.Server (ServerConfig)
open Library.Execution Library.Simulation Library.Upsert

set_option autoImplicit false

/-- A name that its column holds and that a reader of a line can cut out. -/
def Storable (mysql : Mysql) (name : Bytes) : Prop := mysql.fits name = true ∧ IsToken name

def Owned (tables : Tables) (playerId : Nat) : Prop := ∃ row ∈ tables.players, row.id = playerId

structure Intact (mysql : Mysql) (tables : Tables) : Prop where
  keys : Sound mysql tables
  types : ColumnTypes tables
  characterOwners : ∀ row ∈ tables.characters, Owned tables row.playerId
  itemOwners : ∀ row ∈ tables.inventoryItems, Owned tables row.playerId
  accounts : ∀ row ∈ tables.players, Storable mysql row.account ∧ Storable mysql row.displayName
  characters : ∀ row ∈ tables.characters, Storable mysql row.name
  counts : ∀ row ∈ tables.inventoryItems, row.stackCount ≠ 0

theorem intact_empty (mysql : Mysql) : Intact mysql Tables.empty :=
  ⟨sound_empty mysql, ⟨nofun, nofun, nofun, nofun, nofun⟩, nofun, nofun, nofun, nofun, nofun⟩

def characterKey (row : CharacterRow) : Nat × Bytes := (row.playerId, row.name)

/-- No player loses its id, account or display name, and no character is removed or
renamed. -/
structure Grown (before after : Tables) : Prop where
  players : before.players <+: after.players
  characters : before.characters.map characterKey <+: after.characters.map characterKey

theorem grown_refl (tables : Tables) : Grown tables tables :=
  ⟨List.prefix_refl _, List.prefix_refl _⟩

theorem Grown.trans {first second third : Tables} (before : Grown first second)
    (after : Grown second third) : Grown first third :=
  ⟨before.players.trans after.players, before.characters.trans after.characters⟩

section

variable {mysql : Mysql} {tables : Tables}

def Proper (mysql : Mysql) (tables : Tables) : Write → Prop
  | .player account displayName => Storable mysql account ∧ Storable mysql displayName
  | .character playerId name _ _ | .position playerId name _ _ =>
      Owned tables playerId ∧ Storable mysql name
  | .item playerId _ _ count => Owned tables playerId ∧ count ≠ 0
  | .spentId | .clear _ _ => True

theorem Owned.later {before after : Tables} {playerId : Nat} (owned : Owned before playerId)
    (grown : before.players <+: after.players) : Owned after playerId := by
  rcases owned with ⟨row, listed, rfl⟩
  exact ⟨row, grown.subset listed, rfl⟩

theorem intact_apply (intact : Intact mysql tables) {write : Write}
    (allowed : Allowed mysql tables write) (range : write.InRange)
    (proper : Proper mysql tables write) : Intact mysql (tables.apply mysql write) := by
  have keys := sound_apply intact.keys allowed
  have types : ColumnTypes (tables.apply mysql write) := typed_apply intact.types range
  have grown := @players_apply mysql tables write
  cases write with
  | player account displayName =>
      refine ⟨keys, types, ?_, ?_, ?_, intact.characters, intact.counts⟩
      · intro row listed
        exact (intact.characterOwners row listed).later grown
      · intro row listed
        exact (intact.itemOwners row listed).later grown
      · intro row listed
        rcases List.mem_append.mp listed with before | new
        · exact intact.accounts row before
        · rw [List.mem_singleton.mp new]
          exact proper
  | spentId =>
      exact ⟨keys, types, intact.characterOwners, intact.itemOwners, intact.accounts,
        intact.characters, intact.counts⟩
  | character playerId name level gold | position playerId name x y =>
      exact ⟨keys, types, upsert_all _ intact.characterOwners proper.1 (fun _ owned => owned),
        intact.itemOwners, intact.accounts,
        upsert_all _ intact.characters proper.2 (fun _ named => named), intact.counts⟩
  | item playerId slot itemId count =>
      exact ⟨keys, types, intact.characterOwners,
        upsert_all _ intact.itemOwners proper.1 (fun _ owned => owned), intact.accounts,
        intact.characters, upsert_all _ intact.counts proper.2 (fun _ _ => proper.2)⟩
  | clear playerId slot =>
      refine ⟨keys, types, intact.characterOwners, ?_, intact.accounts, intact.characters, ?_⟩
      · intro row listed
        exact intact.itemOwners row (List.mem_filter.mp listed).1
      · intro row listed
        exact intact.counts row (List.mem_filter.mp listed).1

theorem grown_apply (tables : Tables) (write : Write) : Grown tables (tables.apply mysql write) := by
  refine ⟨players_apply tables write, ?_⟩
  cases write with
  | player | spentId | item | clear => exact List.prefix_refl _
  | character playerId name level gold | position playerId name x y =>
      apply upsert_keys
      intro row
      rfl

theorem atomically_wrote (order : RowOrder) (tables : Tables) (job : DbJob) :
    (atomically mysql order tables job).2 = tables ∨
      ∃ command line written, commandOf job = .ok command ∧
        command.outcome mysql order tables = (line, some written) ∧
        (atomically mysql order tables job).2 = tables.apply mysql written := by
  unfold atomically
  cases converted : commandOf job with
  | error error => exact Or.inl rfl
  | ok command =>
      rcases meant : command.outcome mysql order tables with ⟨line, written⟩
      cases written with
      | none =>
          left
          simp only [meant, Tables.change]
      | some write =>
          right
          exact ⟨command, line, write, rfl, meant, by simp only [meant, Tables.change]⟩

theorem owned_of_player {account : Bytes} {row : PlayerRow}
    (there : tables.player mysql account = some row) : Owned tables row.id :=
  ⟨row, List.mem_of_find?_eq_some there, rfl⟩

theorem register_fits {order : RowOrder} {account displayName : Bytes}
    {line : Except StdException Bytes} {name display : Bytes}
    (meant : (Command.register account displayName).outcome mysql order tables =
      (line, some (.player name display))) :
    mysql.fits account = true ∧ mysql.fits displayName = true := by
  simp only [Command.outcome, refused] at meant
  split_ifs at meant with first second
  · cases meant
  · cases meant
  · cases meant
  · exact ⟨by simpa using first, by simpa using second⟩

theorem proper_of_outcome {order : RowOrder} {command : Command} {line : Except StdException Bytes}
    {written : Write} (worded : Worded command)
    (meant : command.outcome mysql order tables = (line, some written)) :
    Proper mysql tables written := by
  have writes := outcome_writes meant
  cases command with
  | register account displayName =>
      rcases writes with ⟨_, _, rfl⟩ | ⟨_, _, rfl⟩
      · trivial
      · have fits := register_fits meant
        exact ⟨⟨fits.1, worded.1⟩, fits.2, worded.2⟩
  | login account | load account | loadInventory account => cases writes
  | save account character level gold | savePosition account character x y =>
      rcases writes with ⟨row, there, fits, _, rfl⟩
      exact ⟨owned_of_player there, fits, worded.2⟩
  | saveItem account slot itemId count =>
      rcases writes with ⟨row, there, _, rfl⟩
      split_ifs with nothing
      · trivial
      · exact ⟨owned_of_player there, nothing⟩

theorem intact_atomically (intact : Intact mysql tables) (order : RowOrder) {job : DbJob}
    (understood : Understood job) : Intact mysql (atomically mysql order tables job).2 := by
  rcases atomically_wrote order tables job with same | ⟨command, line, written, converted, meant, same⟩
  · rw [same]
    exact intact
  · have writes := outcome_writes meant
    rw [same]
    exact intact_apply intact (writes_allowed writes)
      (writes_in_range (command_in_range converted) writes)
      (proper_of_outcome (understood.worded command converted) meant)

theorem grown_atomically (order : RowOrder) (job : DbJob) :
    Grown tables (atomically mysql order tables job).2 := by
  rcases atomically_wrote order tables job with same | ⟨_, _, written, _, _, same⟩
  · rw [same]
    exact grown_refl tables
  · rw [same]
    exact grown_apply tables written

/-- A step leaves the tables alone, or the job of its worker has its effect on them. -/
theorem tables_step {pool after : Pool} {done : List Change} {label : Workers.Label}
    (traced : Traced mysql tables pool done) (taken : Workers.step mysql pool label = some after) :
    after.store.tables = pool.store.tables ∨
      ∃ index popped order, (pool.workers index).holds = some popped ∧
        after.store.tables = (atomically mysql order pool.store.tables popped.job).2 := by
  cases label with
  | submit | close | drainEvents =>
      cases taken
      exact Or.inl rfl
  | join =>
      rcases Pool.join_cases taken with ⟨_, rfl⟩
      exact Or.inl rfl
  | popCompletion =>
      cases taken
      left
      unfold Pool.popCompletion
      cases pool.completions with
      | nil | cons => rfl
  | worker index chosen =>
      simp only [Workers.step] at taken
      split_ifs at taken
      cases chosen with
      | pop =>
          rcases Pool.pop_cases taken with ⟨_, ⟨_, _, rfl⟩ | ⟨job, rest, phase, _, _, rfl⟩⟩ <;>
            exact Or.inl rfl
      | connect outcome =>
          rcases Pool.connect_cases taken with ⟨popped, _, ⟨_, rfl⟩ | ⟨error, _, rfl⟩⟩ <;>
            exact Or.inl rfl
      | execute choice =>
          rcases Pool.execute_cases taken with
            ⟨popped, statement, next, link, answer, store, later, busy, connected, performed, rfl⟩
          have underway := traced.underway index
          rw [Underway, busy] at underway
          rcases underway with ⟨missing, _⟩ | ⟨before, settled, same, holds, _⟩
          · cases connected.symm.trans missing
          · obtain rfl := Option.some.inj (connected.symm.trans same)
            rcases holds pool.store choice (orderOf choice) answer store later (List.prefix_refl _)
              traced.sound (fun _ => rfl) (ordered_of choice) performed with
              ⟨unchanged, _⟩ | ⟨_, _, acted, _⟩
            · exact Or.inl unchanged
            · have held : (pool.workers index).holds = some popped := by
                rw [Worker.holds, busy]
              exact Or.inr ⟨index, popped, orderOf choice, held, acted⟩
      | push =>
          rcases Pool.push_cases taken with ⟨popped, script, result, _, _, rfl⟩
          exact Or.inl rfl
      | signal =>
          rcases Pool.signal_cases taken with ⟨_, rfl⟩
          exact Or.inl rfl
      | lose =>
          rcases Pool.lose_cases taken with ⟨link, _, rfl⟩
          exact Or.inl rfl

/-- What every accepted job keeps, every run keeps, whatever fails in it. -/
theorem tables_keep {property : Tables → Prop} {fair : DbJob → Prop} {poolSize : Nat}
    {labels more : List Workers.Label} {middle last : Pool} (sound : Sound mysql tables)
    (ran : run (Workers.step mysql) (Pool.start poolSize tables) labels = some middle)
    (later : run (Workers.step mysql) middle more = some last)
    (fairly : ∀ entry ∈ last.accepted, fair entry.2)
    (kept : ∀ order before job, fair job → property before →
      property (atomically mysql order before job).2)
    (begins : property middle.store.tables) : property last.store.tables := by
  induction more using List.reverseRecOn generalizing last with
  | nil =>
      cases later
      exact begins
  | append_singleton more label ih =>
      rcases (run_snoc_eq_some _).mp later with ⟨source, earlier, taken⟩
      have reached : run (Workers.step mysql) (Pool.start poolSize tables) (labels ++ more) =
          some source := by
        rw [run_append, ran]
        exact earlier
      rcases traced_run sound reached with ⟨accounted, traced⟩
      rcases pool_records taken with ⟨event, history⟩
      have before : ∀ entry ∈ source.accepted, fair entry.2 := by
        intro entry listed
        apply fairly
        rw [Pool.accepted, history, List.filterMap_append]
        exact List.mem_append_left _ listed
      have holds := ih earlier before
      rcases tables_step traced taken with same | ⟨index, popped, order, held, acted⟩
      · rw [same]
        exact holds
      · rw [acted]
        have accepted := popped_accepted accounted (accounted.held index popped held).1
        exact kept order _ _ (before _ accepted) holds

end

section

variable {mysql : Mysql} {config : ServerConfig} {poolSize : Nat} {tables : Tables}

theorem understood_accepted {process : Process} {labels : List Program.Label}
    (ran : run (Program.step mysql) (Program.start config poolSize tables) labels = some process) :
    ∀ entry ∈ process.pool.accepted, Understood entry.2 := by
  rcases loop_run ran with ⟨moves, shadow, followed, loop⟩
  have sincere := sincere_reachable ⟨moves, followed⟩
  intro entry listed
  have submitted : entry.2 ∈ submittedIn process.system.history := by
    rw [submittedIn, ← (standing_run ran).exchanged, ← accepted_of_exchanges]
    exact List.mem_map_of_mem listed
  rw [history_of_loop loop] at submitted
  exact understood_submitted sincere (mem_submitted.mp submitted)

theorem intact_run {process : Process} {labels : List Program.Label} (intact : Intact mysql tables)
    (ran : run (Program.step mysql) (Program.start config poolSize tables) labels = some process) :
    Intact mysql process.pool.store.tables := by
  rcases pool_run (fun _ => True) (fun _ _ => trivial) (fun label _ => by cases label <;> trivial)
    ran with ⟨moves, followed, _⟩
  have start : run (Workers.step mysql) (Pool.start poolSize tables) [] =
    some (Pool.start poolSize tables) := rfl
  exact tables_keep intact.keys start followed (understood_accepted ran)
    (fun order _ _ understood whole => intact_atomically whole order understood) intact

/-- In every run of the process, whatever the clients send, whichever calls fail and
whenever connections are lost, the tables are in order at every moment, and what has
been there at an earlier moment is still there: every account as it was, and every
character under its name. -/
theorem tables_stay_intact {middle last : Process} {labels more : List Program.Label}
    (intact : Intact mysql tables)
    (ran : run (Program.step mysql) (Program.start config poolSize tables) labels = some middle)
    (later : run (Program.step mysql) middle more = some last) :
    Intact mysql last.pool.store.tables ∧
      Grown middle.pool.store.tables last.pool.store.tables := by
  have whole : run (Program.step mysql) (Program.start config poolSize tables) (labels ++ more) =
      some last := by
    rw [run_append, ran]
    exact later
  refine ⟨intact_run intact whole, ?_⟩
  rcases pool_run (fun _ => True) (fun _ _ => trivial) (fun label _ => by cases label <;> trivial)
    ran with ⟨moves, followed, _⟩
  have free : ∀ label, isWorker label = false → True := fun _ _ => trivial
  rcases (pool_simulates mysql free).run ⟨standing_run ran, rfl⟩
    (fun label _ => by cases label <;> trivial) later with ⟨others, pool, along, _, _, rfl⟩
  exact @tables_keep mysql tables (Grown middle.pool.store.tables) (fun _ => True) poolSize _ _ _ _
    intact.keys followed along (fun _ _ => trivial)
    (fun order _ job _ grown => grown.trans (grown_atomically order job)) (grown_refl _)

end

/-- A client registers, saves and clears an item and enters; a COMMIT fails and a
connection is lost. -/
def itemsAndFaults : List Program.Label :=
  [.ring .tick, .ring (.accept 0 5), .ring .tick, .ring .tick, .ring .tick, .ring .tick, .ring .tick,
    .ring (.recv 2 (ascii "REGISTER ada Ada\nSAVE_ITEM ada 1 7 3\nENTER ada mage 1 2\n")),
    .ring .tick, .ring .tick, .ring .tick, .ring .tick,
    .worker 0 .pop, .worker 0 (.connect (.ok ())), .worker 0 (.execute (.goes .asStored)),
    .worker 0 .push, .worker 0 .signal, .worker 0 .pop, .worker 0 (.execute (.goes .asStored)),
    .worker 0 (.execute (.goes .asStored)), .worker 0 (.execute (.goes .asStored)),
    .worker 0 (.execute (.goes .asStored)), .worker 0 .push, .worker 0 .signal,
    .worker 0 .pop, .worker 0 (.execute (.goes .asStored)), .worker 0 .lose]

theorem tables_stay_intact_faults :
    ∃ process, run (Program.step Mysql.binary) (Program.start .default 1 Tables.empty)
        itemsAndFaults = some process ∧
      process.pool.store.tables.inventoryItems = [⟨1, 1, 7, 3⟩] ∧
      Intact Mysql.binary process.pool.store.tables ∧
        Grown Tables.empty process.pool.store.tables := by
  have ends : (run (Program.step Mysql.binary) (Program.start .default 1 Tables.empty)
      itemsAndFaults).any (fun process =>
        decide (process.pool.store.tables.inventoryItems = [⟨1, 1, 7, 3⟩])) = true := by
    decide
  rcases Option.any_eq_true _ _ |>.mp ends with ⟨process, ran, holds⟩
  have start : run (Program.step Mysql.binary) (Program.start .default 1 Tables.empty) [] =
    some (Program.start .default 1 Tables.empty) := rfl
  exact ⟨process, ran, of_decide_eq_true holds,
    tables_stay_intact (intact_empty Mysql.binary) start ran⟩

end DungeonPortfolio.Integrity
