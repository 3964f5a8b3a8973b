import DungeonPortfolio.Connection

/-!
# What a database command means

The purpose of each job in one step: its arguments converted, the reply and the
row it writes as functions of the tables. The scripts of `MysqlConnection` are
compared with it.
-/

namespace DungeonPortfolio.Commands

open DungeonPortfolio.Text DungeonPortfolio.Dispatcher DungeonPortfolio.Schema
open DungeonPortfolio.Statements DungeonPortfolio.Connection
open Library.Upsert

set_option autoImplicit false

/-- A job whose arguments have been converted. -/
inductive Command where
  | register (account displayName : Bytes)
  | login (account : Bytes)
  | save (account character : Bytes) (level gold : Nat)
  | savePosition (account character : Bytes) (x y : Int32)
  | load (account : Bytes)
  | saveItem (account : Bytes) (slot itemId count : Nat)
  | loadInventory (account : Bytes)
  deriving DecidableEq, Repr

def commandOf (job : DbJob) : Except StdException Command :=
  match job.operation with
  | .registerPlayer => do
      let account ← at? job.args 0
      let displayName ← at? job.args 1
      return .register account displayName
  | .loginPlayer => do
      let account ← at? job.args 0
      return .login account
  | .saveCharacter => do
      let account ← at? job.args 0
      let character ← at? job.args 1
      let level ← (at? job.args 2).bind stoul
      let gold ← (at? job.args 3).bind stoull
      return .save account character (toUInt32 level) gold
  | .loadCharacters => do
      let account ← at? job.args 0
      return .load account
  | .saveInventoryItem => do
      let account ← at? job.args 0
      let slot ← (at? job.args 1).bind stoul
      let itemId ← (at? job.args 2).bind stoull
      let count ← (at? job.args 3).bind stoul
      return .saveItem account (toUInt32 slot) itemId (toUInt32 count)
  | .loadInventory => do
      let account ← at? job.args 0
      return .loadInventory account
  | .savePosition => do
      let account ← at? job.args 0
      let character ← at? job.args 1
      let x ← (at? job.args 2).bind stoi
      let y ← (at? job.args 3).bind stoi
      return .savePosition account character x y

def Command.isSave : Command → Bool
  | .save _ _ _ _ | .savePosition _ _ _ _ | .saveItem _ _ _ _ => true
  | _ => false

/-- The numbers of a command fit the columns they are bound to. -/
def Command.InRange : Command → Prop
  | .save _ _ level gold => level < 2 ^ 32 ∧ gold < 2 ^ 64
  | .saveItem _ slot itemId count => slot < 2 ^ 32 ∧ itemId < 2 ^ 64 ∧ count < 2 ^ 32
  | _ => True

theorem bind_ok {First Second : Type} {result : Except StdException First}
    {next : First → Except StdException Second} {value : Second}
    (succeeds : (result >>= next) = .ok value) :
    ∃ first, result = .ok first ∧ next first = .ok value := by
  cases result with
  | error error => cases succeeds
  | ok first => exact ⟨first, rfl, succeeds⟩

theorem sto_unsigned_lt {name input : Bytes} {value : Nat}
    (converted : stoUnsigned name input = .ok value) : value < 2 ^ 64 := by
  unfold stoUnsigned at converted
  split at converted
  · cases converted
  · split_ifs at converted
    · cases converted
      exact Nat.mod_lt _ (by omega)
    · cases converted
      omega

theorem to_uint32_lt (value : Nat) : toUInt32 value < 2 ^ 32 := Nat.mod_lt _ (by omega)

theorem command_in_range {job : DbJob} {command : Command} (converted : commandOf job = .ok command) :
    command.InRange := by
  unfold commandOf at converted
  cases kind : job.operation with
  | registerPlayer =>
      rw [kind] at converted
      rcases bind_ok converted with ⟨account, _, rest⟩
      rcases bind_ok rest with ⟨displayName, _, last⟩
      cases last
      trivial
  | loginPlayer | loadCharacters | loadInventory =>
      rw [kind] at converted
      rcases bind_ok converted with ⟨account, _, last⟩
      cases last
      trivial
  | saveCharacter =>
      rw [kind] at converted
      rcases bind_ok converted with ⟨account, _, rest⟩
      rcases bind_ok rest with ⟨character, _, rest⟩
      rcases bind_ok rest with ⟨level, _, rest⟩
      rcases bind_ok rest with ⟨gold, fourth, last⟩
      cases last
      rcases bind_ok fourth with ⟨text, _, read⟩
      exact ⟨to_uint32_lt level, sto_unsigned_lt read⟩
  | saveInventoryItem =>
      rw [kind] at converted
      rcases bind_ok converted with ⟨account, _, rest⟩
      rcases bind_ok rest with ⟨slot, _, rest⟩
      rcases bind_ok rest with ⟨itemId, third, rest⟩
      rcases bind_ok rest with ⟨count, _, last⟩
      cases last
      rcases bind_ok third with ⟨text, _, read⟩
      exact ⟨to_uint32_lt slot, sto_unsigned_lt read, to_uint32_lt count⟩
  | savePosition =>
      rw [kind] at converted
      rcases bind_ok converted with ⟨account, _, rest⟩
      rcases bind_ok rest with ⟨character, _, rest⟩
      rcases bind_ok rest with ⟨x, _, rest⟩
      rcases bind_ok rest with ⟨y, _, last⟩
      cases last
      trivial

abbrev Outcome : Type := Except StdException Bytes × Option Write

def refused (what : Bytes) : Outcome := (.error (.runtimeError what), none)

def unknownAccount (account : Bytes) : Bytes := ascii "unknown account: " ++ account

def nameTooLong (mysql : Mysql) (name : Bytes) : Bytes :=
  errorMessage (ascii "mysql_stmt_execute failed") (mysql.tooLong name)

section

variable (mysql : Mysql) (order : RowOrder) (tables : Tables)

/-- A command about the rows of a registered account. -/
def forOwner (account : Bytes) (act : PlayerRow → Outcome) : Outcome :=
  match tables.player mysql account with
  | none => refused (unknownAccount account)
  | some row => act row

def itemsListed (playerId : Nat) : List Item :=
  ((tables.itemsOf playerId).map itemOf).insertionSort fun first second =>
    first.slot ≤ second.slot

def charactersListed (playerId : Nat) : List Character :=
  order.arrange ((tables.charactersOf playerId).map characterOf)

def Command.outcome : Command → Outcome
  | .register account displayName =>
      if !mysql.fits account then refused (nameTooLong mysql account)
      else if !mysql.fits displayName then refused (nameTooLong mysql displayName)
      else if (tables.player mysql account).isSome then
        (.error (.runtimeError (ascii "account already exists: " ++ account)), some .spentId)
      else (.ok (registerLine account displayName), some (.player account displayName))
  | .login account => forOwner mysql tables account fun row =>
      if nameBuffer < row.displayName.length then
        refused (ascii "invalid player row for account: " ++ account)
      else (.ok (loginLine row.id account row.displayName), none)
  | .save account character level gold => forOwner mysql tables account fun row =>
      if !mysql.fits character then refused (nameTooLong mysql character)
      else (.ok (saveLine account character level gold),
        some (.character row.id character level gold))
  | .savePosition account character x y => forOwner mysql tables account fun row =>
      if !mysql.fits character then refused (nameTooLong mysql character)
      else (.ok (savePositionLine account character x y), some (.position row.id character x y))
  | .load account => forOwner mysql tables account fun row =>
      let characters := charactersListed order tables row.id
      if characters.any fun character => decide (nameBuffer < character.name.length) then
        refused (ascii "invalid character row for account: " ++ account)
      else (.ok (loadLine account (characters.map characterText)), none)
  | .saveItem account slot itemId count => forOwner mysql tables account fun row =>
      (.ok (saveItemLine account slot itemId count),
        some (if count = 0 then .clear row.id slot else .item row.id slot itemId count))
  | .loadInventory account => forOwner mysql tables account fun row =>
      (.ok (loadInventoryLine account ((itemsListed tables row.id).map itemText)), none)

def Tables.change (tables : Tables) : Option Write → Tables
  | none => tables
  | some write => tables.apply mysql write

def atomically (job : DbJob) : Except StdException Bytes × Tables :=
  match commandOf job with
  | .error error => (.error error, tables)
  | .ok command =>
      let (line, written) := command.outcome mysql order tables
      (line, Tables.change mysql tables written)

end

variable {mysql : Mysql} {order : RowOrder} {tables : Tables}

/-- The row that a command writes, and its reply. -/
def Command.Writes (mysql : Mysql) (tables : Tables) (line : Except StdException Bytes)
    (written : Write) : Command → Prop
  | .register account displayName =>
      (∃ error, line = .error error ∧ written = .spentId) ∨
        (line = .ok (registerLine account displayName) ∧ tables.player mysql account = none ∧
          written = .player account displayName)
  | .save account character level gold => ∃ row, tables.player mysql account = some row ∧
      mysql.fits character = true ∧ line = .ok (saveLine account character level gold) ∧
      written = .character row.id character level gold
  | .savePosition account character x y => ∃ row, tables.player mysql account = some row ∧
      mysql.fits character = true ∧ line = .ok (savePositionLine account character x y) ∧
      written = .position row.id character x y
  | .saveItem account slot itemId count => ∃ row, tables.player mysql account = some row ∧
      line = .ok (saveItemLine account slot itemId count) ∧
      written = if count = 0 then .clear row.id slot else .item row.id slot itemId count
  | .login _ | .load _ | .loadInventory _ => False

theorem outcome_writes {command : Command} {line : Except StdException Bytes} {written : Write}
    (meant : command.outcome mysql order tables = (line, some written)) :
    command.Writes mysql tables line written := by
  have owned : ∀ account act, forOwner mysql tables account act = (line, some written) →
      ∃ row, tables.player mysql account = some row ∧ act row = (line, some written) := by
    intro account act same
    unfold forOwner at same
    split at same
    · cases same
    · rename_i row there
      exact ⟨row, there, same⟩
  cases command with
  | register account displayName =>
      simp only [Command.outcome, refused] at meant
      split_ifs at meant
      · cases meant
      · cases meant
      · cases meant
        exact Or.inl ⟨_, rfl, rfl⟩
      · cases meant
        exact Or.inr ⟨rfl, Option.not_isSome_iff_eq_none.mp (by assumption), rfl⟩
  | login account =>
      rcases owned _ _ meant with ⟨row, _, same⟩
      split_ifs at same
      · cases same
      · cases same
  | save account character level gold =>
      rcases owned _ _ meant with ⟨row, there, same⟩
      split_ifs at same with fits
      · cases same
      · cases same
        exact ⟨row, there, by simpa using fits, rfl, rfl⟩
  | savePosition account character x y =>
      rcases owned _ _ meant with ⟨row, there, same⟩
      split_ifs at same with fits
      · cases same
      · cases same
        exact ⟨row, there, by simpa using fits, rfl, rfl⟩
  | load account =>
      rcases owned _ _ meant with ⟨row, _, same⟩
      simp only at same
      split_ifs at same
      · cases same
      · cases same
  | saveItem account slot itemId count =>
      rcases owned _ _ meant with ⟨row, there, same⟩
      cases same
      exact ⟨row, there, rfl, rfl⟩
  | loadInventory account =>
      rcases owned _ _ meant with ⟨row, _, same⟩
      cases same

/-- A command writes only what the server lets through. -/
theorem writes_allowed {command : Command} {line : Except StdException Bytes} {written : Write}
    (writes : command.Writes mysql tables line written) : Allowed mysql tables written := by
  cases command with
  | register account displayName =>
      rcases writes with ⟨_, _, rfl⟩ | ⟨_, absent, rfl⟩
      · trivial
      · exact absent
  | login account | load account | loadInventory account => cases writes
  | save account character level gold | savePosition account character x y =>
      rcases writes with ⟨row, _, _, _, rfl⟩
      trivial
  | saveItem account slot itemId count =>
      rcases writes with ⟨row, _, _, rfl⟩
      split_ifs <;> trivial

theorem writes_in_range {command : Command} {line : Except StdException Bytes} {written : Write}
    (range : command.InRange) (writes : command.Writes mysql tables line written) :
    written.InRange := by
  cases command with
  | register account displayName =>
      rcases writes with ⟨_, _, rfl⟩ | ⟨_, _, rfl⟩ <;> trivial
  | login account | load account | loadInventory account => cases writes
  | save account character level gold =>
      rcases writes with ⟨row, _, _, _, rfl⟩
      exact range
  | savePosition account character x y =>
      rcases writes with ⟨row, _, _, _, rfl⟩
      trivial
  | saveItem account slot itemId count =>
      rcases writes with ⟨row, _, _, rfl⟩
      split_ifs
      · trivial
      · exact range

/-- A job in one step is refused, reads, or writes the row of its command. -/
theorem atomically_cases (order : RowOrder) (tables : Tables) (job : DbJob) :
    (atomically mysql order tables job).2 = tables ∨
      ∃ command written, commandOf job = .ok command ∧
        command.Writes mysql tables (atomically mysql order tables job).1 written ∧
        (atomically mysql order tables job).2 = tables.apply mysql written := by
  unfold atomically
  cases converted : commandOf job with
  | error error => exact Or.inl rfl
  | ok command =>
      have meant : command.outcome mysql order tables =
          ((command.outcome mysql order tables).1, (command.outcome mysql order tables).2) := rfl
      cases written : (command.outcome mysql order tables).2 with
      | none =>
          left
          simp only [Tables.change, written]
      | some write =>
          right
          rw [written] at meant
          refine ⟨command, write, rfl, outcome_writes meant, ?_⟩
          simp only [Tables.change, written]

def Command.reads : Command → Bool
  | .login _ | .load _ | .loadInventory _ => true
  | _ => false

theorem outcome_reads {command : Command} {line : Bytes}
    (meant : command.outcome mysql order tables = (.ok line, none)) : command.reads = true := by
  have owned : ∀ account act, forOwner mysql tables account act = (.ok line, none) →
      ∃ row, act row = (.ok line, none) := by
    intro account act same
    unfold forOwner at same
    split at same
    · cases same
    · rename_i row there
      exact ⟨row, same⟩
  cases command with
  | register account displayName =>
      simp only [Command.outcome, refused] at meant
      split_ifs at meant <;> cases meant
  | login account | load account | loadInventory account => rfl
  | save account character level gold | savePosition account character x y =>
      rcases owned _ _ meant with ⟨row, same⟩
      split_ifs at same <;> cases same
  | saveItem account slot itemId count =>
      rcases owned _ _ meant with ⟨row, same⟩
      cases same

theorem atomically_ok {job : DbJob} {line : Bytes} {after : Tables}
    (outcome : atomically mysql order tables job = (.ok line, after)) :
    ∃ command, commandOf job = .ok command ∧
      ((∃ written, command.Writes mysql tables (.ok line) written ∧
          after = tables.apply mysql written) ∨
        (command.reads = true ∧ after = tables)) := by
  unfold atomically at outcome
  cases converted : commandOf job with
  | error error =>
      rw [converted] at outcome
      cases outcome
  | ok command =>
      rw [converted] at outcome
      simp only [Prod.mk.injEq] at outcome
      refine ⟨command, rfl, ?_⟩
      cases written : (command.outcome mysql order tables).2 with
      | none =>
          right
          have meant : command.outcome mysql order tables = (.ok line, none) :=
            Prod.ext outcome.1 written
          refine ⟨outcome_reads meant, ?_⟩
          rw [← outcome.2, written]
          rfl
      | some write =>
          left
          have meant : command.outcome mysql order tables = (.ok line, some write) :=
            Prod.ext outcome.1 written
          refine ⟨write, outcome_writes meant, ?_⟩
          rw [← outcome.2, written]
          rfl

theorem sound_atomically (sound : Sound mysql tables) (order : RowOrder) (job : DbJob) :
    Sound mysql (atomically mysql order tables job).2 := by
  rcases atomically_cases order tables job with same | ⟨command, written, _, writes, same⟩
  · rw [same]
    exact sound
  · rw [same]
    exact sound_apply sound (writes_allowed writes)

theorem players_apply (tables : Tables) (write : Write) :
    tables.players <+: (tables.apply mysql write).players := by
  cases write with
  | player account displayName => exact List.prefix_append _ _
  | spentId => exact List.prefix_refl _
  | character playerId name level gold => exact List.prefix_refl _
  | position playerId name x y => exact List.prefix_refl _
  | item playerId slot itemId count => exact List.prefix_refl _
  | clear playerId slot => exact List.prefix_refl _

theorem players_atomically (order : RowOrder) (job : DbJob) :
    tables.players <+: (atomically mysql order tables job).2.players := by
  rcases atomically_cases order tables job with same | ⟨command, written, _, _, same⟩
  · rw [same]
  · rw [same]
    exact players_apply tables written

end DungeonPortfolio.Commands
