import DungeonPortfolio.Schema
import Mathlib.Data.List.Sort

/-!
# The SQL statements and what MySQL does on them

The statements of `src/database.cpp`, one constructor each, and one call of the
client library on a connection. The environment chooses whether a call succeeds,
at which stage of the statement it fails, after how many rows a fetch fails and
when the connection is lost. What an open transaction has written is kept with
its connection and reaches the tables at COMMIT; `SELECT ... FOR UPDATE` locks
the player row until the transaction ends, and a statement that needs a player
row locked by another connection is not possible. Locks on rows of the other
tables and on gaps of an index are left out: a writer of such a row has locked
its player first.
-/

namespace DungeonPortfolio.Statements

open DungeonPortfolio.Text DungeonPortfolio.Schema

set_option autoImplicit false

inductive Statement where
  | begin
  | commit
  | rollback
  | insertPlayer (account displayName : Bytes)
  | selectPlayer (account : Bytes)
  /-- `UPDATE players SET last_login_at`. -/
  | touchLogin (id : Nat)
  | selectPlayerId (account : Bytes)
  | selectPlayerIdForUpdate (account : Bytes)
  | upsertCharacter (playerId : Nat) (name : Bytes) (level gold : Nat)
  | upsertPosition (playerId : Nat) (name : Bytes) (x y : Int32)
  | selectCharacters (account : Bytes)
  | deleteItem (playerId slot : Nat)
  | upsertItem (playerId slot itemId stackCount : Nat)
  | selectItems (account : Bytes)
  deriving DecidableEq, Repr

structure Character where
  name : Bytes
  level : Nat
  gold : Nat
  x : Int32
  y : Int32
  deriving DecidableEq, Repr

structure Item where
  slot : Nat
  itemId : Nat
  stackCount : Nat
  deriving DecidableEq, Repr

def characterOf (row : CharacterRow) : Character := ⟨row.name, row.level, row.gold, row.x, row.y⟩

def itemOf (row : ItemRow) : Item := ⟨row.slot, row.itemId, row.stackCount⟩

@[reducible] def Statement.Row : Statement → Type
  | .selectPlayer _ => Nat × Bytes
  | .selectPlayerId _ | .selectPlayerIdForUpdate _ => Nat
  | .selectCharacters _ => Character
  | .selectItems _ => Item
  | _ => Empty

inductive Stage where
  | query
  | init
  | prepare
  | bindParam
  | execute
  | bindResult
  | storeResult
  deriving DecidableEq, Repr

def Statement.stages : Statement → List Stage
  | .begin | .commit => [.query]
  | .rollback => []
  | .selectPlayer _ | .selectPlayerId _ | .selectPlayerIdForUpdate _ | .selectCharacters _
  | .selectItems _ => [.init, .prepare, .bindParam, .execute, .bindResult, .storeResult]
  | _ => [.init, .prepare, .bindParam, .execute]

inductive Answer (Row : Type) where
  | failed (stage : Stage) (text : Bytes)
  /-- `ER_DUP_ENTRY` at the execution. -/
  | duplicate (text : Bytes)
  /-- The rows fetched, and the text of a fetch that fails after them. -/
  | fetched (rows : List Row) (broken : Option Bytes)

/-- `ORDER BY updated_at DESC, id DESC`: some order of the rows. -/
structure RowOrder where
  arrange : List Character → List Character
  perm : ∀ rows, (arrange rows).Perm rows

def RowOrder.asStored : RowOrder := ⟨id, fun _ => List.Perm.refl _⟩

inductive Choice where
  | goes (order : RowOrder)
  | fails (stage : Stage) (text : Bytes)
  | breaks (order : RowOrder) (count : Nat) (text : Bytes)
  | loses (stage : Stage) (text : Bytes)

def Choice.isFault : Choice → Bool
  | .goes _ => false
  | _ => true

def Choice.Ordered (order : RowOrder) : Choice → Prop
  | .goes chosen | .breaks chosen _ _ => chosen = order
  | _ => True

/-- A connection: what its open transaction has written, if one is open. -/
structure Link where
  alive : Bool
  transaction : Option (List Write)
  deriving DecidableEq, Repr

def Link.fresh : Link := ⟨true, none⟩

/-- What all connections share: the committed rows, and which connection has
locked which player row. -/
structure Store where
  tables : Tables
  locks : List (Nat × Nat)
  deriving DecidableEq, Repr

def Store.lockedByOther (store : Store) (self playerId : Nat) : Bool :=
  store.locks.any fun lock => lock.1 != self && lock.2 == playerId

/-- The end of a transaction frees its row locks. -/
def Store.release (store : Store) (self : Nat) : Store :=
  { store with locks := store.locks.filter fun lock => lock.1 != self }

/-- A row lock outlives its statement in a transaction only. -/
def Store.lock (store : Store) (self playerId : Nat) (link : Link) : Store :=
  if link.transaction.isSome then { store with locks := store.locks ++ [(self, playerId)] }
  else store

section

variable (mysql : Mysql)

def seen (store : Store) (link : Link) : Tables :=
  store.tables.applyAll mysql (link.transaction.getD [])

def write (store : Store) (link : Link) (change : Write) : Store × Link :=
  match link.transaction with
  | none => ({ store with tables := store.tables.apply mysql change }, link)
  | some pending => (store, { link with transaction := some (pending ++ [change]) })

def commitAll (self : Nat) (store : Store) (link : Link) : Store :=
  ({ store with tables := seen mysql store link } : Store).release self

def writeRow (self : Nat) (store : Store) (link : Link) (playerId : Nat) (name : Option Bytes)
    (change : Write) : Option (Answer Empty × (Store × Link)) :=
  if name.any fun name => !mysql.fits name then
    some (.failed .execute (mysql.tooLong (name.getD [])), (store, link))
  else if (seen mysql store link).players.any fun row => row.id == playerId then
    if store.lockedByOther self playerId then none
    else some (.fetched [] none, write mysql store link change)
  else some (.failed .execute (mysql.noReferencedRow playerId), (store, link))

def effect (self : Nat) (order : RowOrder) (store : Store) (link : Link) :
    (statement : Statement) → Option (Answer statement.Row × (Store × Link))
  | .begin =>
      -- an open transaction would be committed by it
      some (.fetched [] none, (commitAll mysql self store link, { link with transaction := some [] }))
  | .commit =>
      some (.fetched [] none, (commitAll mysql self store link, { link with transaction := none }))
  | .rollback =>
      some (.fetched [] none, (store.release self, { link with transaction := none }))
  | .insertPlayer account displayName =>
      if !mysql.fits account then
        some (.failed .execute (mysql.tooLong account), (store, link))
      else if !mysql.fits displayName then
        some (.failed .execute (mysql.tooLong displayName), (store, link))
      else match (seen mysql store link).player mysql account with
        | none => some (.fetched [] none, write mysql store link (.player account displayName))
        | some row =>
            -- the duplicate check reads the row with a lock
            if store.lockedByOther self row.id then none
            else
              -- the counter of AUTO_INCREMENT takes part in no transaction
              some (.duplicate (mysql.duplicateEntry account),
                ({ store with tables := store.tables.apply mysql .spentId }, link))
  | .selectPlayer account =>
      let rows := ((seen mysql store link).player mysql account).toList.map fun row =>
        (row.id, row.displayName)
      some (.fetched rows none, (store, link))
  | .touchLogin id =>
      if store.lockedByOther self id then none
      else some (.fetched [] none, (store.lock self id link, link))
  | .selectPlayerId account =>
      let rows := ((seen mysql store link).player mysql account).toList.map PlayerRow.id
      some (.fetched rows none, (store, link))
  | .selectPlayerIdForUpdate account =>
      match (seen mysql store link).player mysql account with
      | none => some (.fetched [] none, (store, link))
      | some row =>
          if store.lockedByOther self row.id then none
          else some (.fetched [row.id] none, (store.lock self row.id link, link))
  | .upsertCharacter playerId name level gold =>
      writeRow mysql self store link playerId (some name) (.character playerId name level gold)
  | .upsertPosition playerId name x y =>
      writeRow mysql self store link playerId (some name) (.position playerId name x y)
  | .selectCharacters account =>
      let rows := match (seen mysql store link).player mysql account with
        | none => []
        | some row => ((seen mysql store link).charactersOf row.id).map characterOf
      some (.fetched (order.arrange rows) none, (store, link))
  | .deleteItem playerId slot =>
      some (.fetched [] none, write mysql store link (.clear playerId slot))
  | .upsertItem playerId slot itemId stackCount =>
      writeRow mysql self store link playerId none (.item playerId slot itemId stackCount)
  | .selectItems account =>
      let rows := match (seen mysql store link).player mysql account with
        | none => []
        | some row => ((seen mysql store link).itemsOf row.id).map itemOf
      -- ORDER BY i.slot
      some (.fetched (rows.insertionSort fun first second => first.slot ≤ second.slot) none,
        (store, link))

def Answer.cut {Row : Type} (count : Nat) (text : Bytes) : Answer Row → Answer Row
  | .fetched rows _ => .fetched (rows.take count) (some text)
  | other => other

/-- One statement on the connection `self`; `none` when it has to wait or cannot
turn out as chosen. A failed statement has no effect, apart from the row lock of
a SELECT whose result set is lost after its execution. A lost connection rolls
back its transaction, every later statement on it fails, and ROLLBACK, whose
outcome the program ignores, does not fail on a live connection. -/
def perform (self : Nat) (state : Store × Link) (statement : Statement) :
    Choice → Option (Answer statement.Row × (Store × Link))
  | .goes order =>
      if state.2.alive || statement = .rollback then
        effect mysql self order state.1 state.2 statement
      else none
  | .fails stage text =>
      if stage ∈ statement.stages then
        if state.2.alive && (stage = .bindResult || stage = .storeResult) then
          (effect mysql self .asStored state.1 state.2 statement).map fun after =>
            (.failed stage text, after.2)
        else some (.failed stage text, state)
      else none
  | .breaks order count text =>
      if state.2.alive && decide (.storeResult ∈ statement.stages) then
        (effect mysql self order state.1 state.2 statement).map fun after =>
          (after.1.cut count text, after.2)
      else none
  | .loses stage text =>
      if stage ∈ statement.stages then
        some (.failed stage text, (state.1.release self, ⟨false, none⟩))
      else none

end

end DungeonPortfolio.Statements
