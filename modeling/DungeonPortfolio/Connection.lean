import DungeonPortfolio.Dispatcher
import DungeonPortfolio.Library.Script
import DungeonPortfolio.Statements

/-!
# MysqlConnection

The job functions of `MysqlConnection`, `execute_job` and `error_completion` of
`src/database.cpp` as scripts over the SQL statements: conversions of the
arguments, transactions with their handler, the fixed buffers that result rows
are fetched into, and the lines of the completions.
-/

namespace DungeonPortfolio.Connection

open DungeonPortfolio.Text DungeonPortfolio.Dispatcher DungeonPortfolio.Statements
open Library

set_option autoImplicit false

abbrev JobScript (Value : Type) : Type :=
  Script Statement (fun statement => Answer statement.Row) StdException Value

def throwRuntime {Value : Type} (what : Bytes) : JobScript Value := .throws (.runtimeError what)

/-- The context that the source gives to the failure of a call; `exec` gives the
SQL text. -/
def context (statement : Statement) : Stage → Bytes
  | .query => match statement with
      | .begin => ascii "BEGIN"
      | .commit => ascii "COMMIT"
      | _ => ascii "ROLLBACK"
  | .init => ascii "mysql_stmt_init failed"
  | .prepare => ascii "mysql_stmt_prepare failed"
  | .bindParam => ascii "mysql_stmt_bind_param failed"
  | .execute => ascii "mysql_stmt_execute failed"
  | .bindResult => ascii "bind result failed"
  | .storeResult => ascii "store result failed"

/-- `mysql_error_message` and `stmt_error_message`. -/
def errorMessage (context text : Bytes) : Bytes := context ++ ascii ": " ++ text

/-- A statement up to its result set, every failing call thrown. -/
def executed (statement : Statement) : JobScript (List statement.Row × Option Bytes) := do
  match ← Script.request statement with
  | .failed stage text => throwRuntime (errorMessage (context statement stage) text)
  | .duplicate text => throwRuntime (errorMessage (context statement .execute) text)
  | .fetched rows broken => return (rows, broken)

def exec (statement : Statement) : JobScript Unit := do
  let _ ← executed statement

def executePrepared (statement : Statement) : JobScript Unit := do
  let _ ← executed statement

def rollbackNoexcept : JobScript Unit := do
  let _ ← Script.request .rollback

def convert {Value : Type} (result : Except StdException Value) : JobScript Value := Script.lift result

/-- `begin(); try { body; commit(); } catch (...) { rollback_noexcept(); throw; }` -/
def transaction {Value : Type} (body : JobScript Value) : JobScript Value := do
  exec .begin
  Script.rescue
    (do
      let value ← body
      exec .commit
      return value)
    (fun fault => do
      rollbackNoexcept
      .throws fault)

/-- The single row of a lookup by account: `mysql_stmt_fetch` is called once. -/
def fetchOne {Row : Type} (account : Bytes) : List Row × Option Bytes → JobScript Row
  | ([], none) => throwRuntime (ascii "unknown account: " ++ account)
  | ([], some text) => throwRuntime (errorMessage (ascii "fetch player failed") text)
  | (row :: _, _) => return row

def selectPlayerIdForUpdate (account : Bytes) : JobScript Nat := do
  fetchOne account (← executed (.selectPlayerIdForUpdate account))

def selectPlayerId (account : Bytes) : JobScript Nat := do
  fetchOne account (← executed (.selectPlayerId account))

/-- `base_completion` with `ok = true` and the line filled in. -/
def completed (job : DbJob) (line : Bytes) : DbCompletion := completionOf job true line

def registerLine (account displayName : Bytes) : Bytes :=
  ascii "OK REGISTER account=" ++ account ++ ascii " display_name=" ++ displayName

def registerPlayer (job : DbJob) : JobScript DbCompletion := do
  let account ← convert (at? job.args 0)
  let displayName ← convert (at? job.args 1)
  match ← Script.request (.insertPlayer account displayName) with
  | .failed stage text =>
      throwRuntime (errorMessage (context (.insertPlayer account displayName) stage) text)
  | .duplicate _ => throwRuntime (ascii "account already exists: " ++ account)
  | .fetched _ _ => return completed job (registerLine account displayName)

/-- `sizeof` of the buffers `display_name` and `name`. -/
def nameBuffer : Nat := 128

def loginLine (id : Nat) (account displayName : Bytes) : Bytes :=
  ascii "OK LOGIN player_id=" ++ printNat id ++ ascii " account=" ++ account ++
    ascii " display_name=" ++ displayName

def loginPlayer (job : DbJob) : JobScript DbCompletion := do
  let account ← convert (at? job.args 0)
  let (id, displayName) ← fetchOne account (← executed (.selectPlayer account))
  -- a name longer than its buffer is cut and flagged in `name_error`
  if nameBuffer < displayName.length then
    throwRuntime (ascii "invalid player row for account: " ++ account)
  else do
    executePrepared (.touchLogin id)
    return completed job (loginLine id account displayName)

def saveLine (account character : Bytes) (level gold : Nat) : Bytes :=
  ascii "OK SAVE account=" ++ account ++ ascii " character=" ++ character ++
    ascii " level=" ++ printNat level ++ ascii " gold=" ++ printNat gold

def saveCharacter (job : DbJob) : JobScript DbCompletion := do
  let account ← convert (at? job.args 0)
  let character ← convert (at? job.args 1)
  let level ← convert ((at? job.args 2).bind stoul)
  let gold ← convert ((at? job.args 3).bind stoull)
  transaction do
    let playerId ← selectPlayerIdForUpdate account
    executePrepared (.upsertCharacter playerId character (toUInt32 level) gold)
  return completed job (saveLine account character (toUInt32 level) gold)

def savePositionLine (account character : Bytes) (x y : Int32) : Bytes :=
  ascii "OK SAVE_POSITION account=" ++ account ++ ascii " character=" ++ character ++
    ascii " x=" ++ printInt x ++ ascii " y=" ++ printInt y

def savePosition (job : DbJob) : JobScript DbCompletion := do
  let account ← convert (at? job.args 0)
  let character ← convert (at? job.args 1)
  let x ← convert ((at? job.args 2).bind stoi)
  let y ← convert ((at? job.args 3).bind stoi)
  transaction do
    let playerId ← selectPlayerIdForUpdate account
    executePrepared (.upsertPosition playerId character x y)
  return completed job (savePositionLine account character x y)

def characterText (row : Character) : Bytes :=
  row.name ++ ascii ":" ++ printNat row.level ++ ascii ":" ++ printNat row.gold ++ ascii ":" ++
    printInt row.x ++ ascii ":" ++ printInt row.y

/-- The fetch loop of `load_characters`. -/
def fetchCharacters (account : Bytes) : List Character → Option Bytes → JobScript (List Bytes)
  | [], none => return []
  | [], some text => throwRuntime (errorMessage (ascii "fetch character failed") text)
  | row :: rest, broken =>
      if nameBuffer < row.name.length then
        throwRuntime (ascii "invalid character row for account: " ++ account)
      else do
        let later ← fetchCharacters account rest broken
        return characterText row :: later

def commaJoined (texts : List Bytes) : Bytes := (ascii ",").intercalate texts

def loadLine (account : Bytes) (characters : List Bytes) : Bytes :=
  ascii "OK LOAD account=" ++ account ++ ascii " character_count=" ++ printNat characters.length ++
    if characters.isEmpty then [] else ascii " characters=" ++ commaJoined characters

def loadCharacters (job : DbJob) : JobScript DbCompletion := do
  let account ← convert (at? job.args 0)
  let _ ← selectPlayerId account
  let (rows, broken) ← executed (.selectCharacters account)
  let characters ← fetchCharacters account rows broken
  return completed job (loadLine account characters)

def saveItemLine (account : Bytes) (slot itemId count : Nat) : Bytes :=
  ascii "OK SAVE_ITEM account=" ++ account ++ ascii " slot=" ++ printNat slot ++
    ascii " item_id=" ++ printNat itemId ++ ascii " count=" ++ printNat count

def saveInventoryItem (job : DbJob) : JobScript DbCompletion := do
  let account ← convert (at? job.args 0)
  let slot ← convert ((at? job.args 1).bind stoul)
  let itemId ← convert ((at? job.args 2).bind stoull)
  let count ← convert ((at? job.args 3).bind stoul)
  transaction do
    let playerId ← selectPlayerIdForUpdate account
    if toUInt32 count = 0 then executePrepared (.deleteItem playerId (toUInt32 slot))
    else executePrepared (.upsertItem playerId (toUInt32 slot) itemId (toUInt32 count))
  return completed job (saveItemLine account (toUInt32 slot) itemId (toUInt32 count))

def itemText (row : Item) : Bytes :=
  printNat row.slot ++ ascii ":" ++ printNat row.itemId ++ ascii ":" ++ printNat row.stackCount

/-- The fetch loop of `load_inventory`. -/
def fetchItems : List Item → Option Bytes → JobScript (List Bytes)
  | [], none => return []
  | [], some text => throwRuntime (errorMessage (ascii "fetch inventory failed") text)
  | row :: rest, broken => do
      let later ← fetchItems rest broken
      return itemText row :: later

def loadInventoryLine (account : Bytes) (items : List Bytes) : Bytes :=
  ascii "OK LOAD_INVENTORY account=" ++ account ++ ascii " item_count=" ++ printNat items.length ++
    if items.isEmpty then [] else ascii " items=" ++ commaJoined items

def loadInventory (job : DbJob) : JobScript DbCompletion := do
  let account ← convert (at? job.args 0)
  let _ ← selectPlayerId account
  let (rows, broken) ← executed (.selectItems account)
  let items ← fetchItems rows broken
  return completed job (loadInventoryLine account items)

def executeJob (job : DbJob) : JobScript DbCompletion :=
  match job.operation with
  | .registerPlayer => registerPlayer job
  | .loginPlayer => loginPlayer job
  | .saveCharacter => saveCharacter job
  | .loadCharacters => loadCharacters job
  | .saveInventoryItem => saveInventoryItem job
  | .loadInventory => loadInventory job
  | .savePosition => savePosition job

def errorCompletion (job : DbJob) (error : StdException) : DbCompletion :=
  completionOf job false (ascii "ERR " ++ job.commandName ++ ascii " " ++ error.what)

/-- What `worker_loop` pushes for the job. -/
def pushed (job : DbJob) : Except StdException DbCompletion → DbCompletion
  | .ok completion => completion
  | .error error => errorCompletion job error

end DungeonPortfolio.Connection
