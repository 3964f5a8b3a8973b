import DungeonPortfolio.Settling

/-!
# Starting the process

`load_config_from_env` of `src/config.cpp` and `main` of `src/main.cpp`. The numbers
are read by `std::stoul`, so white space, a sign and trailing bytes are accepted, and
what does not fit in the variable of the configuration is cut off. The two checks at the
end are made on the numbers that are left, and are what the event loop and the workers
rely on. The calls on the system that follow may each fail, and then nothing is served.
-/

namespace DungeonPortfolio.Startup

open DungeonPortfolio.Text DungeonPortfolio.Dispatcher DungeonPortfolio.Server
open DungeonPortfolio.Schema DungeonPortfolio.Program DungeonPortfolio.Shutdown
open DungeonPortfolio.Turns DungeonPortfolio.Settling
open Library.Execution

set_option autoImplicit false

/-- `std::getenv`. -/
abbrev Environment := Bytes → Option Bytes

structure ServerConfig where
  port : UInt16 := 9090
  backlog : Int32 := 512
  ringEntries : UInt32 := 512
  recvBufferSize : Nat := 4096
  maxLineSize : Nat := 8192
  deriving DecidableEq, Repr

structure DatabaseConfig where
  host : Bytes := ascii "127.0.0.1"
  port : UInt32 := 3306
  user : Bytes := ascii "root"
  password : Bytes := []
  schema : Bytes := ascii "dungeon_portfolio"
  poolSize : UInt32 := 4
  deriving DecidableEq, Repr

/-- The two checks of `load_config_from_env` are carried by the type. -/
structure AppConfig where
  server : ServerConfig
  database : DatabaseConfig
  poolSizePositive : database.poolSize ≠ 0
  ringEntriesEnough : 32 ≤ server.ringEntries

/-- An empty variable counts as none. -/
def setting (env : Environment) (name : Bytes) : Option Bytes :=
  (env name).filter fun value => value ≠ []

def envString (env : Environment) (name fallback : Bytes) : Bytes :=
  (setting env name).getD fallback

def invalidNumber (name : Bytes) : StdException :=
  .runtimeError (ascii "invalid unsigned integer in " ++ name)

def envUint (env : Environment) (name : Bytes) (fallback : UInt32) : Except StdException UInt32 :=
  match setting env name with
  | none => .ok fallback
  | some value =>
      match stoul value with
      | .ok number => .ok (UInt32.ofNat number)
      | .error _ => .error (invalidNumber name)

def loadConfigFromEnv (env : Environment) : Except StdException AppConfig := do
  let server : ServerConfig := {}
  let database : DatabaseConfig := {}
  let serverPort ← envUint env (ascii "SERVER_PORT") server.port.toUInt32
  let backlog ← envUint env (ascii "SERVER_BACKLOG") server.backlog.toUInt32
  let ringEntries ← envUint env (ascii "URING_ENTRIES") server.ringEntries
  let databasePort ← envUint env (ascii "MYSQL_PORT") database.port
  let poolSize ← envUint env (ascii "MYSQL_POOL_SIZE") database.poolSize
  if empty : poolSize = 0 then
    throw (.runtimeError (ascii "MYSQL_POOL_SIZE must be greater than zero"))
  else if few : ringEntries < 32 then
    throw (.runtimeError (ascii "URING_ENTRIES must be at least 32"))
  else
    return {
      server := { server with
        port := serverPort.toUInt16, backlog := backlog.toInt32, ringEntries }
      database := { database with
        host := envString env (ascii "MYSQL_HOST") database.host
        port := databasePort
        user := envString env (ascii "MYSQL_USER") database.user
        password := envString env (ascii "MYSQL_PASSWORD") database.password
        schema := envString env (ascii "MYSQL_DATABASE") database.schema
        poolSize }
      poolSizePositive := empty
      ringEntriesEnough := UInt32.not_lt.mp few }

/-- What the event loop reads of its configuration. -/
def AppConfig.loop (config : AppConfig) : Server.ServerConfig where
  ringEntries := config.server.ringEntries.toNat
  recvBufferSize := config.server.recvBufferSize
  maxLineSize := config.server.maxLineSize
  ringEntriesPositive := by
    have enough : 32 ≤ config.server.ringEntries.toNat :=
      UInt32.le_iff_toNat_le.mp config.ringEntriesEnough
    omega

/-- The calls on the system that the process makes before its event loop. -/
inductive SetupCall where
  | mysqlLibraryInit
  | eventfd
  | thread (index : Nat)
  | socket
  | setReuseaddr
  | getFlags
  | setFlags
  | bind
  | listen
  | queueInit
  deriving DecidableEq, Repr

/-- The exception of a call that fails; `text` is that of `strerror`, or of the
`std::system_error` of a thread. -/
def SetupCall.error : SetupCall → Bytes → StdException
  | .mysqlLibraryInit, _ => .runtimeError (ascii "mysql_library_init failed")
  | .eventfd, text => .runtimeError (ascii "eventfd failed: " ++ text)
  | .thread _, text => .runtimeError text
  | .socket, text => .runtimeError (ascii "socket failed: " ++ text)
  | .setReuseaddr, text => .runtimeError (ascii "setsockopt(SO_REUSEADDR) failed: " ++ text)
  | .getFlags, text => .runtimeError (ascii "fcntl(F_GETFL) failed: " ++ text)
  | .setFlags, text => .runtimeError (ascii "fcntl(F_SETFL) failed: " ++ text)
  | .bind, text => .runtimeError (ascii "bind failed: " ++ text)
  | .listen, text => .runtimeError (ascii "listen failed: " ++ text)
  | .queueInit, text => .runtimeError (ascii "io_uring_queue_init failed: " ++ text)

/-- The calls that fail on this machine, with their texts. -/
abbrev Machine := SetupCall → Option Bytes

def attempt (machine : Machine) (call : SetupCall) : Except StdException Unit :=
  match machine call with
  | none => .ok ()
  | some text => .error (call.error text)

def setNonblocking (machine : Machine) : Except StdException Unit := do
  attempt machine .getFlags
  attempt machine .setFlags

def setupListenSocket (machine : Machine) : Except StdException Unit := do
  attempt machine .socket
  attempt machine .setReuseaddr
  setNonblocking machine
  attempt machine .bind
  attempt machine .listen

def startWorkers (machine : Machine) (poolSize : Nat) : Except StdException Unit :=
  forM (List.range poolSize) fun index => attempt machine (.thread index)

/-- `main` up to the first wait of `run()`. -/
def main (env : Environment) (machine : Machine) (tables : Tables) :
    Except StdException Process := do
  attempt machine .mysqlLibraryInit
  let config ← loadConfigFromEnv env
  attempt machine .eventfd
  startWorkers machine config.database.poolSize.toNat
  setupListenSocket machine
  attempt machine .queueInit
  return Program.start config.loop config.database.poolSize.toNat tables

def numbers : List Bytes :=
  [ascii "SERVER_PORT", ascii "SERVER_BACKLOG", ascii "URING_ENTRIES", ascii "MYSQL_PORT",
    ascii "MYSQL_POOL_SIZE"]

def legible (value : Bytes) : Bool :=
  (readNumber value).any fun read => decide (read.2 < 2 ^ 64)

def illegible (env : Environment) (name : Bytes) : Bool :=
  (setting env name).any fun value => !legible value

/-- The number that is left of a variable in 32 bits. -/
def numberOf (env : Environment) (name : Bytes) (fallback : UInt32) : UInt32 :=
  match setting env name with
  | none => fallback
  | some value => ((stoul value).toOption.map UInt32.ofNat).getD fallback

theorem stoul_legible {value : Bytes} (fits : legible value = true) :
    ∃ number, stoul value = .ok number := by
  rcases Option.any_eq_true _ _ |>.mp fits with ⟨⟨negative, magnitude⟩, read, small⟩
  have within : ¬2 ^ 64 ≤ magnitude := Nat.not_le.mpr (of_decide_eq_true small)
  refine ⟨if negative then (2 ^ 64 - magnitude) % 2 ^ 64 else magnitude, ?_⟩
  simp only [stoul, stoUnsigned, read, if_neg within]

theorem stoul_illegible {value : Bytes} (unread : legible value = false) :
    ∃ error, stoul value = .error error := by
  rw [stoul, stoUnsigned]
  cases read : readNumber value with
  | none => exact ⟨_, rfl⟩
  | some number =>
      have large : 2 ^ 64 ≤ number.2 := by
        rw [legible, read] at unread
        exact Nat.not_lt.mp (of_decide_eq_false unread)
      exact ⟨_, if_pos large⟩

/-- A number is read as it is, or its variable is named in the error. -/
theorem env_uint_eq (env : Environment) (name : Bytes) (fallback : UInt32) :
    envUint env name fallback =
      if illegible env name then .error (invalidNumber name)
      else .ok (numberOf env name fallback) := by
  rw [envUint, illegible, numberOf]
  cases setting env name with
  | none => rfl
  | some value =>
      cases fits : legible value with
      | true =>
          rcases stoul_legible fits with ⟨number, read⟩
          simp [fits, read, Except.toOption]
      | false =>
          rcases stoul_illegible fits with ⟨error, unread⟩
          simp [fits, unread]

/-- Why no configuration is returned: the first number that cannot be read, or one of
the two checks. -/
inductive Refuses (env : Environment) : StdException → Prop
  | number (name : Bytes) (first : numbers.find? (illegible env) = some name) :
      Refuses env (invalidNumber name)
  | poolSize (read : numbers.find? (illegible env) = none)
      (empty : numberOf env (ascii "MYSQL_POOL_SIZE") 4 = 0) :
      Refuses env (.runtimeError (ascii "MYSQL_POOL_SIZE must be greater than zero"))
  | ringEntries (read : numbers.find? (illegible env) = none)
      (workers : numberOf env (ascii "MYSQL_POOL_SIZE") 4 ≠ 0)
      (few : numberOf env (ascii "URING_ENTRIES") 512 < 32) :
      Refuses env (.runtimeError (ascii "URING_ENTRIES must be at least 32"))

structure Follows (env : Environment) (config : AppConfig) : Prop where
  read : numbers.find? (illegible env) = none
  serverPort : config.server.port = (numberOf env (ascii "SERVER_PORT") 9090).toUInt16
  backlog : config.server.backlog = (numberOf env (ascii "SERVER_BACKLOG") 512).toInt32
  ringEntries : config.server.ringEntries = numberOf env (ascii "URING_ENTRIES") 512
  sizes : config.server.recvBufferSize = 4096 ∧ config.server.maxLineSize = 8192
  host : config.database.host = envString env (ascii "MYSQL_HOST") (ascii "127.0.0.1")
  databasePort : config.database.port = numberOf env (ascii "MYSQL_PORT") 3306
  user : config.database.user = envString env (ascii "MYSQL_USER") (ascii "root")
  password : config.database.password = envString env (ascii "MYSQL_PASSWORD") []
  schema : config.database.schema =
    envString env (ascii "MYSQL_DATABASE") (ascii "dungeon_portfolio")
  poolSize : config.database.poolSize = numberOf env (ascii "MYSQL_POOL_SIZE") 4

theorem env_uint_bind {Result : Type} (env : Environment) (name : Bytes) (fallback : UInt32)
    (rest : UInt32 → Except StdException Result) :
    (envUint env name fallback >>= rest) =
      if illegible env name then .error (invalidNumber name)
      else rest (numberOf env name fallback) := by
  rw [env_uint_eq]
  split
  · rfl
  · rfl

theorem load_config_cases (env : Environment) :
    (∃ error, loadConfigFromEnv env = .error error ∧ Refuses env error) ∨
      ∃ config, loadConfigFromEnv env = .ok config ∧ Follows env config := by
  simp only [loadConfigFromEnv, env_uint_bind]
  -- The variables are read in the order in which `find?` goes through them.
  cases serverPort : illegible env (ascii "SERVER_PORT") with
  | true => exact Or.inl ⟨_, rfl, .number _ (by simp [numbers, serverPort])⟩
  | false =>
  cases backlog : illegible env (ascii "SERVER_BACKLOG") with
  | true => exact Or.inl ⟨_, rfl, .number _ (by simp [numbers, serverPort, backlog])⟩
  | false =>
  cases ring : illegible env (ascii "URING_ENTRIES") with
  | true => exact Or.inl ⟨_, rfl, .number _ (by simp [numbers, serverPort, backlog, ring])⟩
  | false =>
  cases databasePort : illegible env (ascii "MYSQL_PORT") with
  | true =>
      exact Or.inl ⟨_, rfl, .number _ (by simp [numbers, serverPort, backlog, ring, databasePort])⟩
  | false =>
  cases pool : illegible env (ascii "MYSQL_POOL_SIZE") with
  | true =>
      exact Or.inl ⟨_, rfl,
        .number _ (by simp [numbers, serverPort, backlog, ring, databasePort, pool])⟩
  | false =>
  have read : numbers.find? (illegible env) = none := by
    simp [numbers, serverPort, backlog, ring, databasePort, pool]
  simp only [Bool.false_eq_true, if_false]
  by_cases empty : numberOf env (ascii "MYSQL_POOL_SIZE") 4 = 0
  · rw [dif_pos empty]
    exact Or.inl ⟨_, rfl, .poolSize read empty⟩
  · rw [dif_neg empty]
    by_cases few : numberOf env (ascii "URING_ENTRIES") 512 < 32
    · rw [dif_pos few]
      exact Or.inl ⟨_, rfl, .ringEntries read empty few⟩
    · rw [dif_neg few]
      exact Or.inr ⟨_, rfl, read, rfl, rfl, rfl, ⟨rfl, rfl⟩, rfl, rfl, rfl, rfl, rfl, rfl⟩

theorem refuses_once {env : Environment} {first second : StdException}
    (refuses : Refuses env first) (also : Refuses env second) : first = second := by
  cases refuses with
  | number name found =>
      cases also with
      | number other there => rw [Option.some.inj (found.symm.trans there)]
      | poolSize read | ringEntries read => cases found.symm.trans read
  | poolSize read empty =>
      cases also with
      | number other there => cases there.symm.trans read
      | poolSize => rfl
      | ringEntries _ workers => exact absurd empty workers
  | ringEntries read workers few =>
      cases also with
      | number other there => cases there.symm.trans read
      | poolSize _ empty => exact absurd empty workers
      | ringEntries => rfl

theorem Follows.not_refused {env : Environment} {config : AppConfig} (follows : Follows env config)
    {error : StdException} : ¬Refuses env error := by
  intro refuses
  cases refuses with
  | number name found => cases found.symm.trans follows.read
  | poolSize _ empty => exact config.poolSizePositive (follows.poolSize.trans empty)
  | ringEntries _ _ few =>
      rw [← follows.ringEntries] at few
      exact UInt32.not_le.mpr few config.ringEntriesEnough

/-- From everything that the process can get to, its own steps answer what it has been
asked, unless a line that has arrived raises an exception. -/
def Serves (mysql : Mysql) (process : Process) : Prop :=
  ∀ later, Reachable (Program.step mysql) process later → hasRaised later.system = false →
    admitted later.system ≤ 2 ^ 64 →
      ∃ last, ProcessLeads mysql later last ∧ (hasRaised last.system = true ∨ Settled last)

theorem serves_of_config (mysql : Mysql) (config : AppConfig) (tables : Tables) :
    Serves mysql (Program.start config.loop config.database.poolSize.toNat tables) := by
  have positive : 0 < config.database.poolSize.toNat := by
    apply Nat.pos_of_ne_zero
    intro none_
    exact config.poolSizePositive (UInt32.toNat_inj.mp none_)
  intro later reached running unwrapped
  rcases loop_leads_to_wait reached running unwrapped with ⟨first, turned, small, ends⟩
  have there : Reachable (Program.step mysql)
      (Program.start config.loop config.database.poolSize.toNat tables) first :=
    turned.invariant reached fun _ _ _ before _ taken => before.next taken
  rcases ends with raised | waits
  · exact ⟨first, turned, Or.inl raised⟩
  · rcases wait_leads_to_settled positive there waits small with ⟨last, settles, settled⟩
    exact ⟨last, turned.trans settles, Or.inr settled⟩

def setupCalls (poolSize : Nat) : List SetupCall :=
  .eventfd :: (List.range poolSize).map .thread ++
    [.socket, .setReuseaddr, .getFlags, .setFlags, .bind, .listen, .queueInit]

def firstError (machine : Machine) (calls : List SetupCall) : Option StdException :=
  calls.findSome? fun call => (machine call).map call.error

theorem attempts_eq (machine : Machine) (calls : List SetupCall) :
    forM calls (attempt machine) =
      match firstError machine calls with
      | none => .ok ()
      | some error => .error error := by
  induction calls with
  | nil => rfl
  | cons call rest ih =>
      rw [List.forM_cons, attempt, firstError, List.findSome?_cons]
      cases machine call with
      | none => exact ih
      | some text => rfl

theorem attempts_error {machine : Machine} {calls : List SetupCall} {error : StdException}
    (failed : firstError machine calls = some error) :
    forM calls (attempt machine) = .error error := by
  rw [attempts_eq, failed]

theorem attempts_ok {machine : Machine} {calls : List SetupCall}
    (passed : firstError machine calls = none) : forM calls (attempt machine) = .ok () := by
  rw [attempts_eq, passed]

theorem set_up_eq (machine : Machine) (poolSize : Nat) :
    (do
      attempt machine .eventfd
      startWorkers machine poolSize
      setupListenSocket machine
      attempt machine .queueInit) = forM (setupCalls poolSize) (attempt machine) := by
  simp only [setupCalls, startWorkers, setupListenSocket, setNonblocking, List.cons_append,
    List.forM_cons, List.forM_append, List.forM_map, List.forM_nil, bind_assoc, bind_pure_unit]

/-- Why the event loop is not reached: the first thing that goes wrong. -/
inductive Stops (env : Environment) (machine : Machine) : StdException → Prop
  | library (text : Bytes) (failed : machine .mysqlLibraryInit = some text) :
      Stops env machine (SetupCall.mysqlLibraryInit.error text)
  | configuration (ready : machine .mysqlLibraryInit = none) {error : StdException}
      (refuses : Refuses env error) : Stops env machine error
  | setup (ready : machine .mysqlLibraryInit = none) (config : AppConfig)
      (follows : Follows env config) {error : StdException}
      (failed : firstError machine (setupCalls config.database.poolSize.toNat) = some error) :
      Stops env machine error

theorem main_eq (env : Environment) (machine : Machine) (tables : Tables) :
    main env machine tables = (do
      attempt machine .mysqlLibraryInit
      let config ← loadConfigFromEnv env
      forM (setupCalls config.database.poolSize.toNat) (attempt machine)
      return Program.start config.loop config.database.poolSize.toNat tables) := by
  simp only [main, ← set_up_eq, bind_assoc]

theorem main_cases (env : Environment) (machine : Machine) (tables : Tables) :
    (∃ error, main env machine tables = .error error ∧ Stops env machine error) ∨
      ∃ config, Follows env config ∧ machine .mysqlLibraryInit = none ∧
        firstError machine (setupCalls config.database.poolSize.toNat) = none ∧
        main env machine tables =
          .ok (Program.start config.loop config.database.poolSize.toNat tables) := by
  simp only [main_eq]
  cases ready : machine .mysqlLibraryInit with
  | some text =>
      refine Or.inl ⟨_, ?_, .library text ready⟩
      rw [attempt, ready]
      rfl
  | none =>
      rw [attempt, ready]
      rcases load_config_cases env with ⟨error, failed, refuses⟩ | ⟨config, loaded, follows⟩
      · refine Or.inl ⟨error, ?_, .configuration ready refuses⟩
        rw [failed]
        rfl
      · rw [loaded]
        cases first : firstError machine (setupCalls config.database.poolSize.toNat) with
        | some error =>
            refine Or.inl ⟨error, ?_, .setup ready config follows first⟩
            change forM (setupCalls config.database.poolSize.toNat) (attempt machine) >>= _ = _
            rw [attempts_error first]
            rfl
        | none =>
            refine Or.inr ⟨config, follows, rfl, first, ?_⟩
            change forM (setupCalls config.database.poolSize.toNat) (attempt machine) >>= _ = _
            rw [attempts_ok first]
            rfl

theorem stops_once {env : Environment} {machine : Machine} {first second : StdException}
    (stops : Stops env machine first) (also : Stops env machine second) : first = second := by
  cases stops with
  | library text failed =>
      cases also with
      | library other there => rw [Option.some.inj (failed.symm.trans there)]
      | configuration ready | setup ready => cases failed.symm.trans ready
  | configuration ready refuses =>
      cases also with
      | library text failed => cases ready.symm.trans failed
      | configuration _ others => exact refuses_once refuses others
      | setup _ config follows => exact absurd refuses follows.not_refused
  | setup ready config follows failed =>
      cases also with
      | library text there => cases ready.symm.trans there
      | configuration _ refuses => exact absurd refuses follows.not_refused
      | setup _ other same there =>
          rw [follows.poolSize, ← same.poolSize] at failed
          exact Option.some.inj (failed.symm.trans there)

theorem not_stopped {env : Environment} {machine : Machine} {config : AppConfig}
    {error : StdException} (follows : Follows env config)
    (ready : machine .mysqlLibraryInit = none)
    (passed : firstError machine (setupCalls config.database.poolSize.toNat) = none) :
    ¬Stops env machine error := by
  intro stops
  cases stops with
  | library text failed => cases ready.symm.trans failed
  | configuration _ refuses => exact follows.not_refused refuses
  | setup _ other same failed =>
      rw [same.poolSize, ← follows.poolSize, passed] at failed
      cases failed

/-- `main` ends with exactly one error, or starts a process with the numbers and texts of
the environment that serves its clients. -/
theorem main_serves (mysql : Mysql) (env : Environment) (machine : Machine) (tables : Tables) :
    (∀ error, main env machine tables = .error error ↔ Stops env machine error) ∧
      ∀ process, main env machine tables = .ok process → Serves mysql process ∧
        ∃ config, Follows env config ∧
          process = Program.start config.loop config.database.poolSize.toNat tables := by
  rcases main_cases env machine tables with
    ⟨cause, ends, stops⟩ | ⟨config, follows, ready, passed, starts⟩
  · rw [ends]
    constructor
    · intro error
      constructor
      · intro same
        rw [← Except.error.inj same]
        exact stops
      · intro also
        rw [stops_once stops also]
    · intro process same
      cases same
  · rw [starts]
    constructor
    · intro error
      constructor
      · intro same
        cases same
      · intro stops
        exact absurd stops (not_stopped follows ready passed)
    · intro process same
      rw [← Except.ok.inj same]
      exact ⟨serves_of_config mysql config tables, config, follows, rfl⟩

/-- A port beyond 16 bits, a number with a space, a sign and a letter around it, an empty
variable and a pool size beyond 32 bits. -/
def oddValues : Environment := fun name =>
  if name = ascii "SERVER_PORT" then some (ascii "70000")
  else if name = ascii "URING_ENTRIES" then some (ascii " +64x")
  else if name = ascii "MYSQL_PORT" then some []
  else if name = ascii "MYSQL_POOL_SIZE" then some (ascii "4294967297")
  else none

def busyPort : Machine := fun call =>
  if call = .bind then some (ascii "Address already in use") else none

theorem main_serves_odd_values :
    Stops oddValues busyPort (.runtimeError (ascii "bind failed: Address already in use")) ∧
      ∃ process config, main oddValues (fun _ => none) Tables.empty = .ok process ∧
        Follows oddValues config ∧ config.server.port = 4464 ∧ config.server.ringEntries = 64 ∧
        config.database.port = 3306 ∧ config.database.poolSize = 1 ∧
          Serves Mysql.binary process := by
  have started : main oddValues (fun _ => none) Tables.empty =
      .ok (Program.start ⟨64, 4096, 8192, by decide⟩ 1 Tables.empty) := by
    rfl
  rcases (main_serves Mysql.binary oddValues (fun _ => none) Tables.empty).2 _ started with
    ⟨serves, config, follows, _⟩
  refine ⟨((main_serves Mysql.binary oddValues busyPort Tables.empty).1 _).mp (by rfl), _, config,
    started, follows, ?_, ?_, ?_, ?_, serves⟩
  · rw [follows.serverPort]
    decide
  · rw [follows.ringEntries]
    decide
  · rw [follows.databasePort]
    decide
  · rw [follows.poolSize]
    decide

end DungeonPortfolio.Startup
