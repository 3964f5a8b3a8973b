import DungeonPortfolio.Dispatcher
import DungeonPortfolio.Protocol

/-!
# The event loop

`IoUringGameServer` of `src/server.cpp` with the kernel and the workers around
it. A step of the server is one piece of `run()` up to the next point where it
looks at the ring, a line or a completion again; the kernel and the workers step
in between. `stopping_` is set by the destructor only, after `run()` has ended,
so the branches under it are left out.

The kernel binds an operation to a connection when the operation is submitted.
Connections are numbered in the order they are accepted; the number is never
seen by the server.
-/

namespace DungeonPortfolio.Server

open DungeonPortfolio.Text DungeonPortfolio.Protocol DungeonPortfolio.World
open DungeonPortfolio.Dispatcher

set_option autoImplicit false

structure ServerConfig where
  ringEntries : Nat
  recvBufferSize : Nat
  maxLineSize : Nat
  ringEntriesPositive : 0 < ringEntries

def ServerConfig.default : ServerConfig := ⟨512, 4096, 8192, by decide⟩

/-- A session is stored under its `fd`. -/
structure Session where
  generation : Nat
  input : Bytes
  outbox : List Bytes
  writeInFlight : Bool
  closeAfterFlush : Bool
  pendingDb : Nat
  deriving DecidableEq, Repr

/-- The lines the server itself sends; `text` is the string the source builds. -/
inductive ServerLine where
  | hello
  | err (message : Bytes)
  | bye
  | pending (requestId : Nat) (commandName : Bytes)
  | completion (ok : Bool) (requestId : Nat) (line : Bytes)
  | world (line : WorldLine)
  deriving DecidableEq, Repr

def ServerLine.text : ServerLine → Bytes
  | .hello => ascii
      "HELLO commands=REGISTER,LOGIN,SAVE,LOAD,ENTER,MOVE,ATTACK,SAVE_ITEM,LOAD_INVENTORY,QUIT"
  | .err message => ascii "ERR " ++ message
  | .bye => ascii "BYE"
  | .pending requestId commandName => ascii "PENDING " ++ printNat requestId ++ ascii " " ++
      commandName
  | .completion ok requestId line => (if ok then ascii "DONE " else ascii "FAIL ") ++
      printNat requestId ++ ascii " " ++ line
  | .world line => line.text

/-- The newline `queue_response` adds when the line has none at its end. -/
def terminated (line : Bytes) : Bytes :=
  if line.getLast? = some newline then line else line ++ [newline]

inductive CompletionToken where
  | accept
  | recv (ref : SessionRef)
  | send (ref : SessionRef) (payload : Bytes)
  | databaseEvent
  deriving DecidableEq, Repr

/-- A submitted operation; accept and poll use no client connection, and neither
does an operation submitted on a closed fd. -/
structure Operation where
  token : CompletionToken
  connection : Option Nat
  deriving DecidableEq, Repr

structure Cqe where
  operation : Operation
  result : Int
  buffer : Bytes
  deriving DecidableEq, Repr

/-- Where `run()` stands. `opened`, `reaccepting` and `framed` are inside the
accept and recv handlers, `completing` is the loop over the completions. -/
inductive Position where
  | submitting
  | draining
  | opened (ref : SessionRef)
  | reaccepting
  | framing (ref : SessionRef)
  | framed (ref : SessionRef)
  | completing
  | raised (exception : StdException)
  deriving DecidableEq, Repr

inductive CloseCause where
  | endOfStream
  | sendFailure
  | flushed
  deriving DecidableEq, Repr

/-- What an observer of the program and of the kernel records. -/
inductive Event where
  | accepted (ref : SessionRef) (connection : Option Nat)
  | received (ref : SessionRef) (connection : Option Nat) (bytes : Bytes)
  | lineHandled (ref : SessionRef) (line : Bytes)
  | queued (ref : SessionRef) (line : ServerLine)
  | dropped (ref : SessionRef) (line : ServerLine)
  | transmitted (connection : Nat) (ref : SessionRef) (bytes : Bytes)
  | sent (ref : SessionRef) (bytes : Bytes)
  | submitted (job : DbJob)
  | handled (completion : DbCompletion)
  | closed (ref : SessionRef) (cause : CloseCause)
  deriving DecidableEq, Repr

/-- The two 64-bit counters are kept as the number they would have without
wrapping; the program sees `counterValue`. -/
structure System where
  config : ServerConfig
  world : SectorWorld
  sessions : Int → Option Session
  nextRequestId : Nat
  nextSessionGeneration : Nat
  position : Position
  prepared : List CompletionToken
  inFlight : List Operation
  completed : List Cqe
  connections : Int → Option Nat
  nextConnection : Nat
  database : DbDispatcher
  history : List Event

def counterValue (count : Nat) : Nat := count % 2 ^ 64

namespace System

def setSession (system : System) (fd : Int) (session : Option Session) : System :=
  { system with sessions := Function.update system.sessions fd session }

def record (system : System) (event : Event) : System :=
  { system with history := system.history ++ [event] }

/-- The session `session_matches` finds. -/
def live (system : System) (ref : SessionRef) : Option Session :=
  (system.sessions ref.fd).filter fun session => session.generation = ref.generation

def sessionMatches (system : System) (ref : SessionRef) : Bool := (system.live ref).isSome

def bind (system : System) (token : CompletionToken) : Operation :=
  match token with
  | .accept => ⟨token, none⟩
  | .recv ref => ⟨token, system.connections ref.fd⟩
  | .send ref _ => ⟨token, system.connections ref.fd⟩
  | .databaseEvent => ⟨token, none⟩

def submit (system : System) : System :=
  { system with
    prepared := []
    inFlight := system.inFlight ++ system.prepared.map system.bind }

/-- `get_sqe`: a full submission queue is submitted first. -/
def getSqe (system : System) : System :=
  if system.prepared.length < system.config.ringEntries then system else system.submit

def prepare (system : System) (token : CompletionToken) : System :=
  { system with prepared := system.prepared ++ [token] }

def postAccept (system : System) : System := system.getSqe.prepare .accept

def postRecv (system : System) (ref : SessionRef) : System := system.getSqe.prepare (.recv ref)

def postEventfdPoll (system : System) : System := system.getSqe.prepare .databaseEvent

def postSend (system : System) (fd : Int) : System :=
  match system.sessions fd with
  | none => system
  | some session =>
      match session.writeInFlight, session.outbox with
      | true, _ => system
      | false, [] => system
      | false, front :: _ =>
          (system.setSession fd (some { session with writeInFlight := true })).getSqe.prepare
            (.send ⟨fd, session.generation⟩ front)

def queueResponse (system : System) (ref : SessionRef) (line : ServerLine) : System :=
  match system.live ref with
  | none => system.record (.dropped ref line)
  | some session =>
      let outbox := session.outbox ++ [terminated line.text]
      ((system.setSession ref.fd (some { session with outbox })).record
        (.queued ref line)).postSend ref.fd

def deliverWorldEvents (system : System) (events : List WorldEvent) : System :=
  events.foldl (fun system event => system.queueResponse event.receiver (.world event.line)) system

def setWorld (system : System) (world : SectorWorld) : System := { system with world }

def submitJob (system : System) (job : DbJob) : System :=
  { system with
    nextRequestId := system.nextRequestId + 1
    database := system.database.submit job
    history := system.history ++ [.submitted job] }

def positionJob (requestId : Nat) (ref : SessionRef) (account character : Bytes)
    (x y : Int32) : DbJob where
  client := ref
  requestId := requestId
  operation := .savePosition
  commandName := ascii "SAVE_POSITION"
  args := [account, character, printInt x, printInt y]
  notifyClient := false

def submitPositionSave (system : System) (ref : SessionRef) (account character : Bytes)
    (x y : Int32) : System :=
  system.submitJob
    (positionJob (counterValue system.nextRequestId) ref account character x y)

/-- The lines that QUIT and `close_session` have in common. -/
def leaveWorld (system : System) (order : SectorWorld.CallOrder) (ref : SessionRef) : System :=
  let (world, events, snapshot) := system.world.leave order ref PlayerSnapshot.empty
  let delivered := (system.setWorld world).deliverWorldEvents events
  if snapshot.account.isEmpty then delivered
  else delivered.submitPositionSave ref snapshot.account snapshot.character snapshot.x snapshot.y

def closeSession (system : System) (order : SectorWorld.CallOrder) (cause : CloseCause)
    (fd : Int) : System :=
  match system.sessions fd with
  | none => system
  | some session =>
      let ref : SessionRef := ⟨fd, session.generation⟩
      let left := system.leaveWorld order ref
      { left with
        sessions := Function.update left.sessions fd none
        connections := Function.update left.connections fd none
        history := left.history ++ [.closed ref cause] }

def maybeCloseAfterFlush (system : System) (order : SectorWorld.CallOrder) (fd : Int) : System :=
  match system.sessions fd with
  | none => system
  | some session =>
      if session.closeAfterFlush && !session.writeInFlight && session.outbox.isEmpty then
        system.closeSession order .flushed fd
      else system

def setCloseAfterFlush (system : System) (fd : Int) : System :=
  match system.sessions fd with
  | none => system
  | some session => system.setSession fd (some { session with closeAfterFlush := true })

end System

def operationFor (command : CommandType) : Except StdException DbOperation :=
  match command with
  | .register => .ok .registerPlayer
  | .login => .ok .loginPlayer
  | .saveCharacter => .ok .saveCharacter
  | .loadCharacters => .ok .loadCharacters
  | .saveInventoryItem => .ok .saveInventoryItem
  | .loadInventory => .ok .loadInventory
  | .enterWorld | .move | .attack | .quit | .unknown =>
      .error (.runtimeError (ascii "command is not backed by a database operation"))

def isDatabaseCommand (command : CommandType) : Bool :=
  command = .register || command = .login || command = .saveCharacter ||
    command = .loadCharacters || command = .saveInventoryItem || command = .loadInventory

namespace System

def handleQuit (system : System) (order : SectorWorld.CallOrder) (ref : SessionRef) : System :=
  ((system.leaveWorld order ref).queueResponse ref .bye).setCloseAfterFlush ref.fd

def handleEnter (system : System) (order : SectorWorld.CallOrder) (ref : SessionRef)
    (args : List Bytes) : Except StdException System := do
  let account ← at? args 0
  let character ← at? args 1
  let x ← stoi (← at? args 2)
  let y ← stoi (← at? args 3)
  let (world, events) := system.world.enter order ref account character x y
  return ((system.setWorld world).deliverWorldEvents events).submitPositionSave ref account
    character x y

def handleMove (system : System) (order : SectorWorld.CallOrder) (ref : SessionRef)
    (args : List Bytes) : Except StdException System := do
  let x ← stoi (← at? args 0)
  let y ← stoi (← at? args 1)
  let (world, events) := system.world.move order ref x y
  return (system.setWorld world).deliverWorldEvents events

def handleAttack (system : System) (order : SectorWorld.CallOrder) (ref : SessionRef)
    (args : List Bytes) : Except StdException System := do
  let skill ← at? args 0
  let target ← at? args 1
  return system.deliverWorldEvents (system.world.attack order ref skill target)

def countPending (system : System) (fd : Int) : System :=
  match system.sessions fd with
  | none => system
  | some session => system.setSession fd (some { session with pendingDb := session.pendingDb + 1 })

def handleDatabaseCommand (system : System) (ref : SessionRef) (request : Request) :
    Except StdException System := do
  let requestId := counterValue system.nextRequestId
  let operation ← operationFor request.type
  let job : DbJob := ⟨ref, requestId, operation, request.commandName, request.args, true⟩
  return ((system.countPending ref.fd).queueResponse ref
    (.pending requestId request.commandName)).submitJob job

def handleClientLine (system : System) (order : SectorWorld.CallOrder) (ref : SessionRef)
    (line : Bytes) : Except StdException System :=
  match parseLine line with
  | .error message => .ok (system.queueResponse ref (.err message))
  | .ok request =>
      match request.type with
      | .quit => .ok (system.handleQuit order ref)
      | .enterWorld => system.handleEnter order ref request.args
      | .move => system.handleMove order ref request.args
      | .attack => system.handleAttack order ref request.args
      | type =>
          if !isDatabaseCommand type then
            .ok (system.queueResponse ref (.err (ascii "unsupported command")))
          else system.handleDatabaseCommand ref request

/-- `kAccept` up to the HELLO line. `emplace` leaves an entry that exists. -/
def handleAccept (system : System) (cqe : Cqe) : System :=
  if 0 ≤ cqe.result then
    let ref : SessionRef := ⟨cqe.result, counterValue system.nextSessionGeneration⟩
    let session : Session := ⟨ref.generation, [], [], false, false, 0⟩
    let opened : System := { system with
      nextSessionGeneration := system.nextSessionGeneration + 1
      sessions := Function.update system.sessions ref.fd
        (some ((system.sessions ref.fd).getD session))
      position := .opened ref
      history := system.history ++ [.accepted ref cqe.operation.connection] }
    opened.queueResponse ref .hello
  else { system with position := .reaccepting }

/-- `kRecv` up to the loop over the lines. -/
def handleRecv (system : System) (order : SectorWorld.CallOrder) (ref : SessionRef) (cqe : Cqe) :
    System :=
  match system.live ref with
  | none => system
  | some session =>
      if cqe.result ≤ 0 then system.closeSession order .endOfStream ref.fd
      else
        let bytes := cqe.buffer.take cqe.result.toNat
        let filled := system.setSession ref.fd (some { session with input := session.input ++ bytes })
        { filled.record (.received ref cqe.operation.connection bytes) with
          position := .framing ref }

/-- `input.find('\n')`: the bytes before the first newline and those after it. -/
def cutLine (input : Bytes) : Option (Bytes × Bytes) :=
  match input.dropWhile fun byte => byte != newline with
  | [] => none
  | _ :: rest => some (input.takeWhile fun byte => byte != newline, rest)

/-- One turn of the loop over the lines. -/
def frameLine (system : System) (order : SectorWorld.CallOrder) (ref : SessionRef) : System :=
  match system.sessions ref.fd with
  | none => { system with position := .framed ref }
  | some session =>
      match cutLine session.input with
      | none => { system with position := .framed ref }
      | some (line, rest) =>
          let taken := (system.setSession ref.fd (some { session with input := rest })).record
            (.lineHandled ref line)
          match taken.handleClientLine order ref line with
          | .error exception => { taken with position := .raised exception }
          | .ok handled =>
              match handled.live ref with
              | none => { handled with position := .framed ref }
              | some after =>
                  if after.closeAfterFlush then { handled with position := .framed ref }
                  else { handled with position := .framing ref }

/-- `kRecv` after the loop over the lines. -/
def finishRecv (system : System) (order : SectorWorld.CallOrder) (ref : SessionRef) : System :=
  match system.live ref with
  | none => { system with position := .draining }
  | some session =>
      let checked := if system.config.maxLineSize < session.input.length then
          (system.queueResponse ref (.err (ascii "line too long"))).setCloseAfterFlush ref.fd
        else system
      match checked.sessions ref.fd with
      | none => { checked with position := .draining }
      | some refreshed =>
          if refreshed.closeAfterFlush then
            { checked with position := .draining }.maybeCloseAfterFlush order ref.fd
          else { checked.postRecv ref with position := .draining }

def handleSend (system : System) (order : SectorWorld.CallOrder) (ref : SessionRef)
    (payload : Bytes) (cqe : Cqe) : System :=
  match system.live ref with
  | none => system
  | some session =>
      let idle := { session with writeInFlight := false }
      match session.outbox with
      | [] => (system.setSession ref.fd (some idle)).closeSession order .sendFailure ref.fd
      | front :: rest =>
          if cqe.result ≤ 0 then
            (system.setSession ref.fd (some idle)).closeSession order .sendFailure ref.fd
          else
            let bytesSent := cqe.result.toNat
            let outbox := if front.length ≤ bytesSent then rest else front.drop bytesSent :: rest
            (((system.setSession ref.fd (some { idle with outbox })).record
              (.sent ref (payload.take bytesSent))).postSend ref.fd).maybeCloseAfterFlush order
                ref.fd

def handleDatabaseEvent (system : System) : System :=
  { system with database := system.database.drainEvents, position := .completing }

/-- One turn of the loop over the completions. -/
def handleCompletion (system : System) (order : SectorWorld.CallOrder) : System :=
  match system.database.completions with
  | [] => { system.postEventfdPoll with position := .draining }
  | completion :: rest =>
      let popped := { system with
        database := { system.database with completions := rest }
        history := system.history ++ [.handled completion] }
      if completion.notifyClient then
        match popped.live completion.client with
        | none => popped
        | some session =>
            let counted := if 0 < session.pendingDb then
                popped.setSession completion.client.fd
                  (some { session with pendingDb := session.pendingDb - 1 })
              else popped
            (counted.queueResponse completion.client (.completion completion.ok
              completion.requestId completion.line)).maybeCloseAfterFlush order completion.client.fd
      else popped

def handleCqe (system : System) (order : SectorWorld.CallOrder) (cqe : Cqe) : System :=
  match cqe.operation.token with
  | .accept => system.handleAccept cqe
  | .recv ref => system.handleRecv order ref cqe
  | .send ref payload => system.handleSend order ref payload cqe
  | .databaseEvent => system.handleDatabaseEvent

/-- The next piece of `run()`. -/
def serverStep (system : System) (order : SectorWorld.CallOrder) : Option System :=
  match system.position with
  | .submitting => some { system.submit with position := .draining }
  | .draining =>
      match system.completed with
      | [] => some { system with position := .submitting }
      | cqe :: rest => some ({ system with completed := rest }.handleCqe order cqe)
  | .opened ref => some { system.postRecv ref with position := .reaccepting }
  | .reaccepting => some { system.postAccept with position := .draining }
  | .framing ref => some (system.frameLine order ref)
  | .framed ref => some (system.finishRecv order ref)
  | .completing => some (system.handleCompletion order)
  | .raised _ => none

end System

/-- `server` carries the iteration orders of the hash sets, the others what the
kernel or a worker chooses. -/
inductive Label where
  | server (order : SectorWorld.CallOrder)
  | accept (index : Nat) (fd : Nat)
  | recv (index : Nat) (bytes : Bytes)
  | send (index : Nat) (count : Nat)
  | fail (index : Nat) (result : Int)
  | poll (index : Nat)
  | take
  | finish (index : Nat) (ok : Bool) (line : Bytes)
  | signal

/-- A step of the server that goes through the hash sets in ascending order. -/
def Label.tick : Label := .server fun _ => .ascending

namespace System

def complete (system : System) (index : Nat) (cqe : Cqe) : System :=
  { system with
    inFlight := system.inFlight.eraseIdx index
    completed := system.completed ++ [cqe] }

def kernelAccept (system : System) (index fd : Nat) : Option System :=
  match system.inFlight[index]? with
  | some ⟨.accept, _⟩ =>
      match system.connections fd with
      | some _ => none
      | none => some { system.complete index ⟨⟨.accept, some system.nextConnection⟩, fd, []⟩ with
          connections := Function.update system.connections fd (some system.nextConnection)
          nextConnection := system.nextConnection + 1 }
  | _ => none

def kernelRecv (system : System) (index : Nat) (bytes : Bytes) : Option System :=
  match system.inFlight[index]? with
  | some ⟨.recv ref, some connection⟩ =>
      if bytes ≠ [] ∧ bytes.length ≤ system.config.recvBufferSize then
        some (system.complete index ⟨⟨.recv ref, some connection⟩, bytes.length, bytes⟩)
      else none
  | _ => none

def kernelSend (system : System) (index count : Nat) : Option System :=
  match system.inFlight[index]? with
  | some ⟨.send ref payload, some connection⟩ =>
      if 0 < count ∧ count ≤ payload.length then
        some ((system.complete index ⟨⟨.send ref payload, some connection⟩, count, []⟩).record
          (.transmitted connection ref (payload.take count)))
      else none
  | _ => none

def kernelFail (system : System) (index : Nat) (result : Int) : Option System :=
  match system.inFlight[index]? with
  | none => none
  | some operation =>
      match operation.token with
      | .databaseEvent => none
      | .accept =>
          if result < 0 then some (system.complete index ⟨operation, result, []⟩) else none
      | .recv _ | .send _ _ =>
          if result ≤ 0 then some (system.complete index ⟨operation, result, []⟩) else none

def kernelPoll (system : System) (index : Nat) : Option System :=
  match system.inFlight[index]? with
  | some ⟨.databaseEvent, connection⟩ =>
      if 0 < system.database.eventCount then
        some (system.complete index ⟨⟨.databaseEvent, connection⟩, 1, []⟩)
      else none
  | _ => none

def setDatabase (system : System) (database : DbDispatcher) : System := { system with database }

/-- Nothing happens any more once an exception has left `run()`. -/
def step (system : System) (label : Label) : Option System :=
  match system.position, label with
  | .raised _, _ => none
  | _, .server order => system.serverStep order
  | _, .accept index fd => system.kernelAccept index fd
  | _, .recv index bytes => system.kernelRecv index bytes
  | _, .send index count => system.kernelSend index count
  | _, .fail index result => system.kernelFail index result
  | _, .poll index => system.kernelPoll index
  | _, .take => system.database.take.map system.setDatabase
  | _, .finish index ok line => (system.database.finish index ok line).map system.setDatabase
  | _, .signal => system.database.signal.map system.setDatabase

/-- `run()` before its first wait: one accept and the eventfd poll are prepared. -/
def start (config : ServerConfig) (poolSize : Nat) : System where
  config := config
  world := SectorWorld.default
  sessions := fun _ => none
  nextRequestId := 1
  nextSessionGeneration := 1
  position := .submitting
  prepared := [.accept, .databaseEvent]
  inFlight := []
  completed := []
  connections := fun _ => none
  nextConnection := 0
  database := DbDispatcher.start poolSize
  history := []

end System

end DungeonPortfolio.Server
