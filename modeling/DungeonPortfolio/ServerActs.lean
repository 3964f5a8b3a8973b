import DungeonPortfolio.Library.Execution
import DungeonPortfolio.Library.Stream
import DungeonPortfolio.Server
import DungeonPortfolio.WorldIndex
import Mathlib.Logic.Relation

/-!
# What one step of the server can do

Every step is a chain of acts. An act touches one session, one completion or one
operation, and invariants of the server hold between any two acts, so each
invariant is proved by cases on the act. A reclaimed submission queue is an act
of its own: submitting commutes with everything a handler does between two
operations it prepares.
-/

namespace DungeonPortfolio.ServerActs

open DungeonPortfolio.Text DungeonPortfolio.Protocol DungeonPortfolio.World
open DungeonPortfolio.WorldIndex DungeonPortfolio.Dispatcher DungeonPortfolio.Server
open Library.Execution Library.HashSet Library.Stream

set_option autoImplicit false

def generationAt (system : System) (fd : Int) : Option Nat :=
  (system.sessions fd).map Session.generation

def busyWith : Position → Option SessionRef
  | .opened ref | .framing ref | .framed ref => some ref
  | _ => none

/-- The fd of a finished accept that has not been handled. -/
def arrival (cqe : Cqe) : Option Int :=
  if cqe.operation.token = .accept ∧ 0 ≤ cqe.result then some cqe.result else none

def arrivals (system : System) : List Int := system.completed.filterMap arrival

theorem live_eq_some {system : System} {ref : SessionRef} {session : Session} :
    system.live ref = some session ↔
      system.sessions ref.fd = some session ∧ session.generation = ref.generation := by
  simp [System.live, Option.filter_eq_some_iff]

theorem live_ne_none {system : System} {ref : SessionRef} :
    system.live ref ≠ none ↔ generationAt system ref.fd = some ref.generation := by
  rw [Option.ne_none_iff_exists']
  simp only [live_eq_some, generationAt, Option.map_eq_some_iff]

theorem live_of_generation {system : System} {ref : SessionRef}
    (alive : generationAt system ref.fd = some ref.generation) :
    ∃ session, system.live ref = some session :=
  Option.ne_none_iff_exists'.mp (live_ne_none.mpr alive)

theorem generation_of_live {system : System} {ref : SessionRef} {session : Session}
    (alive : system.live ref = some session) :
    generationAt system ref.fd = some ref.generation := by
  apply live_ne_none.mp
  rw [alive]
  exact Option.some_ne_none session

theorem live_updated {system next : System} {ref other : SessionRef} {session found : Session}
    (stored : next.sessions = Function.update system.sessions ref.fd (some session))
    (same : session.generation = ref.generation) (alive : next.live other = some found) :
    (other = ref ∧ found = session) ∨ (other.fd ≠ ref.fd ∧ system.live other = some found) := by
  rcases live_eq_some.mp alive with ⟨lookup, generation⟩
  rw [stored, Function.update_apply] at lookup
  split at lookup
  · rename_i here
    left
    have stays := Option.some.inj lookup
    rw [← stays, same] at generation
    constructor
    · cases other
      cases ref
      simp_all
    · exact stays.symm
  · rename_i elsewhere
    right
    exact ⟨elsewhere, live_eq_some.mpr ⟨lookup, generation⟩⟩

/-- `queue_response` to a live session once there is room for its send. -/
def pushLine (system : System) (ref : SessionRef) (session : Session) (line : ServerLine) :
    System :=
  let outbox := session.outbox ++ [terminated line.text]
  if session.writeInFlight then
    (system.setSession ref.fd (some { session with outbox })).record (.queued ref line)
  else
    ((system.setSession ref.fd (some { session with outbox, writeInFlight := true })).record
      (.queued ref line)).prepare (.send ref (outbox.headD []))

/-- `kSend` of a session that goes on, once there is room for its next send. -/
def progress (system : System) (ref : SessionRef) (session : Session) (payload : Bytes)
    (count : Nat) : System :=
  let outbox := advance session.outbox count
  let sent := (system.setSession ref.fd (some { session with
    outbox, writeInFlight := !outbox.isEmpty })).record (.sent ref (payload.take count))
  if outbox.isEmpty then sent else sent.prepare (.send ref (outbox.headD []))

-- Both pieces touch the session, the history and the submission queue only.

section

variable (system : System) (ref : SessionRef) (session : Session)

@[simp] theorem push_line_config (line : ServerLine) :
    (pushLine system ref session line).config = system.config := by
  unfold pushLine
  split
  · rfl
  · rfl

@[simp] theorem push_line_next_request_id (line : ServerLine) :
    (pushLine system ref session line).nextRequestId = system.nextRequestId := by
  unfold pushLine
  split
  · rfl
  · rfl

@[simp] theorem push_line_next_session_generation (line : ServerLine) :
    (pushLine system ref session line).nextSessionGeneration = system.nextSessionGeneration := by
  unfold pushLine
  split
  · rfl
  · rfl

@[simp] theorem push_line_position (line : ServerLine) :
    (pushLine system ref session line).position = system.position := by
  unfold pushLine
  split
  · rfl
  · rfl

@[simp] theorem push_line_in_flight (line : ServerLine) :
    (pushLine system ref session line).inFlight = system.inFlight := by
  unfold pushLine
  split
  · rfl
  · rfl

@[simp] theorem push_line_completed (line : ServerLine) :
    (pushLine system ref session line).completed = system.completed := by
  unfold pushLine
  split
  · rfl
  · rfl

@[simp] theorem push_line_connections (line : ServerLine) :
    (pushLine system ref session line).connections = system.connections := by
  unfold pushLine
  split
  · rfl
  · rfl

@[simp] theorem push_line_database (line : ServerLine) :
    (pushLine system ref session line).database = system.database := by
  unfold pushLine
  split
  · rfl
  · rfl

theorem push_line_world (line : ServerLine) :
    (pushLine system ref session line).world = system.world := by
  unfold pushLine
  split
  · rfl
  · rfl

theorem push_line_sessions (line : ServerLine) :
    (pushLine system ref session line).sessions = Function.update system.sessions ref.fd
      (some { session with
        outbox := session.outbox ++ [terminated line.text], writeInFlight := true }) := by
  unfold pushLine
  split
  · rename_i busy
    rw [← busy]
    rfl
  · rfl

theorem push_line_history (line : ServerLine) :
    (pushLine system ref session line).history = system.history ++ [.queued ref line] := by
  unfold pushLine
  split
  · rfl
  · rfl

theorem push_line_prepared (line : ServerLine) :
    (pushLine system ref session line).prepared = system.prepared ++
      if session.writeInFlight then []
      else [.send ref ((session.outbox ++ [terminated line.text]).headD [])] := by
  unfold pushLine
  split
  · exact (List.append_nil _).symm
  · rfl

@[simp] theorem progress_config (payload : Bytes) (count : Nat) :
    (progress system ref session payload count).config = system.config := by
  unfold progress
  simp only
  split
  · rfl
  · rfl

@[simp] theorem progress_next_request_id (payload : Bytes) (count : Nat) :
    (progress system ref session payload count).nextRequestId = system.nextRequestId := by
  unfold progress
  simp only
  split
  · rfl
  · rfl

@[simp] theorem progress_next_session_generation (payload : Bytes) (count : Nat) :
    (progress system ref session payload count).nextSessionGeneration = system.nextSessionGeneration := by
  unfold progress
  simp only
  split
  · rfl
  · rfl

@[simp] theorem progress_position (payload : Bytes) (count : Nat) :
    (progress system ref session payload count).position = system.position := by
  unfold progress
  simp only
  split
  · rfl
  · rfl

@[simp] theorem progress_in_flight (payload : Bytes) (count : Nat) :
    (progress system ref session payload count).inFlight = system.inFlight := by
  unfold progress
  simp only
  split
  · rfl
  · rfl

@[simp] theorem progress_completed (payload : Bytes) (count : Nat) :
    (progress system ref session payload count).completed = system.completed := by
  unfold progress
  simp only
  split
  · rfl
  · rfl

@[simp] theorem progress_connections (payload : Bytes) (count : Nat) :
    (progress system ref session payload count).connections = system.connections := by
  unfold progress
  simp only
  split
  · rfl
  · rfl

@[simp] theorem progress_database (payload : Bytes) (count : Nat) :
    (progress system ref session payload count).database = system.database := by
  unfold progress
  simp only
  split
  · rfl
  · rfl

theorem progress_sessions (payload : Bytes) (count : Nat) :
    (progress system ref session payload count).sessions = Function.update system.sessions ref.fd
      (some { session with
        outbox := advance session.outbox count
        writeInFlight := !(advance session.outbox count).isEmpty }) := by
  unfold progress
  simp only
  split
  · rfl
  · rfl

theorem progress_history (payload : Bytes) (count : Nat) :
    (progress system ref session payload count).history =
      system.history ++ [.sent ref (payload.take count)] := by
  unfold progress
  simp only
  split
  · rfl
  · rfl

theorem progress_prepared (payload : Bytes) (count : Nat) :
    (progress system ref session payload count).prepared = system.prepared ++
      if (advance session.outbox count).isEmpty then []
      else [.send ref ((advance session.outbox count).headD [])] := by
  unfold progress
  simp only
  split
  · exact (List.append_nil _).symm
  · rfl

end

def erase (system : System) (ref : SessionRef) (cause : CloseCause) : System :=
  { system with
    sessions := Function.update system.sessions ref.fd none
    connections := Function.update system.connections ref.fd none
    history := system.history ++ [.closed ref cause] }

def popCompletion (system : System) (completion : DbCompletion) (rest : List DbCompletion) :
    System :=
  { system with
    database := { system.database with completions := rest }
    history := system.history ++ [.handled completion] }

/-- Lines that are neither acknowledgements nor answers of the database. -/
def DirectLine : ServerLine → Prop
  | .pending _ _ | .completion _ _ _ => False
  | _ => True

def CallBy (ref : SessionRef) : WorldCall → Prop
  | .enter caller account _ _ _ => caller = ref ∧ account ≠ []
  | .move caller _ _ => caller = ref
  | .attack caller _ _ => caller = ref
  | .leave caller => caller = ref

def FitsInt (text : Bytes) : Prop :=
  -2147483648 ≤ signedDecimal text ∧ signedDecimal text ≤ 2147483647

/-- The coordinates of a line, if it is an ENTER or a MOVE, are values of `int`. -/
def Convertible (line : Bytes) : Prop :=
  match parseLine line with
  | .error _ => True
  | .ok request =>
      match request.type, request.args with
      | .enterWorld, [_, _, xText, yText] => FitsInt xText ∧ FitsInt yText
      | .move, [xText, yText] => FitsInt xText ∧ FitsInt yText
      | _, _ => True

inductive Act : System → System → Prop
  | submitted (system : System) : Act system system.submit
  | waited (system : System) (position : system.position = .submitting) :
      Act system { system with position := .draining }
  | drained (system : System) (position : system.position = .draining)
      (completed : system.completed = []) : Act system { system with position := .submitting }
  | dismissed (system : System) (cqe : Cqe) (rest : List Cqe) (ref : SessionRef)
      (position : system.position = .draining) (completed : system.completed = cqe :: rest)
      (token : cqe.operation.token = .recv ref ∨
        ∃ payload, cqe.operation.token = .send ref payload)
      (stale : system.live ref = none) : Act system { system with completed := rest }
  | refused (system : System) (cqe : Cqe) (rest : List Cqe)
      (position : system.position = .draining) (completed : system.completed = cqe :: rest)
      (token : cqe.operation.token = .accept) (failed : cqe.result < 0) :
      Act system { system with completed := rest, position := .reaccepting }
  | arrived (system : System) (cqe : Cqe) (rest : List Cqe) (ref : SessionRef)
      (position : system.position = .draining) (completed : system.completed = cqe :: rest)
      (token : cqe.operation.token = .accept) (succeeded : 0 ≤ cqe.result)
      (fresh : ref = ⟨cqe.result, counterValue system.nextSessionGeneration⟩)
      (vacant : system.sessions ref.fd = none) :
      Act system { system with
        completed := rest
        nextSessionGeneration := system.nextSessionGeneration + 1
        sessions := Function.update system.sessions ref.fd
          (some ⟨ref.generation, [], [], false, false, 0⟩)
        position := .opened ref
        history := system.history ++ [.accepted ref cqe.operation.connection] }
  | recvPosted (system : System) (ref : SessionRef) (position : system.position = .opened ref) :
      Act system { system.prepare (.recv ref) with position := .reaccepting }
  | acceptPosted (system : System) (position : system.position = .reaccepting) :
      Act system { system.prepare .accept with position := .draining }
  | answered (system : System) (ref : SessionRef) (session : Session) (line : ServerLine)
      (alive : system.live ref = some session) (direct : DirectLine line) :
      Act system (pushLine system ref session line)
  | received (system : System) (cqe : Cqe) (rest : List Cqe) (ref : SessionRef)
      (session : Session) (position : system.position = .draining)
      (completed : system.completed = cqe :: rest) (token : cqe.operation.token = .recv ref)
      (alive : system.live ref = some session) (succeeded : 0 < cqe.result) :
      Act system { (system.setSession ref.fd (some { session with
          input := session.input ++ cqe.buffer.take cqe.result.toNat })).record
            (.received ref cqe.operation.connection (cqe.buffer.take cqe.result.toNat)) with
        completed := rest
        position := .framing ref }
  | lineTaken (system : System) (ref : SessionRef) (session : Session) (line rest : Bytes)
      (position : system.position = .framing ref) (alive : system.live ref = some session)
      (cut : System.cutLine session.input = some (line, rest)) (convertible : Convertible line) :
      Act system ((system.setSession ref.fd (some { session with input := rest })).record
        (.lineHandled ref line))
  | raised (system : System) (ref : SessionRef) (session : Session) (line rest : Bytes)
      (exception : StdException) (position : system.position = .framing ref)
      (alive : system.live ref = some session)
      (cut : System.cutLine session.input = some (line, rest))
      (unconvertible : ¬Convertible line) :
      Act system { (system.setSession ref.fd (some { session with input := rest })).record
        (.lineHandled ref line) with position := .raised exception }
  | framed (system : System) (ref : SessionRef) (session : Session)
      (position : system.position = .framing ref) (alive : system.live ref = some session)
      (ended : session.closeAfterFlush = true ∨ System.cutLine session.input = none) :
      Act system { system with position := .framed ref }
  | worldCalled (system : System) (order : SectorWorld.CallOrder) (call : WorldCall)
      (ref : SessionRef) (alive : system.live ref ≠ none) (by_ : CallBy ref call) :
      Act system (system.setWorld (system.world.call order call).1)
  | saved (system : System) (ref : SessionRef) (account character : Bytes) (x y : Int32)
      (alive : system.live ref ≠ none) :
      Act system (system.submitPositionSave ref account character x y)
  | requested (system : System) (ref : SessionRef) (session : Session)
      (operation : DbOperation) (commandName : Bytes) (args : List Bytes)
      (alive : system.live ref = some session) (foreground : operation ≠ .savePosition) :
      Act system ((pushLine system ref { session with pendingDb := session.pendingDb + 1 }
        (.pending (counterValue system.nextRequestId) commandName)).submitJob
          ⟨ref, counterValue system.nextRequestId, operation, commandName, args, true⟩)
  | closing (system : System) (ref : SessionRef) (session : Session)
      (position : system.position = .framing ref ∨ system.position = .framed ref)
      (alive : system.live ref = some session) (queued : session.outbox ≠ []) :
      Act system (system.setSession ref.fd (some { session with closeAfterFlush := true }))
  | parked (system : System) (ref : SessionRef) (session : Session)
      (position : system.position = .framed ref) (alive : system.live ref = some session)
      (closing : session.closeAfterFlush = true) :
      Act system { system with position := .draining }
  | recvReposted (system : System) (ref : SessionRef) (session : Session)
      (position : system.position = .framed ref) (alive : system.live ref = some session)
      (open_ : session.closeAfterFlush = false) :
      Act system { system.prepare (.recv ref) with position := .draining }
  | erased (system : System) (ref : SessionRef) (session : Session) (cause : CloseCause)
      (position : system.position = .draining ∨ system.position = .completing)
      (alive : system.live ref = some session) (absent : system.world.players ref = none)
      (flushed : cause = .flushed → session.closeAfterFlush = true ∧
        session.writeInFlight = false ∧ session.outbox = []) :
      Act system (erase system ref cause)
  | awoken (system : System) (cqe : Cqe) (rest : List Cqe)
      (position : system.position = .draining) (completed : system.completed = cqe :: rest)
      (token : cqe.operation.token = .databaseEvent) :
      Act system { system with
        completed := rest, database := system.database.drainEvents, position := .completing }
  | skipped (system : System) (completion : DbCompletion) (rest : List DbCompletion)
      (position : system.position = .completing)
      (completions : system.database.completions = completion :: rest)
      (nobody : completion.notifyClient = false ∨ system.live completion.client = none) :
      Act system (popCompletion system completion rest)
  | completed (system : System) (completion : DbCompletion) (rest : List DbCompletion)
      (session : Session) (position : system.position = .completing)
      (completions : system.database.completions = completion :: rest)
      (notify : completion.notifyClient = true)
      (alive : system.live completion.client = some session) :
      Act system (pushLine (popCompletion system completion rest) completion.client
        { session with pendingDb := session.pendingDb - 1 }
        (.completion completion.ok completion.requestId completion.line))
  | pollPosted (system : System) (position : system.position = .completing)
      (completions : system.database.completions = []) :
      Act system { system.prepare .databaseEvent with position := .draining }

abbrev Acts : System → System → Prop := Relation.ReflTransGen Act

/-- A send that went through. -/
inductive Sent : System → SessionRef → System → Prop
  | progressed (system : System) (cqe : Cqe) (rest : List Cqe) (ref : SessionRef)
      (session : Session) (payload : Bytes) (position : system.position = .draining)
      (completed : system.completed = cqe :: rest)
      (token : cqe.operation.token = .send ref payload)
      (alive : system.live ref = some session) (queued : session.outbox ≠ [])
      (succeeded : 0 < cqe.result) :
      Sent system ref (progress { system with completed := rest } ref session payload
        cqe.result.toNat)

/-- A step of the server: a chain of acts, or a send that went through, after
there is room for the next one, and the check whether it was the last one. -/
inductive Turn (source next : System) : Prop
  | plain (chain : Acts source next)
  | sends (room middle : System) (ref : SessionRef) (order : SectorWorld.CallOrder)
      (reclaimed : room = source ∨ room = source.submit) (sent : Sent room ref middle)
      (checked : next = middle.maybeCloseAfterFlush order ref.fd) (chain : Acts middle next)

/-- The steps of the kernel and of the workers. -/
inductive Outside : System → Label → System → Prop
  | accepts (system : System) (index fd : Nat) (connection : Option Nat)
      (found : system.inFlight[index]? = some ⟨.accept, connection⟩)
      (vacant : system.connections fd = none) :
      Outside system (.accept index fd) {
        system.complete index ⟨⟨.accept, some system.nextConnection⟩, fd, []⟩ with
        connections := Function.update system.connections fd (some system.nextConnection)
        nextConnection := system.nextConnection + 1 }
  | receives (system : System) (index : Nat) (bytes : Bytes) (ref : SessionRef)
      (connection : Nat)
      (found : system.inFlight[index]? = some ⟨.recv ref, some connection⟩)
      (nonempty : bytes ≠ []) (fits : bytes.length ≤ system.config.recvBufferSize) :
      Outside system (.recv index bytes)
        (system.complete index ⟨⟨.recv ref, some connection⟩, bytes.length, bytes⟩)
  | transmits (system : System) (index count : Nat) (ref : SessionRef) (payload : Bytes)
      (connection : Nat)
      (found : system.inFlight[index]? = some ⟨.send ref payload, some connection⟩)
      (positive : 0 < count) (within : count ≤ payload.length) :
      Outside system (.send index count) ((system.complete index
        ⟨⟨.send ref payload, some connection⟩, count, []⟩).record
          (.transmitted connection ref (payload.take count)))
  | fails (system : System) (index : Nat) (operation : Operation) (result : Int)
      (found : system.inFlight[index]? = some operation)
      (negative : operation.token = .accept → result < 0) (notPositive : result ≤ 0) :
      Outside system (.fail index result) (system.complete index ⟨operation, result, []⟩)
  | polls (system : System) (index : Nat) (connection : Option Nat)
      (found : system.inFlight[index]? = some ⟨.databaseEvent, connection⟩)
      (ready : 0 < system.database.eventCount) :
      Outside system (.poll index)
        (system.complete index ⟨⟨.databaseEvent, connection⟩, 1, []⟩)
  | takes (system : System) (job : DbJob) (rest : List DbJob)
      (waiting : system.database.jobs.items = job :: rest)
      (idle : system.database.held.length + system.database.unsignalled <
        system.database.poolSize) :
      Outside system .take (system.setDatabase { system.database with
        jobs := { system.database.jobs with items := rest }
        held := system.database.held ++ [job] })
  | finishes (system : System) (index : Nat) (job : DbJob) (ok : Bool) (line : Bytes)
      (working : system.database.held[index]? = some job) :
      Outside system (.finish index ok line) (system.setDatabase { system.database with
        held := system.database.held.eraseIdx index
        completions := system.database.completions ++ [completionOf job ok line]
        unsignalled := system.database.unsignalled + 1 })
  | signals (system : System) (owed : system.database.unsignalled ≠ 0) :
      Outside system .signal (system.setDatabase { system.database with
        unsignalled := system.database.unsignalled - 1
        eventCount := system.database.eventCount + 1 })

/-- Every player in the world is a session of the table, every session has an
open fd, and an accepted connection waits for its handler on an fd of its own. -/
structure Coherent (system : System) : Prop where
  indexed : Indexed system.world
  inWorld : ∀ ref, system.world.players ref ≠ none →
    generationAt system ref.fd = some ref.generation
  named : ∀ ref player, system.world.players ref = some player → player.account ≠ []
  opened : ∀ fd, generationAt system fd ≠ none → system.connections fd ≠ none
  arriving : ∀ fd ∈ arrivals system, system.connections fd ≠ none ∧ generationAt system fd = none
  arrivesOnce : (arrivals system).Nodup
  busy : ∀ ref, busyWith system.position = some ref →
    generationAt system ref.fd = some ref.generation

/-- An act that leaves the world, the table's keys and the open fds alone. -/
theorem Coherent.frame {system next : System} (coherent : Coherent system)
    (world : next.world = system.world) (sessions : generationAt next = generationAt system)
    (connections : next.connections = system.connections)
    (arriving : (arrivals next).Sublist (arrivals system))
    (position : ∀ ref, busyWith next.position = some ref →
      generationAt system ref.fd = some ref.generation) : Coherent next where
  indexed := by
    rw [world]
    exact coherent.indexed
  inWorld := by
    rw [world, sessions]
    exact coherent.inWorld
  named := by
    rw [world]
    exact coherent.named
  opened := by
    rw [sessions, connections]
    exact coherent.opened
  arriving := by
    rw [sessions, connections]
    intro fd member
    exact coherent.arriving fd (arriving.subset member)
  arrivesOnce := coherent.arrivesOnce.sublist arriving
  busy := by
    rw [sessions]
    exact position

theorem stays_idle {system next : System} (idle : busyWith next.position = none) :
    ∀ ref, busyWith next.position = some ref → generationAt system ref.fd = some ref.generation := by
  intro ref busy
  rw [idle] at busy
  cases busy

theorem Coherent.stays_busy {system next : System} (coherent : Coherent system)
    (same : busyWith next.position = busyWith system.position) :
    ∀ ref, busyWith next.position = some ref → generationAt system ref.fd = some ref.generation := by
  rw [same]
  exact coherent.busy

@[simp] theorem generation_at_set_session (system : System) (fd other : Int)
    (session : Session) :
    generationAt (system.setSession fd (some session)) other =
      if other = fd then some session.generation else generationAt system other := by
  simp only [generationAt, System.setSession, Function.update_apply]
  split <;> rfl

theorem generation_at_replace {system : System} {ref : SessionRef} {session : Session}
    (alive : generationAt system ref.fd = some ref.generation)
    (same : session.generation = ref.generation) :
    generationAt (system.setSession ref.fd (some session)) = generationAt system := by
  funext fd
  rw [generation_at_set_session]
  split
  · rename_i here
    rw [here, alive, same]
  · rfl

theorem push_line_frame (system : System) {ref : SessionRef} (session : Session)
    (line : ServerLine) (alive : generationAt system ref.fd = some ref.generation)
    (same : session.generation = ref.generation) :
    (pushLine system ref session line).world = system.world ∧
    generationAt (pushLine system ref session line) = generationAt system ∧
    (pushLine system ref session line).connections = system.connections ∧
    (arrivals (pushLine system ref session line)).Sublist (arrivals system) ∧
    (pushLine system ref session line).position = system.position ∧
    (pushLine system ref session line).completed = system.completed := by
  unfold pushLine
  split
  · exact ⟨rfl, generation_at_replace alive same, rfl, List.Sublist.refl _, rfl, rfl⟩
  · exact ⟨rfl, generation_at_replace alive same, rfl, List.Sublist.refl _, rfl, rfl⟩

theorem progress_frame (system : System) {ref : SessionRef} (session : Session)
    (payload : Bytes) (count : Nat)
    (alive : generationAt system ref.fd = some ref.generation)
    (same : session.generation = ref.generation) :
    (progress system ref session payload count).world = system.world ∧
    generationAt (progress system ref session payload count) = generationAt system ∧
    (progress system ref session payload count).connections = system.connections ∧
    (arrivals (progress system ref session payload count)).Sublist (arrivals system) ∧
    (progress system ref session payload count).position = system.position := by
  unfold progress
  simp only
  split
  · exact ⟨rfl, generation_at_replace alive same, rfl, List.Sublist.refl _, rfl⟩
  · exact ⟨rfl, generation_at_replace alive same, rfl, List.Sublist.refl _, rfl⟩

theorem call_players_other {world : SectorWorld} {call : WorldCall} {ref other : SessionRef}
    (order : SectorWorld.CallOrder) (by_ : CallBy ref call) (different : other ≠ ref) :
    (world.call order call).1.players other = world.players other := by
  cases call with
  | enter caller account character x y =>
      obtain rfl := by_.1
      simp only [SectorWorld.call]
      rw [enter_players, Function.update_of_ne different]
  | move caller x y =>
      obtain rfl : caller = ref := by_
      simp only [SectorWorld.call]
      cases lookup : world.players caller with
      | none => rw [move_absent order x y lookup]
      | some old => rw [move_players order x y lookup, Function.update_of_ne different]
  | attack caller skill target => rfl
  | leave caller =>
      obtain rfl : caller = ref := by_
      simp only [SectorWorld.call]
      rw [leave_players, Function.update_of_ne different]

/-- The player a call leaves behind has an account if the caller had one. -/
theorem call_players_named {world : SectorWorld} {call : WorldCall} {ref : SessionRef}
    (order : SectorWorld.CallOrder) (by_ : CallBy ref call)
    (named : ∀ player, world.players ref = some player → player.account ≠ []) :
    ∀ player, (world.call order call).1.players ref = some player → player.account ≠ [] := by
  intro player present
  cases call with
  | enter caller account character x y =>
      obtain ⟨rfl, nonempty⟩ := by_
      simp only [SectorWorld.call] at present
      rw [enter_players, Function.update_self] at present
      rw [← Option.some.inj present]
      exact nonempty
  | move caller x y =>
      obtain rfl : caller = ref := by_
      simp only [SectorWorld.call] at present
      cases lookup : world.players caller with
      | none =>
          rw [move_absent order x y lookup, lookup] at present
          cases present
      | some old =>
          rw [move_players order x y lookup, Function.update_self] at present
          rw [← Option.some.inj present]
          exact named old lookup
  | attack caller skill target => exact named player present
  | leave caller =>
      obtain rfl : caller = ref := by_
      simp only [SectorWorld.call] at present
      rw [leave_players, Function.update_self] at present
      cases present

theorem coherent_world_call {system : System} {ref : SessionRef} {call : WorldCall}
    (coherent : Coherent system) (order : SectorWorld.CallOrder)
    (alive : generationAt system ref.fd = some ref.generation) (by_ : CallBy ref call) :
    Coherent (system.setWorld (system.world.call order call).1) where
  indexed := indexed_call coherent.indexed order call
  inWorld := by
    intro other present
    by_cases self : other = ref
    · rw [self]
      exact alive
    · apply coherent.inWorld other
      rw [← call_players_other order by_ self]
      exact present
  named := by
    intro other player present
    by_cases self : other = ref
    · subst other
      exact call_players_named order by_ (coherent.named ref) player present
    · apply coherent.named other player
      rw [← call_players_other order by_ self]
      exact present
  opened := coherent.opened
  arriving := coherent.arriving
  arrivesOnce := coherent.arrivesOnce
  busy := coherent.busy

theorem arrivals_pop {system : System} {cqe : Cqe} {rest : List Cqe}
    (completed : system.completed = cqe :: rest) :
    (rest.filterMap arrival).Sublist (arrivals system) := by
  unfold arrivals
  rw [completed]
  exact (List.sublist_cons_self cqe rest).filterMap _

theorem coherent_arrived {system : System} {cqe : Cqe} {rest : List Cqe} {ref : SessionRef}
    (coherent : Coherent system) (completed : system.completed = cqe :: rest)
    (token : cqe.operation.token = .accept) (succeeded : 0 ≤ cqe.result)
    (fresh : ref = ⟨cqe.result, counterValue system.nextSessionGeneration⟩) :
    Coherent { system with
      completed := rest
      nextSessionGeneration := system.nextSessionGeneration + 1
      sessions := Function.update system.sessions ref.fd
        (some ⟨ref.generation, [], [], false, false, 0⟩)
      position := .opened ref
      history := system.history ++ [.accepted ref cqe.operation.connection] } := by
  have listed : arrivals system = ref.fd :: rest.filterMap arrival := by
    have found : arrival cqe = some ref.fd := by
      rw [fresh]
      exact if_pos ⟨token, succeeded⟩
    rw [arrivals, completed, List.filterMap_cons_some found]
  have arrived := coherent.arriving ref.fd (by rw [listed]; exact List.mem_cons_self)
  have once := coherent.arrivesOnce
  rw [listed, List.nodup_cons] at once
  have keys : ∀ fd, generationAt { system with
      completed := rest
      nextSessionGeneration := system.nextSessionGeneration + 1
      sessions := Function.update system.sessions ref.fd
        (some ⟨ref.generation, [], [], false, false, 0⟩)
      position := .opened ref
      history := system.history ++ [.accepted ref cqe.operation.connection] } fd =
        if fd = ref.fd then some ref.generation else generationAt system fd :=
    fun fd => generation_at_set_session system ref.fd fd _
  constructor
  · exact coherent.indexed
  · intro other present
    have before := coherent.inWorld other present
    rw [keys, if_neg, before]
    intro same
    rw [same, arrived.2] at before
    cases before
  · exact coherent.named
  · intro fd alive
    rw [keys] at alive
    by_cases here : fd = ref.fd
    · rw [here]
      exact arrived.1
    · rw [if_neg here] at alive
      exact coherent.opened fd alive
  · intro fd member
    have different : fd ≠ ref.fd := by
      intro same
      rw [same] at member
      exact once.1 member
    have waiting := coherent.arriving fd (by rw [listed]; exact List.mem_cons_of_mem _ member)
    rw [keys, if_neg different]
    exact waiting
  · exact once.2
  · intro other busy
    obtain rfl := Option.some.inj busy
    rw [keys, if_pos rfl]

theorem coherent_erased {system : System} {ref : SessionRef} (coherent : Coherent system)
    (cause : CloseCause) (position : busyWith system.position = none)
    (alive : generationAt system ref.fd = some ref.generation)
    (absent : system.world.players ref = none) : Coherent (erase system ref cause) := by
  have keys : ∀ fd, generationAt (erase system ref cause) fd =
      if fd = ref.fd then none else generationAt system fd := by
    intro fd
    simp only [generationAt, erase, Function.update_apply]
    split <;> rfl
  have waiting : ∀ fd ∈ arrivals system, fd ≠ ref.fd := by
    intro fd member same
    have free := (coherent.arriving fd member).2
    rw [same, alive] at free
    cases free
  constructor
  · exact coherent.indexed
  · intro other present
    have before := coherent.inWorld other present
    rw [keys, if_neg, before]
    intro same
    rw [same, alive] at before
    have equal : other = ref := by
      cases other
      cases ref
      simp_all
    exact present (by rw [equal]; exact absent)
  · exact coherent.named
  · intro fd open_
    rw [keys] at open_
    by_cases here : fd = ref.fd
    · rw [if_pos here] at open_
      exact absurd rfl open_
    · rw [if_neg here] at open_
      simp only [erase, Function.update_of_ne here]
      exact coherent.opened fd open_
  · intro fd member
    have different := waiting fd member
    rw [keys, if_neg different]
    simp only [erase, Function.update_of_ne different]
    exact coherent.arriving fd member
  · exact coherent.arrivesOnce
  · intro other busy
    have idle : busyWith (erase system ref cause).position = none := position
    rw [idle] at busy
    cases busy

theorem coherent_act {system next : System} (coherent : Coherent system) (act : Act system next) :
    Coherent next := by
  cases act with
  | submitted => exact coherent.frame rfl rfl rfl (List.Sublist.refl _) (coherent.stays_busy rfl)
  | waited => exact coherent.frame rfl rfl rfl (List.Sublist.refl _) (stays_idle rfl)
  | drained => exact coherent.frame rfl rfl rfl (List.Sublist.refl _) (stays_idle rfl)
  | dismissed cqe rest ref position completed =>
      exact coherent.frame rfl rfl rfl (arrivals_pop completed) (coherent.stays_busy rfl)
  | refused cqe rest position completed =>
      exact coherent.frame rfl rfl rfl (arrivals_pop completed) (stays_idle rfl)
  | arrived cqe rest ref position completed token succeeded fresh =>
      exact coherent_arrived coherent completed token succeeded fresh
  | recvPosted => exact coherent.frame rfl rfl rfl (List.Sublist.refl _) (stays_idle rfl)
  | acceptPosted => exact coherent.frame rfl rfl rfl (List.Sublist.refl _) (stays_idle rfl)
  | answered ref session line alive =>
      obtain ⟨world, keys, connections, arrived, position, _⟩ := push_line_frame system session
        line (generation_of_live alive) (live_eq_some.mp alive).2
      exact coherent.frame world keys connections arrived (coherent.stays_busy (congrArg busyWith position))
  | received cqe rest ref session position completed token alive =>
      have same := (live_eq_some.mp alive).2
      refine coherent.frame rfl (generation_at_replace (generation_of_live alive) ?_) rfl
        (arrivals_pop completed) ?_
      · exact same
      intro other busy
      obtain rfl := Option.some.inj busy
      exact generation_of_live alive
  | lineTaken ref session line rest position alive =>
      have same := (live_eq_some.mp alive).2
      exact coherent.frame rfl (generation_at_replace (generation_of_live alive) same) rfl
        (List.Sublist.refl _) (coherent.stays_busy rfl)
  | raised ref session line rest exception position alive =>
      have same := (live_eq_some.mp alive).2
      exact coherent.frame rfl (generation_at_replace (generation_of_live alive) same) rfl
        (List.Sublist.refl _) (stays_idle rfl)
  | framed ref session position =>
      refine coherent.frame rfl rfl rfl (List.Sublist.refl _) (coherent.stays_busy ?_)
      rw [position]
      rfl
  | worldCalled order call ref alive by_ =>
      exact coherent_world_call coherent order (live_ne_none.mp alive) by_
  | saved => exact coherent.frame rfl rfl rfl (List.Sublist.refl _) (coherent.stays_busy rfl)
  | requested ref session operation commandName args alive =>
      obtain ⟨world, keys, connections, arrived, position, _⟩ := push_line_frame system
        { session with pendingDb := session.pendingDb + 1 }
        (.pending (counterValue system.nextRequestId) commandName)
        (generation_of_live alive) (live_eq_some.mp alive).2
      exact coherent.frame world keys connections arrived
        (coherent.stays_busy (congrArg busyWith position))
  | closing ref session position alive =>
      have same := (live_eq_some.mp alive).2
      exact coherent.frame rfl (generation_at_replace (generation_of_live alive) same) rfl
        (List.Sublist.refl _) (coherent.stays_busy rfl)
  | parked => exact coherent.frame rfl rfl rfl (List.Sublist.refl _) (stays_idle rfl)
  | recvReposted => exact coherent.frame rfl rfl rfl (List.Sublist.refl _) (stays_idle rfl)
  | erased ref session cause position alive absent =>
      have idle : busyWith system.position = none := by
        rcases position with draining | completing
        · rw [draining]
          rfl
        · rw [completing]
          rfl
      exact coherent_erased coherent cause idle (generation_of_live alive) absent
  | awoken cqe rest position completed =>
      exact coherent.frame rfl rfl rfl (arrivals_pop completed) (stays_idle rfl)
  | skipped => exact coherent.frame rfl rfl rfl (List.Sublist.refl _) (coherent.stays_busy rfl)
  | completed completion rest session position completions notify alive =>
      have framed : Coherent (popCompletion system completion rest) :=
        coherent.frame rfl rfl rfl (List.Sublist.refl _) (coherent.stays_busy rfl)
      obtain ⟨world, keys, connections, arrived, same, _⟩ := push_line_frame
        (popCompletion system completion rest)
        { session with pendingDb := session.pendingDb - 1 }
        (.completion completion.ok completion.requestId completion.line)
        (generation_of_live alive) (live_eq_some.mp alive).2
      exact framed.frame world keys connections arrived
        (framed.stays_busy (congrArg busyWith same))
  | pollPosted => exact coherent.frame rfl rfl rfl (List.Sublist.refl _) (stays_idle rfl)

theorem coherent_sent {system next : System} {ref : SessionRef} (coherent : Coherent system)
    (sent : Sent system ref next) : Coherent next := by
  cases sent with
  | progressed cqe rest _ session payload position completed token alive =>
      have framed : Coherent { system with completed := rest } :=
        coherent.frame rfl rfl rfl (arrivals_pop completed) (coherent.stays_busy rfl)
      obtain ⟨world, keys, connections, arrived, same⟩ := progress_frame
        { system with completed := rest } session payload cqe.result.toNat
        (generation_of_live alive) (live_eq_some.mp alive).2
      exact framed.frame world keys connections arrived
        (framed.stays_busy (congrArg busyWith same))

theorem coherent_acts {system next : System} (coherent : Coherent system)
    (acts : Acts system next) : Coherent next := by
  induction acts with
  | refl => exact coherent
  | tail earlier last ih => exact coherent_act ih last

theorem arrivals_complete (system : System) (index : Nat) (cqe : Cqe) :
    arrivals (system.complete index cqe) = arrivals system ++ (arrival cqe).toList := by
  simp only [arrivals, System.complete, List.filterMap_append]
  cases found : arrival cqe with
  | none => simp [found]
  | some fd => simp [found]

theorem coherent_complete {system : System} (coherent : Coherent system) (index : Nat)
    {cqe : Cqe} (other : arrival cqe = none) : Coherent (system.complete index cqe) := by
  have same : arrivals (system.complete index cqe) = arrivals system := by
    rw [arrivals_complete, other]
    simp
  exact coherent.frame rfl rfl rfl (by rw [same]) (coherent.stays_busy rfl)

theorem coherent_outside {system next : System} {label : Label} (coherent : Coherent system)
    (taken : Outside system label next) : Coherent next := by
  cases taken with
  | accepts index fd connection found vacant =>
      have closed : generationAt system fd = none := by
        by_contra open_
        exact coherent.opened fd open_ vacant
      have listed := arrivals_complete system index ⟨⟨.accept, some system.nextConnection⟩, fd, []⟩
      have found : arrival ⟨⟨.accept, some system.nextConnection⟩, fd, []⟩ = some (fd : Int) :=
        if_pos ⟨rfl, Int.natCast_nonneg fd⟩
      rw [found, Option.toList_some] at listed
      have others : ∀ other ∈ arrivals system, other ≠ fd := by
        intro other member same
        exact (coherent.arriving other member).1 (by rw [same]; exact vacant)
      constructor
      · exact coherent.indexed
      · exact coherent.inWorld
      · exact coherent.named
      · intro other open_
        have before := coherent.opened other open_
        simp only [Function.update_apply]
        split
        · exact Option.some_ne_none _
        · exact before
      · intro other member
        have split : other ∈ arrivals system ++ [(fd : Int)] := by
          rw [← listed]
          exact member
        rcases List.mem_append.mp split with earlier | new
        · have waiting := coherent.arriving other earlier
          simp only [Function.update_apply, if_neg (others other earlier)]
          exact waiting
        · rw [List.mem_singleton.mp new]
          simp only [Function.update_self]
          exact ⟨Option.some_ne_none _, closed⟩
      · have once : (arrivals system ++ [(fd : Int)]).Nodup := by
          rw [List.nodup_append]
          refine ⟨coherent.arrivesOnce, List.nodup_singleton _, ?_⟩
          intro other member new single
          rw [List.mem_singleton.mp single]
          exact others other member
        rw [← listed] at once
        exact once
      · exact coherent.busy
  | receives => exact coherent_complete coherent _ (by simp [arrival])
  | transmits index count ref payload connection =>
      have completed : Coherent (system.complete index
          ⟨⟨.send ref payload, some connection⟩, count, []⟩) :=
        coherent_complete coherent index (by simp [arrival])
      exact completed.frame rfl rfl rfl (List.Sublist.refl _) (completed.stays_busy rfl)
  | fails index operation result found negative =>
      apply coherent_complete coherent
      apply if_neg
      rintro ⟨accept, nonneg⟩
      have below := negative accept
      simp only at nonneg
      omega
  | polls => exact coherent_complete coherent _ (by simp [arrival])
  | takes => exact coherent.frame rfl rfl rfl (List.Sublist.refl _) (coherent.stays_busy rfl)
  | finishes => exact coherent.frame rfl rfl rfl (List.Sublist.refl _) (coherent.stays_busy rfl)
  | signals => exact coherent.frame rfl rfl rfl (List.Sublist.refl _) (coherent.stays_busy rfl)

theorem coherent_start (config : ServerConfig) (poolSize : Nat) :
    Coherent (System.start config poolSize) where
  indexed := indexed_of_empty rfl rfl
  inWorld := by
    intro ref present
    exact absurd rfl present
  named := by
    intro ref player present
    cases present
  opened := by
    intro fd open_
    exact absurd rfl open_
  arriving := by
    intro fd member
    simp [arrivals, System.start] at member
  arrivesOnce := List.nodup_nil
  busy := by
    intro ref busy
    cases busy

end DungeonPortfolio.ServerActs
