import DungeonPortfolio.Library.Framing
import DungeonPortfolio.NoStall

/-!
# The lines of a session and the segmentation of its stream

The recv handler appends what has arrived to the input of the session and takes
lines off it. Only a handful of pieces of the server touch the input or the mark
for closing; the others are quiet.
-/

namespace DungeonPortfolio.LineFraming

open DungeonPortfolio.Text DungeonPortfolio.Protocol DungeonPortfolio.World
open DungeonPortfolio.Dispatcher DungeonPortfolio.Server DungeonPortfolio.ServerActs
open DungeonPortfolio.ServerResponses DungeonPortfolio.ServerSteps DungeonPortfolio.Sessions
open DungeonPortfolio.Requests DungeonPortfolio.Streams DungeonPortfolio.GracefulClose
open DungeonPortfolio.NoStall
open Library.Execution Library.Framing

set_option autoImplicit false

def receivedPart (ref : SessionRef) : Event → Option Bytes
  | .received other _ bytes => if other = ref then some bytes else none
  | _ => none

def handledPart (ref : SessionRef) : Event → Option Bytes
  | .lineHandled other line => if other = ref then some line else none
  | _ => none

def received (history : List Event) (ref : SessionRef) : Bytes :=
  (history.filterMap (receivedPart ref)).flatten

/-- The lines passed to `handle_client_line`. -/
def lines (history : List Event) (ref : SessionRef) : List Bytes :=
  history.filterMap (handledPart ref)

def reader : Position → Option SessionRef
  | .framing ref => some ref
  | _ => none

/-- What the recv handler looks at in a session. -/
structure Brief where
  generation : Nat
  input : Bytes
  closing : Bool

def brief (session : Session) : Brief :=
  ⟨session.generation, session.input, session.closeAfterFlush⟩

def briefs (system : System) (fd : Int) : Option Brief := (system.sessions fd).map brief

def isReading : Event → Bool
  | .accepted _ _ | .received _ _ _ | .lineHandled _ _ => true
  | _ => false

def Silence (system next : System) : Prop :=
  ∃ events, next.history = system.history ++ events ∧ events.filter isReading = []

theorem silence_of_same {system next : System} (history : next.history = system.history) :
    Silence system next := ⟨[], history.trans (List.append_nil _).symm, rfl⟩

theorem silence_of_event {system next : System} {event : Event}
    (history : next.history = system.history ++ [event]) (silent : isReading event = false) :
    Silence system next := by
  refine ⟨[event], history, ?_⟩
  rw [List.filter_singleton, silent]
  rfl

theorem Silence.trans {first second third : System} (before : Silence first second)
    (after : Silence second third) : Silence first third := by
  rcases before with ⟨early, one, nothing⟩
  rcases after with ⟨late, other, neither⟩
  refine ⟨early ++ late, ?_, ?_⟩
  · rw [other, one, List.append_assoc]
  · rw [List.filter_append, nothing, neither]
    rfl

structure Quiet (system next : System) : Prop where
  briefs : briefs next = briefs system
  silence : Silence system next
  position : next.position = system.position

theorem Quiet.trans {first second third : System} (before : Quiet first second)
    (after : Quiet second third) : Quiet first third :=
  ⟨after.briefs.trans before.briefs, before.silence.trans after.silence,
    after.position.trans before.position⟩

theorem quiet_of_same {system next : System} (sessions : next.sessions = system.sessions)
    (history : next.history = system.history) (position : next.position = system.position) :
    Quiet system next := by
  constructor
  · funext fd
    simp only [briefs, sessions]
  · exact silence_of_same history
  · exact position

theorem quiet_of_event {system next : System} {event : Event}
    (sessions : next.sessions = system.sessions)
    (history : next.history = system.history ++ [event]) (position : next.position = system.position)
    (silent : isReading event = false) : Quiet system next := by
  constructor
  · funext fd
    simp only [briefs, sessions]
  · exact silence_of_event history silent
  · exact position

theorem briefs_replace {system next : System} {fd : Int} {changed : Session}
    (stored : next.sessions = Function.update system.sessions fd (some changed)) :
    briefs next = Function.update (briefs system) fd (some (brief changed)) := by
  funext other
  by_cases self : other = fd
  · subst self
    simp [briefs, stored]
  · simp [briefs, stored, self]

theorem briefs_replace_same {system next : System} {fd : Int} {session changed : Session}
    (found : system.sessions fd = some session)
    (stored : next.sessions = Function.update system.sessions fd (some changed))
    (same : brief changed = brief session) : briefs next = briefs system := by
  rw [briefs_replace stored, same]
  have there : briefs system fd = some (brief session) := by
    rw [briefs, found, Option.map_some]
  rw [← there, Function.update_eq_self]

theorem quiet_get_sqe (system : System) : Quiet system system.getSqe := by
  rcases get_sqe_cases system with same | full
  · rw [same]
    exact quiet_of_same rfl rfl rfl
  · rw [full]
    exact quiet_of_same rfl rfl rfl

theorem quiet_post_send (system : System) (fd : Int) : Quiet system (system.postSend fd) := by
  unfold System.postSend
  split
  · exact quiet_of_same rfl rfl rfl
  · rename_i session found
    split
    · exact quiet_of_same rfl rfl rfl
    · exact quiet_of_same rfl rfl rfl
    · rename_i front rest idle outbox
      let flying := system.setSession fd (some { session with writeInFlight := true })
      have flagged : Quiet system flying := by
        constructor
        · exact briefs_replace_same found rfl rfl
        · exact silence_of_same rfl
        · rfl
      have room := flagged.trans (quiet_get_sqe flying)
      exact room.trans (quiet_of_same rfl rfl rfl)

theorem quiet_queue_response (system : System) (ref : SessionRef) (line : ServerLine) :
    Quiet system (system.queueResponse ref line) := by
  unfold System.queueResponse
  split
  · exact quiet_of_event rfl rfl rfl rfl
  · rename_i session alive
    let changed : Session := { session with outbox := session.outbox ++ [terminated line.text] }
    let queued := (system.setSession ref.fd (some changed)).record (.queued ref line)
    have pushed : Quiet system queued := by
      constructor
      · exact briefs_replace_same (live_eq_some.mp alive).1 rfl rfl
      · exact silence_of_event rfl rfl
      · rfl
    exact pushed.trans (quiet_post_send queued ref.fd)

theorem quiet_deliver (system : System) (events : List WorldEvent) :
    Quiet system (system.deliverWorldEvents events) := by
  induction events generalizing system with
  | nil => exact quiet_of_same rfl rfl rfl
  | cons event rest ih =>
      exact (quiet_queue_response system event.receiver (.world event.line)).trans (ih _)

theorem quiet_submit_job (system : System) (job : DbJob) : Quiet system (system.submitJob job) :=
  quiet_of_event rfl rfl rfl rfl

theorem quiet_call (system : System) (world : SectorWorld) (events : List WorldEvent) :
    Quiet system ((system.setWorld world).deliverWorldEvents events) := by
  have called : Quiet system (system.setWorld world) := quiet_of_same rfl rfl rfl
  exact called.trans (quiet_deliver _ events)

theorem quiet_leave_world (system : System) (order : SectorWorld.CallOrder) (ref : SessionRef) :
    Quiet system (system.leaveWorld order ref) := by
  rw [leave_world_eq]
  have delivered := quiet_call system (system.world.call order (.leave ref)).1
    (system.world.call order (.leave ref)).2
  apply delivered.trans
  unfold saveSnapshot
  split
  · exact quiet_of_same rfl rfl rfl
  · exact quiet_submit_job _ _

theorem quiet_requested (system : System) (ref : SessionRef) (operation : DbOperation)
    (commandName : Bytes) (args : List Bytes) :
    Quiet system (requested system ref operation commandName args) := by
  have counted : Quiet system (system.countPending ref.fd) := by
    unfold System.countPending
    split
    · exact quiet_of_same rfl rfl rfl
    · rename_i session found
      constructor
      · exact briefs_replace_same found rfl rfl
      · exact silence_of_same rfl
      · rfl
  have queued := counted.trans (quiet_queue_response _ ref
    (.pending (counterValue system.nextRequestId) commandName))
  exact queued.trans (quiet_submit_job _ _)

/-- A line marks its own session for closing if it is a QUIT, and changes nothing
else that the recv handler looks at. -/
structure Handles (system next : System) (ref : SessionRef) (line : Bytes) : Prop where
  briefs : ∀ was, briefs system ref.fd = some was →
    briefs next = Function.update (briefs system) ref.fd
      (some { was with closing := was.closing || isQuit line })
  silence : Silence system next

theorem Quiet.handles {system next : System} {ref : SessionRef} {line : Bytes}
    (quiet : Quiet system next) (other : isQuit line = false) : Handles system next ref line := by
  constructor
  · intro was found
    rw [other, Bool.or_false, ← found, Function.update_eq_self, quiet.briefs]
  · exact quiet.silence

theorem set_close_handles {system next : System} {ref : SessionRef} {line : Bytes}
    (quiet : Quiet system next) (quit : isQuit line = true) :
    Handles system (next.setCloseAfterFlush ref.fd) ref line := by
  constructor
  · intro was found
    rw [← quiet.briefs] at found
    rcases Option.map_eq_some_iff.mp found with ⟨session, lookup, rfl⟩
    have marked : next.setCloseAfterFlush ref.fd =
        next.setSession ref.fd (some { session with closeAfterFlush := true }) := by
      simp only [System.setCloseAfterFlush, lookup]
    rw [marked, briefs_replace rfl, quiet.briefs, quit, Bool.or_true]
    rfl
  · apply quiet.silence.trans
    apply silence_of_same
    unfold System.setCloseAfterFlush
    split
    · rfl
    · rfl

theorem client_line_handles {system next : System} {order : SectorWorld.CallOrder}
    {ref : SessionRef} {line : Bytes}
    (handled : system.handleClientLine order ref line = .ok next) :
    Handles system next ref line := by
  cases handle_client_line_returns handled with
  | rejected message parsed =>
      apply (quiet_queue_response system ref _).handles
      simp only [isQuit, parsed]
  | quit request parsed type =>
      have quit : isQuit line = true := by
        simp [isQuit, parsed, type]
      have left := quiet_leave_world system order ref
      exact set_close_handles (left.trans (quiet_queue_response _ ref .bye)) quit
  | enter request account character xText yText x y parsed type =>
      let call := system.world.call order (.enter ref account character x y)
      have called := quiet_call system call.1 call.2
      apply (called.trans (quiet_submit_job _ _)).handles
      simp [isQuit, parsed, type]
  | move request xText yText x y parsed type =>
      apply (quiet_call system _ _).handles
      simp [isQuit, parsed, type]
  | attack request skill target parsed type =>
      apply (quiet_call system _ _).handles
      simp [isQuit, parsed, type]
  | database request operation parsed type =>
      apply (quiet_requested system ref operation _ _).handles
      have other : request.type ≠ .quit := by
        intro same
        rw [same] at type
        cases type
      simp [isQuit, parsed, other]

/-- Sessions may be marked for closing or disappear. -/
structure Fades (system next : System) : Prop where
  briefs : ∀ fd left, briefs next fd = some left → ∃ was, briefs system fd = some was ∧
    left.generation = was.generation ∧ left.input = was.input ∧
      (was.closing = true → left.closing = true)
  silence : Silence system next
  reader : reader system.position = none → reader next.position = none

theorem Quiet.fades {system next : System} (quiet : Quiet system next) : Fades system next := by
  constructor
  · intro fd left found
    rw [quiet.briefs] at found
    exact ⟨left, found, rfl, rfl, fun closing => closing⟩
  · exact quiet.silence
  · intro idle
    rw [quiet.position]
    exact idle

theorem Fades.trans {first second third : System} (before : Fades first second)
    (after : Fades second third) : Fades first third := by
  constructor
  · intro fd left found
    rcases after.briefs fd left found with ⟨middle, there, generation, input, closing⟩
    rcases before.briefs fd middle there with ⟨was, here, sameGeneration, sameInput, marked⟩
    exact ⟨was, here, generation.trans sameGeneration, input.trans sameInput,
      fun ready => closing (marked ready)⟩
  · exact before.silence.trans after.silence
  · exact fun idle => after.reader (before.reader idle)

theorem fades_of_same {system next : System} (sessions : next.sessions = system.sessions)
    (history : next.history = system.history)
    (idle : reader system.position = none → reader next.position = none) :
    Fades system next := by
  constructor
  · intro fd left found
    simp only [briefs, sessions] at found
    exact ⟨left, found, rfl, rfl, fun closing => closing⟩
  · exact silence_of_same history
  · exact idle

theorem close_session_fades (system : System) (order : SectorWorld.CallOrder)
    (cause : CloseCause) (fd : Int) : Fades system (system.closeSession order cause fd) := by
  unfold System.closeSession
  split
  · exact fades_of_same rfl rfl id
  · rename_i session found
    have left := quiet_leave_world system order ⟨fd, session.generation⟩
    apply left.fades.trans
    constructor
    · intro other remains there
      have elsewhere : other ≠ fd := by
        rintro rfl
        simp [briefs] at there
      simp only [briefs, Function.update_of_ne elsewhere] at there
      exact ⟨remains, there, rfl, rfl, fun closing => closing⟩
    · exact silence_of_event rfl rfl
    · exact id

theorem maybe_close_fades (system : System) (order : SectorWorld.CallOrder) (fd : Int) :
    Fades system (system.maybeCloseAfterFlush order fd) := by
  unfold System.maybeCloseAfterFlush
  split
  · exact fades_of_same rfl rfl id
  · split
    · exact close_session_fades system order .flushed fd
    · exact fades_of_same rfl rfl id

theorem set_close_fades (system : System) (fd : Int) :
    Fades system (system.setCloseAfterFlush fd) := by
  unfold System.setCloseAfterFlush
  split
  · exact fades_of_same rfl rfl id
  · rename_i session found
    let changed : Session := { session with closeAfterFlush := true }
    constructor
    · intro other left there
      rw [briefs_replace rfl] at there
      by_cases self : other = fd
      · subst self
        rw [Function.update_self] at there
        obtain rfl := Option.some.inj there
        refine ⟨brief session, ?_, rfl, rfl, fun _ => rfl⟩
        rw [briefs, found, Option.map_some]
      · rw [Function.update_of_ne self] at there
        exact ⟨left, there, rfl, rfl, fun closing => closing⟩
    · exact silence_of_same rfl
    · exact id

theorem handle_send_fades (system : System) (order : SectorWorld.CallOrder) (ref : SessionRef)
    (payload : Bytes) (cqe : Cqe) : Fades system (system.handleSend order ref payload cqe) := by
  unfold System.handleSend
  split
  · exact fades_of_same rfl rfl id
  · rename_i session alive
    have found := (live_eq_some.mp alive).1
    let idling := system.setSession ref.fd (some { session with writeInFlight := false })
    have idle : Quiet system idling := by
      constructor
      · exact briefs_replace_same found rfl rfl
      · exact silence_of_same rfl
      · rfl
    simp only
    split
    · exact idle.fades.trans (close_session_fades idling order .sendFailure ref.fd)
    · split
      · exact idle.fades.trans (close_session_fades idling order .sendFailure ref.fd)
      · rename_i front rest _ _
        let outbox := if front.length ≤ cqe.result.toNat then rest
          else front.drop cqe.result.toNat :: rest
        let changed : Session := { session with writeInFlight := false, outbox }
        let progressed := (system.setSession ref.fd (some changed)).record
          (.sent ref (payload.take cqe.result.toNat))
        have advanced : Quiet system progressed := by
          constructor
          · exact briefs_replace_same found rfl rfl
          · exact silence_of_event rfl rfl
          · rfl
        have posted := advanced.trans (quiet_post_send progressed ref.fd)
        exact posted.fades.trans (maybe_close_fades _ order ref.fd)

theorem finish_recv_fades (system : System) (order : SectorWorld.CallOrder) (ref : SessionRef) :
    Fades system (system.finishRecv order ref) := by
  have ending := finish_recv_end system order ref
  generalize system.finishRecv order ref = next at ending
  have begun {session : Session} {checked : System} (checks : Checked system ref session checked) :
      Fades system checked := by
    cases checks with
    | fits => exact fades_of_same rfl rfl id
    | refused => exact (quiet_queue_response system ref _).fades.trans (set_close_fades _ ref.fd)
  cases ending with
  | gone => exact fades_of_same rfl rfl fun _ => rfl
  | lost _ _ _ checks => exact (begun checks).trans (fades_of_same rfl rfl fun _ => rfl)
  | parks _ _ checked _ checks =>
      have parked : Fades checked { checked with position := .draining } :=
        fades_of_same rfl rfl fun _ => rfl
      exact (begun checks).trans (parked.trans (maybe_close_fades _ order ref.fd))
  | reads _ _ checked _ checks =>
      have room := quiet_get_sqe checked
      exact (begun checks).trans (room.fades.trans (fades_of_same rfl rfl fun _ => rfl))

theorem handle_completion_fades (system : System) (order : SectorWorld.CallOrder) :
    Fades system (system.handleCompletion order) := by
  unfold System.handleCompletion
  split
  · have room := quiet_get_sqe system
    exact room.fades.trans (fades_of_same rfl rfl fun _ => rfl)
  · rename_i completion rest completions
    let popped := popCompletion system completion rest
    have handled : Quiet system popped := quiet_of_event rfl rfl rfl rfl
    simp only
    split
    · split
      · exact handled.fades
      · rename_i session alive
        have found : popped.sessions completion.client.fd = some session :=
          (live_eq_some.mp alive).1
        generalize counting : (if 0 < session.pendingDb then
            System.setSession { system with
              database := { system.database with completions := rest }
              history := system.history ++ [.handled completion] } completion.client.fd
                (some { session with pendingDb := session.pendingDb - 1 })
          else { system with
            database := { system.database with completions := rest }
            history := system.history ++ [.handled completion] }) = counted
        have counts : Quiet popped counted := by
          rw [← counting]
          split
          · constructor
            · exact briefs_replace_same found rfl rfl
            · exact silence_of_same rfl
            · rfl
          · exact quiet_of_same rfl rfl rfl
        have answered := (handled.trans counts).trans
          (quiet_queue_response counted completion.client
            (.completion completion.ok completion.requestId completion.line))
        exact answered.fades.trans (maybe_close_fades _ order completion.client.fd)
    · exact handled.fades

/-- What a step does to the reading of streams. -/
inductive Reads (source target : System) : Prop
  | fades (fades : Fades source target) (before : reader source.position = none)
      (after : reader target.position = none)
  | opens (ref : SessionRef) (connection : Option Nat)
      (stored : briefs target =
        Function.update (briefs source) ref.fd (some ⟨ref.generation, [], false⟩))
      (history : ∃ events, target.history =
        source.history ++ .accepted ref connection :: events ∧ events.filter isReading = [])
      (before : reader source.position = none) (after : reader target.position = none)
  | receives (ref : SessionRef) (connection : Option Nat) (bytes : Bytes) (session : Session)
      (position : source.position = .draining) (alive : source.live ref = some session)
      (outstanding : receives source ref ≠ 0)
      (stored : briefs target = Function.update (briefs source) ref.fd
        (some { brief session with input := session.input ++ bytes }))
      (history : target.history = source.history ++ [.received ref connection bytes])
      (after : reader target.position = some ref)
  | takes (ref : SessionRef) (line rest : Bytes) (session : Session)
      (before : reader source.position = some ref) (alive : source.live ref = some session)
      (cut : System.cutLine session.input = some (line, rest))
      (stored : briefs target = Function.update (briefs source) ref.fd
        (some ⟨session.generation, rest, session.closeAfterFlush || isQuit line⟩))
      (history : ∃ events, target.history =
        source.history ++ .lineHandled ref line :: events ∧ events.filter isReading = [])
      (after : reader target.position =
        if session.closeAfterFlush || isQuit line then none else some ref)
  | stops (ref : SessionRef) (session : Session) (before : reader source.position = some ref)
      (alive : source.live ref = some session) (cut : System.cutLine session.input = none)
      (briefs : briefs target = briefs source) (history : target.history = source.history)
      (after : reader target.position = none)
  | raises (exception : StdException) (position : target.position = .raised exception)

theorem frame_line_reads {system : System} {ref : SessionRef} (coherent : Coherent system)
    (order : SectorWorld.CallOrder) (position : system.position = .framing ref) :
    Reads system (system.frameLine order ref) := by
  have reading : reader system.position = some ref := by
    rw [position]
    rfl
  have busy : busyWith system.position = some ref := by
    rw [position]
    rfl
  rcases live_of_generation (coherent.busy ref busy) with ⟨session, alive⟩
  rcases live_eq_some.mp alive with ⟨found, generation⟩
  have turn := frame_line_turn system order ref
  generalize system.frameLine order ref = target at turn
  cases turn with
  | stops nothing =>
      exact Reads.stops ref session reading alive (nothing session found) rfl rfl rfl
  | raises _ _ _ exception => exact Reads.raises exception rfl
  | handles other line rest handled lookup cut answered =>
      obtain rfl := Option.some.inj (found.symm.trans lookup)
      let left : Session := { session with input := rest }
      let taken := takeLine system ref session line rest
      have handles := client_line_handles answered
      have stored : briefs taken = Function.update (briefs system) ref.fd (some (brief left)) :=
        briefs_replace rfl
      have there : briefs taken ref.fd = some (brief left) := by
        rw [stored, Function.update_self]
      have after := handles.briefs (brief left) there
      rw [stored, Function.update_idem] at after
      have now : briefs handled ref.fd = some
          ⟨session.generation, rest, session.closeAfterFlush || isQuit line⟩ := by
        rw [after, Function.update_self]
        rfl
      rcases Option.map_eq_some_iff.mp now with ⟨remains, lookup, same⟩
      have aliveStill : handled.live ref = some remains := by
        apply live_eq_some.mpr
        refine ⟨lookup, ?_⟩
        exact (congrArg Brief.generation same).trans generation
      have marked : remains.closeAfterFlush = (session.closeAfterFlush || isQuit line) :=
        congrArg Brief.closing same
      rcases handles.silence with ⟨events, history, silent⟩
      have whole : ∃ events, handled.history =
          system.history ++ .lineHandled ref line :: events ∧ events.filter isReading = [] := by
        refine ⟨events, ?_, silent⟩
        have begun : taken.history = system.history ++ [.lineHandled ref line] := rfl
        rw [history, begun, List.append_assoc]
        rfl
      refine Reads.takes ref line rest session reading alive cut after whole ?_
      rw [aliveStill, Option.any_some, ← marked]
      cases remains.closeAfterFlush with
      | true => rfl
      | false => rfl

theorem handle_accept_reads {system : System} {cqe : Cqe} {rest : List Cqe}
    (coherent : Coherent system) (position : system.position = .draining)
    (completed : system.completed = cqe :: rest) (token : cqe.operation.token = .accept) :
    Reads system ((setCompleted system rest).handleAccept cqe) := by
  have idle : reader system.position = none := by
    rw [position]
    rfl
  unfold System.handleAccept
  split
  · rename_i succeeded
    have here : cqe.result ∈ arrivals system := by
      rw [arrivals, completed]
      apply List.mem_filterMap.mpr
      refine ⟨cqe, List.mem_cons_self, ?_⟩
      exact if_pos ⟨token, succeeded⟩
    have vacant : system.sessions cqe.result = none := by
      have nobody := (coherent.arriving cqe.result here).2
      rw [generationAt, Option.map_eq_none_iff] at nobody
      exact nobody
    let ref : SessionRef := ⟨cqe.result, counterValue system.nextSessionGeneration⟩
    let session : Session := ⟨ref.generation, [], [], false, false, 0⟩
    have stored : ((setCompleted system rest).sessions ref.fd).getD session = session := by
      have empty : (setCompleted system rest).sessions ref.fd = none := vacant
      rw [empty]
      rfl
    have generation : (setCompleted system rest).nextSessionGeneration =
      system.nextSessionGeneration := rfl
    simp only [generation]
    rw [stored]
    let opened : System := { setCompleted system rest with
      nextSessionGeneration := system.nextSessionGeneration + 1
      sessions := Function.update (setCompleted system rest).sessions ref.fd (some session)
      position := .opened ref
      history := (setCompleted system rest).history ++ [.accepted ref cqe.operation.connection] }
    have said := quiet_queue_response opened ref .hello
    have entry : opened.sessions = Function.update system.sessions ref.fd (some session) := rfl
    refine Reads.opens ref cqe.operation.connection ?_ ?_ idle ?_
    · exact said.briefs.trans (briefs_replace entry)
    · rcases said.silence with ⟨events, history, silent⟩
      refine ⟨events, ?_, silent⟩
      have begun : opened.history =
        system.history ++ [.accepted ref cqe.operation.connection] := rfl
      exact history.trans (by rw [begun, List.append_assoc, List.singleton_append])
    · exact congrArg reader said.position
  · exact Reads.fades (fades_of_same rfl rfl fun _ => rfl) idle rfl

theorem handle_recv_reads {system : System} {cqe : Cqe} {rest : List Cqe} {ref : SessionRef}
    (order : SectorWorld.CallOrder) (position : system.position = .draining)
    (completed : system.completed = cqe :: rest) (token : cqe.operation.token = .recv ref) :
    Reads system ((setCompleted system rest).handleRecv order ref cqe) := by
  have idle : reader system.position = none := by
    rw [position]
    rfl
  have popped : Fades system (setCompleted system rest) := fades_of_same rfl rfl id
  unfold System.handleRecv
  split
  · exact Reads.fades popped idle idle
  · rename_i session alive
    split
    · have closed := popped.trans (close_session_fades _ order .endOfStream ref.fd)
      exact Reads.fades closed idle (closed.reader idle)
    · have outstanding : receives system ref ≠ 0 := by
        have counted : receives system ref = receives (setCompleted system rest) ref +
            if cqe.operation.token = .recv ref then 1 else 0 :=
          receives_pop completed (by rfl) (by rfl) (by rfl) ref
        rw [if_pos token] at counted
        omega
      let bytes := cqe.buffer.take cqe.result.toNat
      let filled : Session := { session with input := session.input ++ bytes }
      let framing : System := { ((setCompleted system rest).setSession ref.fd
        (some filled)).record (.received ref cqe.operation.connection bytes) with
          position := .framing ref }
      have entry : framing.sessions = Function.update system.sessions ref.fd (some filled) := rfl
      exact Reads.receives ref cqe.operation.connection bytes session position alive outstanding
        (briefs_replace entry) rfl rfl

theorem server_step_reads {source target : System} {order : SectorWorld.CallOrder}
    (coherent : Coherent source) (taken : source.serverStep order = some target) :
    Reads source target := by
  have room := (quiet_get_sqe source).fades
  cases server_step_cases taken with
  | submitting position =>
      exact Reads.fades (fades_of_same rfl rfl fun _ => rfl) (congrArg reader position) rfl
  | drained position =>
      exact Reads.fades (fades_of_same rfl rfl fun _ => rfl) (congrArg reader position) rfl
  | draining cqe rest position completed =>
      have idle : reader source.position = none := congrArg reader position
      have popped : Fades source (setCompleted source rest) := fades_of_same rfl rfl id
      unfold System.handleCqe
      split
      · rename_i token
        exact handle_accept_reads coherent position completed token
      · rename_i ref token
        exact handle_recv_reads order position completed token
      · rename_i ref payload token
        have sent := popped.trans (handle_send_fades _ order ref payload cqe)
        exact Reads.fades sent idle (sent.reader idle)
      · exact Reads.fades (fades_of_same rfl rfl fun _ => rfl) idle rfl
  | opened ref position =>
      exact Reads.fades (room.trans (fades_of_same rfl rfl fun _ => rfl)) (congrArg reader position)
        rfl
  | reaccepting position =>
      exact Reads.fades (room.trans (fades_of_same rfl rfl fun _ => rfl)) (congrArg reader position)
        rfl
  | framing ref position => exact frame_line_reads coherent order position
  | framed ref position =>
      have idle : reader source.position = none := congrArg reader position
      have finished := finish_recv_fades source order ref
      exact Reads.fades finished idle (finished.reader idle)
  | completing position =>
      have idle : reader source.position = none := congrArg reader position
      have completed := handle_completion_fades source order
      exact Reads.fades completed idle (completed.reader idle)

theorem received_append (first second : List Event) (ref : SessionRef) :
    received (first ++ second) ref = received first ref ++ received second ref := by
  simp only [received, List.filterMap_append, List.flatten_append]

theorem lines_append (first second : List Event) (ref : SessionRef) :
    lines (first ++ second) ref = lines first ref ++ lines second ref :=
  List.filterMap_append

theorem silent_projections {events : List Event} (silent : events.filter isReading = [])
    (ref : SessionRef) :
    received events ref = [] ∧ lines events ref = [] ∧ acceptedRefs events = [] := by
  have quiet : ∀ event ∈ events, isReading event = false := by
    intro event member
    have unread := List.filter_eq_nil_iff.mp silent event member
    exact Bool.eq_false_iff.mpr unread
  have noBytes : events.filterMap (receivedPart ref) = [] := by
    apply List.filterMap_eq_nil_iff.mpr
    intro event member
    have unread := quiet event member
    cases event with
    | received => cases unread
    | _ => rfl
  have noLines : events.filterMap (handledPart ref) = [] := by
    apply List.filterMap_eq_nil_iff.mpr
    intro event member
    have unread := quiet event member
    cases event with
    | lineHandled => cases unread
    | _ => rfl
  have noRefs : events.filterMap acceptedRef = [] := by
    apply List.filterMap_eq_nil_iff.mpr
    intro event member
    have unread := quiet event member
    cases event with
    | accepted => cases unread
    | _ => rfl
  rw [received, noBytes]
  exact ⟨rfl, noLines, noRefs⟩

theorem cut_line_some {input line rest : Bytes}
    (cut : System.cutLine input = some (line, rest)) :
    input = line ++ newline :: rest ∧ newline ∉ line := by
  unfold System.cutLine at cut
  have whole : (input.takeWhile fun byte => byte != newline) ++
      (input.dropWhile fun byte => byte != newline) = input := List.takeWhile_append_dropWhile
  split at cut
  · cases cut
  · rename_i head tail dropped
    rcases Prod.mk.inj (Option.some.inj cut) with ⟨rfl, rfl⟩
    have first : head = newline := by
      have refused := List.head?_dropWhile_not (fun byte => byte != newline) input
      rw [dropped] at refused
      simpa using refused
    rw [first] at dropped
    constructor
    · rw [dropped] at whole
      exact whole.symm
    · intro member
      have passed := List.mem_takeWhile_imp member
      simp at passed

theorem cut_line_none {input : Bytes} (cut : System.cutLine input = none) : newline ∉ input := by
  unfold System.cutLine at cut
  split at cut
  · rename_i dropped
    intro member
    have passed := List.dropWhile_eq_nil_iff.mp dropped newline member
    simp at passed
  · cases cut

/-- The lines of every session are read off its stream. -/
structure Framed (system : System) : Prop where
  unknown : ∀ ref, ref ∉ acceptedRefs system.history →
    received system.history ref = [] ∧ lines system.history ref = []
  alive : ∀ ref session, system.live ref = some session →
    Reading newline isQuit (received system.history ref) (lines system.history ref)
      session.input ∧
    ((lines system.history ref).any isQuit = true → session.closeAfterFlush = true)
  settled : ∀ ref, reader system.position ≠ some ref →
    ∃ rest, Reading newline isQuit (received system.history ref) (lines system.history ref) rest ∧
      ((lines system.history ref).any isQuit = true ∨ newline ∉ rest)
  reading : ∀ ref, reader system.position = some ref →
    (lines system.history ref).any isQuit = false ∧
    ∀ session, system.live ref = some session → session.closeAfterFlush = false

theorem brief_of_live {system : System} {ref : SessionRef} {session : Session}
    (alive : system.live ref = some session) : briefs system ref.fd = some (brief session) := by
  rw [briefs, (live_eq_some.mp alive).1, Option.map_some]

theorem live_of_brief {system : System} {ref : SessionRef} {found : Brief}
    (there : briefs system ref.fd = some found) (generation : found.generation = ref.generation) :
    ∃ session, system.live ref = some session ∧ brief session = found := by
  rcases Option.map_eq_some_iff.mp there with ⟨session, lookup, same⟩
  refine ⟨session, live_eq_some.mpr ⟨lookup, ?_⟩, same⟩
  rw [← generation, ← same]
  rfl

theorem live_replaced {system next : System} {ref other : SessionRef} {changed : Brief}
    {found : Session} (stored : briefs next = Function.update (briefs system) ref.fd (some changed))
    (generation : changed.generation = ref.generation) (there : next.live other = some found) :
    (other = ref ∧ brief found = changed) ∨
      (other ≠ ref ∧ ∃ before, system.live other = some before ∧ brief before = brief found) := by
  have listed := brief_of_live there
  have number := (live_eq_some.mp there).2
  rw [stored] at listed
  by_cases self : other.fd = ref.fd
  · left
    rw [self, Function.update_self] at listed
    have same := Option.some.inj listed
    refine ⟨?_, same.symm⟩
    have numbers : other.generation = ref.generation := by
      rw [← number, ← generation, same]
      rfl
    cases other
    cases ref
    simp_all
  · right
    rw [Function.update_of_ne self] at listed
    refine ⟨fun same => self (congrArg SessionRef.fd same), live_of_brief listed number⟩

theorem framed_fades {system next : System} (framed : Framed system) (fades : Fades system next)
    (before : reader system.position = none) (after : reader next.position = none) :
    Framed next := by
  rcases fades.silence with ⟨events, history, silent⟩
  have bytes : ∀ ref, received next.history ref = received system.history ref := by
    intro ref
    rw [history, received_append, (silent_projections silent ref).1, List.append_nil]
  have handled : ∀ ref, lines next.history ref = lines system.history ref := by
    intro ref
    rw [history, lines_append, (silent_projections silent ref).2.1, List.append_nil]
  constructor
  · intro ref fresh
    rw [bytes, handled]
    apply framed.unknown ref
    rw [history] at fresh
    exact fresh_before fresh
  · intro ref session alive
    rcases fades.briefs ref.fd _ (brief_of_live alive) with ⟨was, there, generation, input, marked⟩
    rcases live_of_brief there (generation.symm.trans (live_eq_some.mp alive).2) with
      ⟨earlier, lived, rfl⟩
    have known := framed.alive ref earlier lived
    have same : session.input = earlier.input := input
    rw [bytes, handled, same]
    exact ⟨known.1, fun quit => marked (known.2 quit)⟩
  · intro ref _
    rw [bytes, handled]
    apply framed.settled ref
    rw [before]
    exact (Option.some_ne_none _).symm
  · intro ref reading
    rw [after] at reading
    cases reading

theorem received_one {ref other : SessionRef} (connection : Option Nat) (bytes : Bytes) :
    received [.received ref connection bytes] other = if ref = other then bytes else [] := by
  by_cases self : ref = other
  · simp [received, receivedPart, self]
  · simp [received, receivedPart, self]

theorem framed_opens {system next : System} {ref : SessionRef} {connection : Option Nat}
    {events : List Event} (framed : Framed system) (fresh : ref ∉ acceptedRefs system.history)
    (stored : briefs next = Function.update (briefs system) ref.fd (some ⟨ref.generation, [], false⟩))
    (history : next.history = system.history ++ .accepted ref connection :: events)
    (silent : events.filter isReading = []) (before : reader system.position = none)
    (after : reader next.position = none) : Framed next := by
  have bytes : ∀ other, received next.history other = received system.history other := by
    intro other
    have nothing : received (.accepted ref connection :: events) other = received events other := rfl
    rw [history, received_append, nothing, (silent_projections silent other).1, List.append_nil]
  have handled : ∀ other, lines next.history other = lines system.history other := by
    intro other
    have nothing : lines (.accepted ref connection :: events) other = lines events other := rfl
    rw [history, lines_append, nothing, (silent_projections silent other).2.1, List.append_nil]
  constructor
  · intro other unknown
    rw [bytes, handled]
    apply framed.unknown other
    rw [history] at unknown
    exact fresh_before unknown
  · intro other session alive
    rw [bytes, handled]
    rcases live_replaced stored rfl alive with ⟨rfl, same⟩ | ⟨_, earlier, lived, same⟩
    · have input : session.input = [] := congrArg Brief.input same
      rw [(framed.unknown other fresh).1, (framed.unknown other fresh).2, input]
      exact ⟨reading_nil newline isQuit, fun quit => by cases quit⟩
    · have known := framed.alive other earlier lived
      have input : earlier.input = session.input := congrArg Brief.input same
      have closing : earlier.closeAfterFlush = session.closeAfterFlush :=
        congrArg Brief.closing same
      rw [input, closing] at known
      exact known
  · intro other _
    rw [bytes, handled]
    apply framed.settled other
    rw [before]
    exact (Option.some_ne_none _).symm
  · intro other reading
    rw [after] at reading
    cases reading

theorem framed_receives {system next : System} {ref : SessionRef} {connection : Option Nat}
    {bytes : Bytes} {session : Session} (framed : Framed system)
    (known : ref ∈ acceptedRefs system.history) (alive : system.live ref = some session)
    (open_ : session.closeAfterFlush = false)
    (stored : briefs next = Function.update (briefs system) ref.fd
      (some { brief session with input := session.input ++ bytes }))
    (history : next.history = system.history ++ [.received ref connection bytes])
    (before : reader system.position = none) (after : reader next.position = some ref) :
    Framed next := by
  have handled : ∀ other, lines next.history other = lines system.history other := by
    intro other
    rw [history, lines_append]
    exact List.append_nil _
  have elsewhere : ∀ other, ref ≠ other →
      received next.history other = received system.history other := by
    intro other different
    rw [history, received_append, received_one, if_neg different, List.append_nil]
  have here : received next.history ref = received system.history ref ++ bytes := by
    rw [history, received_append, received_one, if_pos rfl]
  have was := framed.alive ref session alive
  have running : (lines system.history ref).any isQuit = false := by
    cases quit : (lines system.history ref).any isQuit with
    | false => rfl
    | true =>
        have marked := was.2 quit
        rw [open_] at marked
        cases marked
  constructor
  · intro other unknown
    rw [history] at unknown
    have unseen := fresh_before unknown
    have different : ref ≠ other := by
      rintro rfl
      exact unseen known
    rw [elsewhere other different, handled]
    exact framed.unknown other unseen
  · intro other found there
    rw [handled]
    rcases live_replaced stored (live_eq_some.mp alive).2 there with
      ⟨rfl, same⟩ | ⟨different, earlier, lived, same⟩
    · have input : found.input = session.input ++ bytes := congrArg Brief.input same
      rw [here, input]
      refine ⟨was.1.arrive bytes, ?_⟩
      intro quit
      rw [running] at quit
      cases quit
    · have input : earlier.input = found.input := congrArg Brief.input same
      have closing : earlier.closeAfterFlush = found.closeAfterFlush :=
        congrArg Brief.closing same
      rw [elsewhere other (Ne.symm different), ← input, ← closing]
      exact framed.alive other earlier lived
  · intro other idle
    have different : ref ≠ other := by
      rintro rfl
      exact idle after
    rw [elsewhere other different, handled]
    apply framed.settled other
    rw [before]
    exact (Option.some_ne_none _).symm
  · intro other reading
    obtain rfl := Option.some.inj (after.symm.trans reading)
    rw [handled]
    refine ⟨running, ?_⟩
    intro found there
    rcases live_replaced stored (live_eq_some.mp alive).2 there with ⟨_, same⟩ | ⟨different, _⟩
    · have closing : found.closeAfterFlush = session.closeAfterFlush := congrArg Brief.closing same
      rw [closing, open_]
    · exact absurd rfl different

theorem lines_one {ref other : SessionRef} (line : Bytes) :
    lines [.lineHandled ref line] other = if ref = other then [line] else [] := by
  by_cases self : ref = other
  · simp [lines, handledPart, self]
  · simp [lines, handledPart, self]

theorem framed_takes {system next : System} {ref : SessionRef} {line rest : Bytes}
    {session : Session} {events : List Event} (framed : Framed system)
    (known : ref ∈ acceptedRefs system.history) (before : reader system.position = some ref)
    (alive : system.live ref = some session)
    (cut : System.cutLine session.input = some (line, rest))
    (stored : briefs next = Function.update (briefs system) ref.fd
      (some ⟨session.generation, rest, session.closeAfterFlush || isQuit line⟩))
    (history : next.history = system.history ++ .lineHandled ref line :: events)
    (silent : events.filter isReading = [])
    (after : reader next.position =
      if session.closeAfterFlush || isQuit line then none else some ref) : Framed next := by
  rcases framed.reading ref before with ⟨running, unmarked⟩
  have open_ := unmarked session alive
  rw [open_, Bool.false_or] at stored after
  have bytes : ∀ other, received next.history other = received system.history other := by
    intro other
    have nothing : received (.lineHandled ref line :: events) other = received events other := rfl
    rw [history, received_append, nothing, (silent_projections silent other).1, List.append_nil]
  have handled : ∀ other, lines next.history other =
      lines system.history other ++ if ref = other then [line] else [] := by
    intro other
    have split : Event.lineHandled ref line :: events = [.lineHandled ref line] ++ events := rfl
    rw [history, lines_append, split, lines_append, lines_one,
      (silent_projections silent other).2.1, List.append_nil]
  have elsewhere : ∀ other, ref ≠ other →
      lines next.history other = lines system.history other := by
    intro other different
    rw [handled, if_neg different, List.append_nil]
  have here : lines next.history ref = lines system.history ref ++ [line] := by
    rw [handled, if_pos rfl]
  rcases cut_line_some cut with ⟨input, clean⟩
  have was := (framed.alive ref session alive).1
  rw [input] at was
  have taken := was.take clean running
  have quits : (lines next.history ref).any isQuit = isQuit line := by
    rw [here, List.any_append, running, Bool.false_or, List.any_cons, List.any_nil, Bool.or_false]
  constructor
  · intro other unknown
    rw [history] at unknown
    have unseen := fresh_before unknown
    have different : ref ≠ other := by
      rintro rfl
      exact unseen known
    rw [bytes, elsewhere other different]
    exact framed.unknown other unseen
  · intro other found there
    rcases live_replaced stored (live_eq_some.mp alive).2 there with
      ⟨rfl, same⟩ | ⟨different, earlier, lived, same⟩
    · have left : found.input = rest := congrArg Brief.input same
      have closing : found.closeAfterFlush = isQuit line := congrArg Brief.closing same
      rw [bytes, quits, left, closing, here]
      exact ⟨taken, fun quit => quit⟩
    · have left : earlier.input = found.input := congrArg Brief.input same
      have closing : earlier.closeAfterFlush = found.closeAfterFlush :=
        congrArg Brief.closing same
      rw [bytes, elsewhere other (Ne.symm different), ← left, ← closing]
      exact framed.alive other earlier lived
  · intro other idle
    by_cases self : ref = other
    · subst self
      rw [bytes, quits, here]
      refine ⟨rest, taken, Or.inl ?_⟩
      cases quit : isQuit line with
      | true => rfl
      | false =>
          rw [quit] at after
          exact absurd after idle
    · rw [bytes, elsewhere other self]
      apply framed.settled other
      rw [before]
      exact fun same => self (Option.some.inj same)
  · intro other reading
    cases quit : isQuit line with
    | true =>
        rw [quit, reading] at after
        cases after
    | false =>
        rw [quit, reading] at after
        obtain rfl := Option.some.inj after
        rw [quits]
        refine ⟨quit, ?_⟩
        intro found there
        rcases live_replaced stored (live_eq_some.mp alive).2 there with
          ⟨_, same⟩ | ⟨different, _⟩
        · have closing : found.closeAfterFlush = isQuit line := congrArg Brief.closing same
          rw [closing, quit]
        · exact absurd rfl different

theorem framed_stops {system next : System} {ref : SessionRef} {session : Session}
    (framed : Framed system) (before : reader system.position = some ref)
    (alive : system.live ref = some session) (cut : System.cutLine session.input = none)
    (stored : briefs next = briefs system) (history : next.history = system.history)
    (after : reader next.position = none) : Framed next := by
  constructor
  · rw [history]
    exact framed.unknown
  · intro other found there
    have listed := brief_of_live there
    rw [stored] at listed
    rcases live_of_brief listed (live_eq_some.mp there).2 with ⟨earlier, lived, same⟩
    have left : earlier.input = found.input := congrArg Brief.input same
    have closing : earlier.closeAfterFlush = found.closeAfterFlush := congrArg Brief.closing same
    rw [history, ← left, ← closing]
    exact framed.alive other earlier lived
  · intro other _
    rw [history]
    by_cases self : ref = other
    · subst self
      exact ⟨session.input, (framed.alive ref session alive).1, Or.inr (cut_line_none cut)⟩
    · apply framed.settled other
      rw [before]
      exact fun same => self (Option.some.inj same)
  · intro other reading
    rw [after] at reading
    cases reading

theorem framed_outside {system next : System} {label : Label} (framed : Framed system)
    (taken : Outside system label next) : Framed next := by
  have same : next.sessions = system.sessions ∧ next.position = system.position ∧
      Silence system next := by
    cases taken with
    | transmits => exact ⟨rfl, rfl, silence_of_event rfl rfl⟩
    | _ => exact ⟨rfl, rfl, silence_of_same rfl⟩
  rcases same with ⟨sessions, position, events, history, silent⟩
  have bytes : ∀ ref, received next.history ref = received system.history ref := by
    intro ref
    rw [history, received_append, (silent_projections silent ref).1, List.append_nil]
  have handled : ∀ ref, lines next.history ref = lines system.history ref := by
    intro ref
    rw [history, lines_append, (silent_projections silent ref).2.1, List.append_nil]
  constructor
  · intro ref fresh
    rw [bytes, handled]
    apply framed.unknown ref
    rw [history] at fresh
    exact fresh_before fresh
  · intro ref session alive
    simp only [System.live, sessions] at alive
    rw [bytes, handled]
    exact framed.alive ref session alive
  · intro ref idle
    rw [bytes, handled]
    rw [position] at idle
    exact framed.settled ref idle
  · intro ref reading
    rw [position] at reading
    rw [handled]
    rcases framed.reading ref reading with ⟨running, unmarked⟩
    refine ⟨running, ?_⟩
    intro session alive
    simp only [System.live, sessions] at alive
    exact unmarked session alive

/-- A new session is not one of the sessions there have been. -/
theorem accepted_is_fresh {source target : System} {ref : SessionRef}
    {connection : Option Nat} {events : List Event} (registered : Registered target)
    (unwrapped : target.nextSessionGeneration ≤ 2 ^ 64)
    (history : target.history = source.history ++ .accepted ref connection :: events) :
    ref ∉ acceptedRefs source.history := by
  have distinct := generations_distinct registered unwrapped
  rw [history, accepted_refs_append, List.map_append] at distinct
  intro member
  have later : ref.generation ∈
      (acceptedRefs (.accepted ref connection :: events)).map SessionRef.generation :=
    List.mem_map_of_mem List.mem_cons_self
  exact List.disjoint_of_nodup_append distinct (List.mem_map_of_mem member) later

theorem framed_step {config : ServerConfig} {poolSize : Nat} {source target : System}
    {label : Label} (reached : Reachable System.step (System.start config poolSize) source)
    (framed : Framed source) (taken : source.step label = some target)
    (unwrapped : target.nextSessionGeneration ≤ 2 ^ 64) (running : Running target) :
    Framed target := by
  have coherent := coherent_reachable reached
  have registered := registered_reachable reached
  have later := registered_reachable (reached.next taken)
  have small := (grown_step coherent taken).1.trans unwrapped
  rcases step_cases taken with ⟨order, _, server⟩ | outside
  · cases server_step_reads coherent server with
    | fades fades before after => exact framed_fades framed fades before after
    | opens ref connection stored history before after =>
        rcases history with ⟨events, history, silent⟩
        have fresh := accepted_is_fresh later unwrapped history
        exact framed_opens framed fresh stored history silent before after
    | receives ref connection bytes session position alive outstanding stored history after =>
        have known := registered.known ref (generation_of_live alive)
        have idle : reader source.position = none := by
          rw [position]
          rfl
        have goes : Running source := by
          intro exception raised
          rw [position] at raised
          cases raised
        have posted := (receiving_reachable reached small goes).posted ref session alive
        have open_ : session.closeAfterFlush = false := by
          apply Bool.eq_false_iff.mpr
          intro marked
          rw [awaitedReceives, if_pos (Or.inr marked)] at posted
          exact outstanding posted
        exact framed_receives framed known alive open_ stored history idle after
    | takes ref line rest session before alive cut stored history after =>
        rcases history with ⟨events, history, silent⟩
        have known := registered.known ref (generation_of_live alive)
        exact framed_takes framed known before alive cut stored history silent after
    | stops ref session before alive cut stored history after =>
        exact framed_stops framed before alive cut stored history after
    | raises exception raised => exact absurd raised (running exception)
  · exact framed_outside framed outside

theorem framed_start (config : ServerConfig) (poolSize : Nat) :
    Framed (System.start config poolSize) := by
  constructor
  · intro ref _
    exact ⟨rfl, rfl⟩
  · intro ref session alive
    cases alive
  · intro ref _
    refine ⟨[], reading_nil newline isQuit, Or.inr ?_⟩
    exact List.not_mem_nil
  · intro ref reading
    cases reading

theorem running_of_step {source target : System} {label : Label}
    (taken : source.step label = some target) : Running source := by
  intro exception raised
  simp only [System.step, raised] at taken
  cases taken

/-- What a run keeps as long as it goes on and the generations do not wrap. -/
structure Kept (config : ServerConfig) (poolSize : Nat) (system : System) : Prop where
  reached : Reachable System.step (System.start config poolSize) system
  framed : system.nextSessionGeneration ≤ 2 ^ 64 → Running system → Framed system

theorem framed_reachable {config : ServerConfig} {poolSize : Nat} {system : System}
    (reached : Reachable System.step (System.start config poolSize) system)
    (unwrapped : system.nextSessionGeneration ≤ 2 ^ 64) (running : Running system) :
    Framed system := by
  have kept : Kept config poolSize system := by
    apply reached.invariant
    · exact ⟨reachable_refl _ _, fun _ _ => framed_start config poolSize⟩
    · intro source label target before taken
      refine ⟨before.reached.next taken, ?_⟩
      intro small goes
      have earlier := (grown_step (coherent_reachable before.reached) taken).1.trans small
      exact framed_step before.reached (before.framed earlier (running_of_step taken)) taken small
        goes
  exact kept.framed unwrapped running

/-- The run has brought a session all bytes of a stream, or those up to a QUIT
after which the server reads no more, and is not in the middle of its lines. -/
structure Served (config : ServerConfig) (poolSize : Nat) (system : System) (ref : SessionRef)
    (stream : Bytes) : Prop where
  reached : Reachable System.step (System.start config poolSize) system
  unwrapped : system.nextSessionGeneration ≤ 2 ^ 64
  running : Running system
  between : reader system.position ≠ some ref
  delivered : received system.history ref = stream ∨
    (received system.history ref <+: stream ∧ (lines system.history ref).any isQuit = true)

theorem lines_of_stream {config : ServerConfig} {poolSize : Nat} {system : System}
    {ref : SessionRef} {stream : Bytes} (served : Served config poolSize system ref stream) :
    lines system.history ref = upTo isQuit (pieces newline stream) := by
  have framed := framed_reachable served.reached served.unwrapped served.running
  rcases framed.settled ref served.between with ⟨rest, reading, done⟩
  rcases served.delivered with whole | ⟨⟨more, extended⟩, quit⟩
  · rw [← whole]
    exact reading.complete done
  · rw [← extended]
    exact reading.stopped quit more

theorem input_of_stream {config : ServerConfig} {poolSize : Nat} {system : System}
    {ref : SessionRef} {stream : Bytes} {session : Session}
    (served : Served config poolSize system ref stream)
    (goes : ∀ line ∈ pieces newline stream, isQuit line = false)
    (alive : system.live ref = some session) : session.input = remainder newline stream := by
  have framed := framed_reachable served.reached served.unwrapped served.running
  have handled := lines_of_stream served
  rw [up_to_of_none goes] at handled
  have noQuit : (lines system.history ref).any isQuit = false := by
    rw [handled, List.any_eq_false]
    intro line member
    rw [goes line member]
    exact Bool.false_ne_true
  have whole : received system.history ref = stream := by
    rcases served.delivered with whole | ⟨_, quit⟩
    · exact whole
    · rw [noQuit] at quit
      cases quit
  rcases framed.settled ref served.between with ⟨rest, reading, done⟩
  have own := (framed.alive ref session alive).1
  have same : session.input = rest :=
    List.append_cancel_left (own.split.symm.trans reading.split)
  have exhausted : newline ∉ rest := by
    rcases done with quit | exhausted
    · rw [noQuit] at quit
      cases quit
    · exact exhausted
  rw [same, ← whole]
  exact (reading.left exhausted).symm

/-- However the stream of a client arrives, the same lines are handled. -/
theorem framing_ignores_segmentation {config other : ServerConfig} {poolSize size : Nat}
    {first second : System} {ref twin : SessionRef} {stream : Bytes}
    (one : Served config poolSize first ref stream)
    (two : Served other size second twin stream) :
    lines first.history ref = lines second.history twin ∧
    lines first.history ref = upTo isQuit (pieces newline stream) ∧
    ((∀ line ∈ pieces newline stream, isQuit line = false) → ∀ session,
      first.live ref = some session → session.input = remainder newline stream) := by
  refine ⟨?_, lines_of_stream one, ?_⟩
  · rw [lines_of_stream one, lines_of_stream two]
  · intro goes session alive
    exact input_of_stream one goes alive

/-- Two lines and the start of a third one arrive together. -/
def inOneChunk : List Label :=
  [.tick, .accept 0 5, .tick, .tick, .tick, .tick, .tick, .recv 2 (ascii "HOP\nQUIT\nX"), .tick,
    .tick, .tick, .tick]

/-- They arrive in three chunks; the server does not read on after the QUIT. -/
def inThreeChunks : List Label :=
  [.tick, .accept 0 5, .tick, .tick, .tick, .tick, .tick, .recv 2 (ascii "HO"), .tick, .tick,
    .tick, .tick, .tick, .recv 3 (ascii "P\nQUI"), .tick, .tick, .tick, .tick, .tick, .tick,
    .recv 3 (ascii "T\n"), .tick, .tick, .tick]

theorem framing_ignores_segmentation_quit :
    ∃ first second, run System.step (System.start .default 1) inOneChunk = some first ∧
      run System.step (System.start .default 1) inThreeChunks = some second ∧
      received second.history ⟨5, 1⟩ = ascii "HOP\nQUIT\n" ∧
      lines first.history ⟨5, 1⟩ = lines second.history ⟨5, 1⟩ ∧
      lines first.history ⟨5, 1⟩ =
        upTo isQuit (pieces newline (ascii "HOP\nQUIT\nX")) := by
  have one : (run System.step (System.start .default 1) inOneChunk).any (fun system =>
      decide (system.nextSessionGeneration = 2) && decide (system.position = .draining) &&
      decide (received system.history ⟨5, 1⟩ = ascii "HOP\nQUIT\nX")) = true := by
    decide
  have two : (run System.step (System.start .default 1) inThreeChunks).any (fun system =>
      decide (system.nextSessionGeneration = 2) && decide (system.position = .draining) &&
      decide (received system.history ⟨5, 1⟩ = ascii "HOP\nQUIT\n") &&
      (lines system.history ⟨5, 1⟩).any isQuit) = true := by
    decide
  rcases (Option.any_eq_true _ _).mp one with ⟨first, ran, facts⟩
  rcases (Option.any_eq_true _ _).mp two with ⟨second, walked, others⟩
  simp only [Bool.and_eq_true, decide_eq_true_eq] at facts others
  rcases facts with ⟨⟨generation, position⟩, arrived⟩
  rcases others with ⟨⟨⟨later, place⟩, came⟩, quit⟩
  have whole : Served .default 1 first ⟨5, 1⟩ (ascii "HOP\nQUIT\nX") := by
    constructor
    · exact ⟨inOneChunk, ran⟩
    · rw [generation]
      decide
    · intro exception raised
      rw [position] at raised
      cases raised
    · rw [position]
      decide
    · exact Or.inl arrived
  have parts : Served .default 1 second ⟨5, 1⟩ (ascii "HOP\nQUIT\nX") := by
    constructor
    · exact ⟨inThreeChunks, walked⟩
    · rw [later]
      decide
    · intro exception raised
      rw [place] at raised
      cases raised
    · rw [place]
      decide
    · right
      rw [came]
      exact ⟨by decide, quit⟩
  have both := framing_ignores_segmentation whole parts
  exact ⟨first, second, ran, walked, came, both.1, both.2.1⟩

end DungeonPortfolio.LineFraming
