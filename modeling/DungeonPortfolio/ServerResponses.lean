import DungeonPortfolio.ServerActs
import DungeonPortfolio.WorldViews

/-!
# Responses, departures and client lines as chains of acts

From the pieces up: a response, a list of world events, a departure, a closed
session, a client line. Only `Coherent` is needed of the state: it is what makes
every receiver of a world event a live session.
-/

namespace DungeonPortfolio.ServerResponses

open DungeonPortfolio.Text DungeonPortfolio.Protocol DungeonPortfolio.World
open DungeonPortfolio.WorldIndex DungeonPortfolio.WorldViews DungeonPortfolio.Dispatcher
open DungeonPortfolio.Server DungeonPortfolio.ServerActs
open Library.Execution Library.HashSet

set_option autoImplicit false

theorem leave_receivers {world : SectorWorld} (indexed : Indexed world)
    (order : SectorWorld.CallOrder) (ref : SessionRef) (snapshot : PlayerSnapshot) :
    ∀ event ∈ (world.leave order ref snapshot).2.1,
      event.receiver ≠ ref ∧ world.players event.receiver ≠ none := by
  intro event member
  cases lookup : world.players ref with
  | none =>
      rw [leave_absent order snapshot lookup] at member
      cases member
  | some player =>
      rw [leave_present order snapshot lookup] at member
      rcases List.mem_map.mp member with ⟨receiver, kept, rfl⟩
      have watching := List.mem_filter.mp kept
      rw [(order 0).mem_list, mem_watchers_iff indexed] at watching
      rcases watching with ⟨⟨watcher, present, _⟩, other⟩
      constructor
      · simpa using other
      · rw [present]
        exact Option.some_ne_none watcher

theorem call_receivers {world : SectorWorld} (indexed : Indexed world) {ref : SessionRef}
    {call : WorldCall} (order : SectorWorld.CallOrder) (by_ : CallBy ref call) :
    ∀ event ∈ (world.call order call).2,
      event.receiver = ref ∨ world.players event.receiver ≠ none := by
  intro event member
  by_cases self : event.receiver = ref
  · exact Or.inl self
  right
  cases call with
  | enter caller account character x y =>
      obtain rfl := by_.1
      simp only [SectorWorld.call] at member
      rw [enter_events, List.mem_append, List.mem_append] at member
      rcases member with (departed | announced) | snapshot
      · exact (leave_receivers indexed order caller PlayerSnapshot.empty event departed).2
      · rcases List.mem_map.mp announced with ⟨receiver, watching, rfl⟩
        rw [(order 1).mem_list, enter_watchers indexed order caller account character x y receiver
          self] at watching
        rcases watching with ⟨watcher, present, _⟩
        rw [present]
        exact Option.some_ne_none watcher
      · rcases List.mem_filterMap.mp snapshot with ⟨receiver, _, shown⟩
        rcases Option.map_eq_some_iff.mp shown with ⟨other, _, rfl⟩
        exact absurd rfl self
  | move caller x y =>
      obtain rfl : caller = ref := by_
      simp only [SectorWorld.call] at member
      cases lookup : world.players caller with
      | none =>
          rw [move_absent order x y lookup, List.mem_singleton] at member
          rw [member] at self
          exact absurd rfl self
      | some old =>
          rw [move_events order x y lookup] at member
          rcases List.mem_filterMap.mp member with ⟨receiver, watching, shown⟩
          rcases Option.map_eq_some_iff.mp shown with ⟨line, _, rfl⟩
          rw [(order 0).mem_list, Finset.mem_union, mem_watchers_iff indexed,
            move_watchers indexed order x y lookup receiver self] at watching
          rcases watching with ⟨watcher, present, _⟩ | ⟨watcher, present, _⟩
          · rw [present]
            exact Option.some_ne_none watcher
          · rw [present]
            exact Option.some_ne_none watcher
  | attack caller skill target =>
      obtain rfl : caller = ref := by_
      simp only [SectorWorld.call, SectorWorld.attack] at member
      cases lookup : world.players caller with
      | none =>
          rw [lookup, List.mem_singleton] at member
          rw [member] at self
          exact absurd rfl self
      | some player =>
          rw [lookup] at member
          rcases List.mem_map.mp member with ⟨receiver, watching, rfl⟩
          rw [(order 0).mem_list, mem_watchers_iff indexed] at watching
          rcases watching with ⟨watcher, present, _⟩
          rw [present]
          exact Option.some_ne_none watcher
  | leave caller =>
      obtain rfl : caller = ref := by_
      exact (leave_receivers indexed order caller PlayerSnapshot.empty event member).2

/-- What a response leaves alone. -/
structure Undisturbed (system next : System) : Prop where
  config : next.config = system.config
  world : next.world = system.world
  keys : generationAt next = generationAt system
  connections : next.connections = system.connections
  position : next.position = system.position
  completed : next.completed = system.completed
  database : next.database = system.database
  nextRequestId : next.nextRequestId = system.nextRequestId
  nextGeneration : next.nextSessionGeneration = system.nextSessionGeneration

theorem Undisturbed.refl (system : System) : Undisturbed system system :=
  ⟨rfl, rfl, rfl, rfl, rfl, rfl, rfl, rfl, rfl⟩

theorem Undisturbed.trans {first second third : System} (before : Undisturbed first second)
    (after : Undisturbed second third) : Undisturbed first third where
  config := after.config.trans before.config
  world := after.world.trans before.world
  keys := after.keys.trans before.keys
  connections := after.connections.trans before.connections
  position := after.position.trans before.position
  completed := after.completed.trans before.completed
  database := after.database.trans before.database
  nextRequestId := after.nextRequestId.trans before.nextRequestId
  nextGeneration := after.nextGeneration.trans before.nextGeneration

theorem get_sqe_cases (system : System) : system.getSqe = system ∨ system.getSqe = system.submit := by
  unfold System.getSqe
  split
  · exact Or.inl rfl
  · exact Or.inr rfl

theorem get_sqe_acts (system : System) : Acts system system.getSqe := by
  rcases get_sqe_cases system with same | submitted
  · rw [same]
  · rw [submitted]
    exact Relation.ReflTransGen.single (Act.submitted system)

theorem get_sqe_undisturbed (system : System) : Undisturbed system system.getSqe := by
  rcases get_sqe_cases system with same | submitted
  · rw [same]
    exact Undisturbed.refl system
  · rw [submitted]
    exact ⟨rfl, rfl, rfl, rfl, rfl, rfl, rfl, rfl, rfl⟩

@[simp] theorem get_sqe_sessions (system : System) : system.getSqe.sessions = system.sessions := by
  rcases get_sqe_cases system with same | submitted
  · rw [same]
  · rw [submitted]
    rfl

theorem get_sqe_live (system : System) (ref : SessionRef) :
    system.getSqe.live ref = system.live ref := by
  simp only [System.live, get_sqe_sessions]

@[simp] theorem get_sqe_history (system : System) : system.getSqe.history = system.history := by
  rcases get_sqe_cases system with same | submitted
  · rw [same]
  · rw [submitted]
    rfl

theorem get_sqe_record (system : System) (event : Event) :
    (system.record event).getSqe = system.getSqe.record event := by
  by_cases room : system.prepared.length < system.config.ringEntries
  · have roomy : system.getSqe = system := if_pos room
    have after : (system.record event).getSqe = system.record event := if_pos room
    rw [roomy, after]
  · have full : system.getSqe = system.submit := if_neg room
    have after : (system.record event).getSqe = (system.record event).submit := if_neg room
    rw [full, after]
    rfl

theorem get_sqe_set_session (system : System) (fd : Int) (session : Option Session) :
    (system.setSession fd session).getSqe = system.getSqe.setSession fd session := by
  by_cases room : system.prepared.length < system.config.ringEntries
  · have roomy : system.getSqe = system := if_pos room
    have after : (system.setSession fd session).getSqe = system.setSession fd session := if_pos room
    rw [roomy, after]
  · have full : system.getSqe = system.submit := if_neg room
    have after : (system.setSession fd session).getSqe = (system.setSession fd session).submit := if_neg room
    rw [full, after]
    rfl

theorem set_session_again (system : System) (fd : Int) (first second : Option Session)
    (event : Event) :
    ((system.setSession fd first).record event).setSession fd second =
      (system.setSession fd second).record event := by
  simp only [System.setSession, System.record, Function.update_idem]

theorem post_send_busy {system : System} {fd : Int} {session : Session}
    (found : system.sessions fd = some session) (busy : session.writeInFlight = true) :
    system.postSend fd = system := by
  simp only [System.postSend, found, busy]

theorem post_send_flushed {system : System} {fd : Int} {session : Session}
    (found : system.sessions fd = some session) (flushed : session.outbox = []) :
    system.postSend fd = system := by
  simp only [System.postSend, found, flushed]
  split
  · rfl
  · rfl
  · rename_i impossible
    cases impossible

theorem post_send_front {system : System} {fd : Int} {session : Session} {front : Bytes}
    {rest : List Bytes} (found : system.sessions fd = some session)
    (idle : session.writeInFlight = false) (queued : session.outbox = front :: rest) :
    system.postSend fd =
      (system.getSqe.setSession fd (some { session with writeInFlight := true })).prepare
        (.send ⟨fd, session.generation⟩ front) := by
  simp only [System.postSend, found, idle, queued]
  rw [get_sqe_set_session]

theorem post_send_apart (system : System) (fd : Int) :
    (system.postSend fd).world = system.world ∧
      (system.postSend fd).history = system.history := by
  unfold System.postSend
  split
  · exact ⟨rfl, rfl⟩
  · split
    · exact ⟨rfl, rfl⟩
    · exact ⟨rfl, rfl⟩
    · rename_i session found _ _ front rest _ _
      let flying := system.setSession fd (some { session with writeInFlight := true })
      exact ⟨(get_sqe_undisturbed flying).world, get_sqe_history flying⟩

/-- A response is recorded once, for a live session or not, and the world stays. -/
theorem queue_response_records (system : System) (ref : SessionRef) (line : ServerLine) :
    (system.queueResponse ref line).world = system.world ∧
      ∃ event, (event = .queued ref line ∨ event = .dropped ref line) ∧
        (system.queueResponse ref line).history = system.history ++ [event] := by
  unfold System.queueResponse
  split
  · exact ⟨rfl, .dropped ref line, Or.inr rfl, rfl⟩
  · rename_i session alive
    let outbox := session.outbox ++ [terminated line.text]
    let queued := (system.setSession ref.fd (some { session with outbox })).record
      (.queued ref line)
    have posted := post_send_apart queued ref.fd
    exact ⟨posted.1, .queued ref line, Or.inl rfl, posted.2⟩

/-- The room `queue_response` makes in the submission queue. -/
def roomFor (system : System) (session : Session) : System :=
  if session.writeInFlight then system else system.getSqe

theorem room_for_acts (system : System) (session : Session) :
    Acts system (roomFor system session) := by
  unfold roomFor
  split
  · exact Relation.ReflTransGen.refl
  · exact get_sqe_acts system

theorem room_for_undisturbed (system : System) (session : Session) :
    Undisturbed system (roomFor system session) := by
  unfold roomFor
  split
  · exact Undisturbed.refl system
  · exact get_sqe_undisturbed system

theorem room_for_live (system : System) (session : Session) (ref : SessionRef) :
    (roomFor system session).live ref = system.live ref := by
  unfold roomFor
  split
  · rfl
  · exact get_sqe_live system ref

theorem queue_response_live {system : System} {ref : SessionRef} {session : Session}
    (line : ServerLine) (alive : system.live ref = some session) :
    system.queueResponse ref line = pushLine (roomFor system session) ref session line := by
  have same := (live_eq_some.mp alive).2
  unfold System.queueResponse
  rw [alive]
  rcases session with ⟨generation, input, outbox, busy, closing, pending⟩
  have named : (⟨ref.fd, generation⟩ : SessionRef) = ref := by
    rw [show generation = ref.generation from same]
  have found : (((system.setSession ref.fd (some ⟨generation, input,
      outbox ++ [terminated line.text], busy, closing, pending⟩)).record
        (.queued ref line)).sessions ref.fd) = some ⟨generation, input,
          outbox ++ [terminated line.text], busy, closing, pending⟩ := Function.update_self _ _ _
  cases busy with
  | true => exact post_send_busy found rfl
  | false =>
      cases queued : outbox ++ [terminated line.text] with
      | nil => simp at queued
      | cons front rest =>
          simp only [pushLine, roomFor, queued, Bool.false_eq_true, if_false, List.headD_cons]
          rw [queued] at found
          rw [post_send_front found rfl rfl, get_sqe_record, get_sqe_set_session,
            set_session_again, named]

theorem push_line_undisturbed (system : System) {ref : SessionRef} (session : Session)
    (line : ServerLine) (alive : generationAt system ref.fd = some ref.generation)
    (same : session.generation = ref.generation) :
    Undisturbed system (pushLine system ref session line) := by
  unfold pushLine
  split
  · exact ⟨rfl, rfl, generation_at_replace alive same, rfl, rfl, rfl, rfl, rfl, rfl⟩
  · exact ⟨rfl, rfl, generation_at_replace alive same, rfl, rfl, rfl, rfl, rfl, rfl⟩

theorem queue_response_undisturbed {system : System} {ref : SessionRef} (line : ServerLine)
    (alive : generationAt system ref.fd = some ref.generation) :
    Undisturbed system (system.queueResponse ref line) := by
  rcases live_of_generation alive with ⟨session, found⟩
  rw [queue_response_live line found]
  have room := room_for_undisturbed system session
  apply room.trans
  apply push_line_undisturbed
  · rw [room.keys]
    exact alive
  · exact (live_eq_some.mp found).2

theorem queue_response_acts {system : System} {ref : SessionRef} {line : ServerLine}
    (direct : DirectLine line) (alive : generationAt system ref.fd = some ref.generation) :
    Acts system (system.queueResponse ref line) := by
  rcases live_of_generation alive with ⟨session, found⟩
  rw [queue_response_live line found]
  have room := room_for_acts system session
  apply room.tail
  apply Act.answered
  · rw [room_for_live]
    exact found
  · exact direct

theorem queue_response_history {system : System} {ref : SessionRef} (line : ServerLine)
    (alive : generationAt system ref.fd = some ref.generation) :
    (system.queueResponse ref line).history = system.history ++ [.queued ref line] := by
  rcases live_of_generation alive with ⟨session, found⟩
  rw [queue_response_live line found, push_line_history]
  unfold roomFor
  split
  · rfl
  · rw [get_sqe_history]

theorem queue_response_fills {system : System} {ref : SessionRef} (line : ServerLine)
    (alive : generationAt system ref.fd = some ref.generation) :
    ∃ session, (system.queueResponse ref line).live ref = some session ∧ session.outbox ≠ [] := by
  rcases live_of_generation alive with ⟨session, found⟩
  have generation := (live_eq_some.mp found).2
  rw [queue_response_live line found]
  unfold pushLine
  split
  · refine ⟨{ session with outbox := session.outbox ++ [terminated line.text] }, ?_, by simp⟩
    rw [live_eq_some]
    exact ⟨Function.update_self _ _ _, generation⟩
  · refine ⟨{ session with
      outbox := session.outbox ++ [terminated line.text], writeInFlight := true }, ?_, by simp⟩
    rw [live_eq_some]
    exact ⟨Function.update_self _ _ _, generation⟩

theorem deliver_undisturbed {system : System} {events : List WorldEvent}
    (alive : ∀ event ∈ events,
      generationAt system event.receiver.fd = some event.receiver.generation) :
    Undisturbed system (system.deliverWorldEvents events) := by
  induction events generalizing system with
  | nil => exact Undisturbed.refl system
  | cons event rest ih =>
      have first := queue_response_undisturbed (.world event.line)
        (alive event List.mem_cons_self)
      apply first.trans
      apply ih
      intro other member
      rw [first.keys]
      exact alive other (List.mem_cons_of_mem _ member)

def delivery (event : WorldEvent) : Event := .queued event.receiver (.world event.line)

theorem deliver_history {system : System} {events : List WorldEvent}
    (alive : ∀ event ∈ events,
      generationAt system event.receiver.fd = some event.receiver.generation) :
    (system.deliverWorldEvents events).history = system.history ++ events.map delivery := by
  induction events generalizing system with
  | nil => exact (List.append_nil _).symm
  | cons event rest ih =>
      have receiver := alive event List.mem_cons_self
      have same := queue_response_undisturbed (.world event.line) receiver
      have first := queue_response_history (.world event.line) receiver
      have others : ∀ other ∈ rest, generationAt (system.queueResponse event.receiver
          (.world event.line)) other.receiver.fd = some other.receiver.generation := by
        intro other member
        rw [same.keys]
        exact alive other (List.mem_cons_of_mem _ member)
      have later := ih others
      rw [first, List.append_assoc] at later
      exact later

theorem deliver_acts {system : System} {events : List WorldEvent}
    (alive : ∀ event ∈ events,
      generationAt system event.receiver.fd = some event.receiver.generation) :
    Acts system (system.deliverWorldEvents events) := by
  induction events generalizing system with
  | nil => exact Relation.ReflTransGen.refl
  | cons event rest ih =>
      have receiver := alive event List.mem_cons_self
      have direct : DirectLine (.world event.line) := trivial
      have first := queue_response_acts direct receiver
      have same := queue_response_undisturbed (.world event.line) receiver
      apply first.trans
      apply ih
      intro other member
      rw [same.keys]
      exact alive other (List.mem_cons_of_mem _ member)

theorem receivers_live {system : System} {ref : SessionRef} {call : WorldCall}
    (coherent : Coherent system) (order : SectorWorld.CallOrder) (by_ : CallBy ref call)
    (alive : generationAt system ref.fd = some ref.generation) :
    ∀ event ∈ (system.world.call order call).2,
      generationAt (system.setWorld (system.world.call order call).1) event.receiver.fd =
        some event.receiver.generation := by
  intro event member
  rcases call_receivers coherent.indexed order by_ event member with self | present
  · rw [self]
    exact alive
  · exact coherent.inWorld event.receiver present

theorem world_call_history {system : System} {ref : SessionRef} {call : WorldCall}
    (coherent : Coherent system) (order : SectorWorld.CallOrder) (by_ : CallBy ref call)
    (alive : generationAt system ref.fd = some ref.generation) :
    ((system.setWorld (system.world.call order call).1).deliverWorldEvents
      (system.world.call order call).2).history =
        system.history ++ (system.world.call order call).2.map delivery :=
  deliver_history (receivers_live coherent order by_ alive)

theorem world_call_acts {system : System} {ref : SessionRef} {call : WorldCall}
    (coherent : Coherent system) (order : SectorWorld.CallOrder) (by_ : CallBy ref call)
    (alive : generationAt system ref.fd = some ref.generation) :
    Acts system ((system.setWorld (system.world.call order call).1).deliverWorldEvents
      (system.world.call order call).2) ∧
    Undisturbed (system.setWorld (system.world.call order call).1)
      ((system.setWorld (system.world.call order call).1).deliverWorldEvents
        (system.world.call order call).2) := by
  have called := Act.worldCalled system order call ref (live_ne_none.mpr alive) by_
  have receivers := receivers_live coherent order by_ alive
  constructor
  · exact (Relation.ReflTransGen.single called).trans (deliver_acts receivers)
  · exact deliver_undisturbed receivers

/-- The save at the end of a departure. -/
def saveSnapshot (system : System) (ref : SessionRef) (snapshot : PlayerSnapshot) : System :=
  if snapshot.account.isEmpty then system
  else system.submitPositionSave ref snapshot.account snapshot.character snapshot.x snapshot.y

theorem leave_world_eq (system : System) (order : SectorWorld.CallOrder) (ref : SessionRef) :
    system.leaveWorld order ref =
      saveSnapshot ((system.setWorld (system.world.call order (.leave ref)).1).deliverWorldEvents
        (system.world.call order (.leave ref)).2) ref
          (system.world.leave order ref PlayerSnapshot.empty).2.2 := rfl

theorem save_snapshot_sessions (system : System) (ref : SessionRef) (snapshot : PlayerSnapshot) :
    (saveSnapshot system ref snapshot).sessions = system.sessions := by
  unfold saveSnapshot
  split
  · rfl
  · rfl

def snapshotEvents (system : System) (ref : SessionRef) (snapshot : PlayerSnapshot) :
    List Event :=
  if snapshot.account.isEmpty then []
  else [.submitted (System.positionJob (counterValue system.nextRequestId) ref snapshot.account
    snapshot.character snapshot.x snapshot.y)]

theorem leave_world_history {system : System} {ref : SessionRef} (coherent : Coherent system)
    (order : SectorWorld.CallOrder)
    (alive : generationAt system ref.fd = some ref.generation) :
    (system.leaveWorld order ref).history = system.history ++
      ((system.world.call order (.leave ref)).2.map delivery ++
        snapshotEvents system ref (system.world.leave order ref PlayerSnapshot.empty).2.2) := by
  have by_ : CallBy ref (.leave ref) := rfl
  have same := (world_call_acts coherent order by_ alive).2
  have delivered := world_call_history coherent order by_ alive
  rw [leave_world_eq]
  unfold saveSnapshot snapshotEvents
  split
  · rw [delivered, List.append_nil]
  · have requests : ((system.setWorld (system.world.call order (.leave ref)).1).deliverWorldEvents
        (system.world.call order (.leave ref)).2).nextRequestId = system.nextRequestId :=
      same.nextRequestId
    simp only [System.submitPositionSave, System.submitJob, delivered, requests,
      List.append_assoc]

structure Left (system next : System) (ref : SessionRef) : Prop where
  acts : Acts system next
  keys : generationAt next = generationAt system
  position : next.position = system.position
  completed : next.completed = system.completed
  absent : next.world.players ref = none

theorem leave_world_left {system : System} {ref : SessionRef} (coherent : Coherent system)
    (order : SectorWorld.CallOrder)
    (alive : generationAt system ref.fd = some ref.generation) :
    Left system (system.leaveWorld order ref) ref := by
  have by_ : CallBy ref (.leave ref) := rfl
  rcases world_call_acts coherent order by_ alive with ⟨acts, same⟩
  have gone : (system.world.call order (.leave ref)).1.players ref = none := by
    simp only [SectorWorld.call]
    rw [leave_players, Function.update_self]
  have absent : ((system.setWorld (system.world.call order (.leave ref)).1).deliverWorldEvents
      (system.world.call order (.leave ref)).2).world.players ref = none := by
    rw [same.world]
    exact gone
  rw [leave_world_eq]
  unfold saveSnapshot
  split
  · exact ⟨acts, same.keys, same.position, same.completed, absent⟩
  · refine ⟨acts.tail (Act.saved _ ref _ _ _ _ ?_), same.keys, same.position, same.completed,
      absent⟩
    rw [live_ne_none, same.keys]
    exact alive

theorem close_session_live {system : System} {ref : SessionRef}
    (order : SectorWorld.CallOrder) (cause : CloseCause)
    (alive : generationAt system ref.fd = some ref.generation) :
    system.closeSession order cause ref.fd = erase (system.leaveWorld order ref) ref cause := by
  rcases live_of_generation alive with ⟨session, found⟩
  rcases live_eq_some.mp found with ⟨lookup, same⟩
  simp only [System.closeSession, lookup, same]
  rfl

theorem close_session_acts {system : System} {ref : SessionRef} (coherent : Coherent system)
    (order : SectorWorld.CallOrder) (cause : CloseCause) (other : cause ≠ .flushed)
    (position : system.position = .draining ∨ system.position = .completing)
    (alive : generationAt system ref.fd = some ref.generation) :
    Acts system (system.closeSession order cause ref.fd) := by
  rw [close_session_live order cause alive]
  have left := leave_world_left coherent order alive
  have still : generationAt (system.leaveWorld order ref) ref.fd = some ref.generation := by
    rw [left.keys]
    exact alive
  rcases live_of_generation still with ⟨session, found⟩
  apply left.acts.tail
  apply Act.erased _ ref session cause
  · rw [left.position]
    exact position
  · exact found
  · exact left.absent
  · intro flushed
    exact absurd flushed other

-- Events of a departure go to other sessions, so nothing the departing session still
-- holds is changed.

theorem post_send_other {system : System} {fd other : Int} (different : other ≠ fd) :
    (system.postSend fd).sessions other = system.sessions other := by
  unfold System.postSend
  split
  · rfl
  · split
    · rfl
    · rfl
    · simp only [System.prepare, get_sqe_sessions, System.setSession,
        Function.update_of_ne different]

theorem queue_response_other {system : System} {ref : SessionRef} (line : ServerLine)
    {fd : Int} (different : fd ≠ ref.fd) :
    (system.queueResponse ref line).sessions fd = system.sessions fd := by
  unfold System.queueResponse
  split
  · rfl
  · rw [post_send_other different]
    simp only [System.record, System.setSession, Function.update_of_ne different]

theorem deliver_other {system : System} {events : List WorldEvent} {fd : Int}
    (different : ∀ event ∈ events, event.receiver.fd ≠ fd) :
    (system.deliverWorldEvents events).sessions fd = system.sessions fd := by
  induction events generalizing system with
  | nil => rfl
  | cons event rest ih =>
      have first := different event List.mem_cons_self
      calc (System.deliverWorldEvents system (event :: rest)).sessions fd
          = (system.queueResponse event.receiver (.world event.line)).sessions fd :=
            ih fun other member => different other (List.mem_cons_of_mem _ member)
        _ = system.sessions fd := queue_response_other _ (Ne.symm first)

/-- The other receivers of a departure have other fds. -/
theorem leave_receivers_elsewhere {system : System} {ref : SessionRef}
    (coherent : Coherent system) (order : SectorWorld.CallOrder)
    (alive : generationAt system ref.fd = some ref.generation) :
    ∀ event ∈ (system.world.call order (.leave ref)).2, event.receiver.fd ≠ ref.fd := by
  intro event member same
  rcases leave_receivers coherent.indexed order ref PlayerSnapshot.empty event member with
    ⟨other, present⟩
  have known := coherent.inWorld event.receiver present
  rw [same, alive] at known
  apply other
  have generation := Option.some.inj known
  cases receiver : event.receiver with
  | mk fd number =>
      rw [receiver] at same generation
      cases ref with
      | mk ownFd ownNumber =>
          simp only at same generation
          rw [same, generation]

theorem leave_world_sessions {system : System} {ref : SessionRef} (coherent : Coherent system)
    (order : SectorWorld.CallOrder)
    (alive : generationAt system ref.fd = some ref.generation) :
    (system.leaveWorld order ref).sessions ref.fd = system.sessions ref.fd := by
  have elsewhere := leave_receivers_elsewhere coherent order alive
  rw [leave_world_eq, save_snapshot_sessions]
  exact deliver_other elsewhere

theorem maybe_close_acts {system : System} {ref : SessionRef} (coherent : Coherent system)
    (order : SectorWorld.CallOrder)
    (position : system.position = .draining ∨ system.position = .completing)
    (alive : generationAt system ref.fd = some ref.generation) :
    Acts system (system.maybeCloseAfterFlush order ref.fd) := by
  rcases live_of_generation alive with ⟨session, found⟩
  have lookup := (live_eq_some.mp found).1
  simp only [System.maybeCloseAfterFlush, lookup]
  split
  · rename_i ready
    simp only [Bool.and_eq_true, Bool.not_eq_true', List.isEmpty_iff] at ready
    rw [close_session_live order .flushed alive]
    have left := leave_world_left coherent order alive
    apply left.acts.tail
    apply Act.erased _ ref session .flushed
    · rw [left.position]
      exact position
    · rw [live_eq_some, leave_world_sessions coherent order alive]
      exact live_eq_some.mp found
    · exact left.absent
    · intro _
      exact ⟨ready.1.1, ready.1.2, ready.2⟩
  · exact Relation.ReflTransGen.refl

def entered (system : System) (order : SectorWorld.CallOrder) (ref : SessionRef)
    (account character : Bytes) (x y : Int32) : System :=
  let call := system.world.call order (.enter ref account character x y)
  ((system.setWorld call.1).deliverWorldEvents call.2).submitPositionSave ref account character x y

def moved (system : System) (order : SectorWorld.CallOrder) (ref : SessionRef) (x y : Int32) :
    System :=
  let call := system.world.call order (.move ref x y)
  (system.setWorld call.1).deliverWorldEvents call.2

def attacked (system : System) (order : SectorWorld.CallOrder) (ref : SessionRef)
    (skill target : Bytes) : System :=
  let call := system.world.call order (.attack ref skill target)
  (system.setWorld call.1).deliverWorldEvents call.2

def requested (system : System) (ref : SessionRef) (operation : DbOperation)
    (commandName : Bytes) (args : List Bytes) : System :=
  ((system.countPending ref.fd).queueResponse ref
    (.pending (counterValue system.nextRequestId) commandName)).submitJob
      ⟨ref, counterValue system.nextRequestId, operation, commandName, args, true⟩

def coordinates (xText yText : Bytes) : Except StdException (Int32 × Int32) :=
  match stoi xText with
  | .error exception => .error exception
  | .ok x =>
      match stoi yText with
      | .error exception => .error exception
      | .ok y => .ok (x, y)

theorem handle_enter_eq (system : System) (order : SectorWorld.CallOrder) (ref : SessionRef)
    (account character xText yText : Bytes) :
    system.handleEnter order ref [account, character, xText, yText] =
      (coordinates xText yText).map fun (x, y) => entered system order ref account character x y := by
  cases first : stoi xText with
  | error exception =>
      simp [System.handleEnter, at?, coordinates, first, bind, Except.bind, Except.map]
  | ok x =>
      cases second : stoi yText with
      | error exception =>
          simp [System.handleEnter, at?, coordinates, first, second, bind, Except.bind, Except.map]
      | ok y =>
          simp [System.handleEnter, at?, coordinates, first, second, bind, Except.bind, Except.map,
            pure, Except.pure, entered, SectorWorld.call]

theorem handle_move_eq (system : System) (order : SectorWorld.CallOrder) (ref : SessionRef)
    (xText yText : Bytes) :
    system.handleMove order ref [xText, yText] =
      (coordinates xText yText).map fun (x, y) => moved system order ref x y := by
  cases first : stoi xText with
  | error exception =>
      simp [System.handleMove, at?, coordinates, first, bind, Except.bind, Except.map]
  | ok x =>
      cases second : stoi yText with
      | error exception =>
          simp [System.handleMove, at?, coordinates, first, second, bind, Except.bind, Except.map]
      | ok y =>
          simp [System.handleMove, at?, coordinates, first, second, bind, Except.bind, Except.map,
            pure, Except.pure, moved, SectorWorld.call]

theorem handle_attack_eq (system : System) (order : SectorWorld.CallOrder) (ref : SessionRef)
    (skill target : Bytes) :
    system.handleAttack order ref [skill, target] = .ok (attacked system order ref skill target) :=
  rfl

/-- What an accepted line does, command by command. -/
inductive Outcome (system : System) (order : SectorWorld.CallOrder) (ref : SessionRef)
    (request : Request) : Except StdException System → Prop
  | quit (type : request.type = .quit) :
      Outcome system order ref request (.ok (system.handleQuit order ref))
  | enter (account character xText yText : Bytes) (type : request.type = .enterWorld)
      (args : request.args = [account, character, xText, yText]) (token : IsToken account)
      (xNumber : isSignedNumber xText = true) (yNumber : isSignedNumber yText = true) :
      Outcome system order ref request ((coordinates xText yText).map fun (x, y) =>
        entered system order ref account character x y)
  | move (xText yText : Bytes) (type : request.type = .move)
      (args : request.args = [xText, yText]) (xNumber : isSignedNumber xText = true)
      (yNumber : isSignedNumber yText = true) :
      Outcome system order ref request ((coordinates xText yText).map fun (x, y) =>
        moved system order ref x y)
  | attack (skill target : Bytes) (type : request.type = .attack)
      (args : request.args = [skill, target]) :
      Outcome system order ref request (.ok (attacked system order ref skill target))
  | database (operation : DbOperation) (type : isDatabaseCommand request.type = true)
      (backed : operationFor request.type = .ok operation) :
      Outcome system order ref request
        (.ok (requested system ref operation request.commandName request.args))

theorem handle_database_eq (system : System) (ref : SessionRef) (request : Request)
    (operation : DbOperation) (backed : operationFor request.type = .ok operation) :
    system.handleDatabaseCommand ref request =
      .ok (requested system ref operation request.commandName request.args) := by
  simp only [System.handleDatabaseCommand, backed]
  rfl

theorem handle_client_line_outcome (system : System) (order : SectorWorld.CallOrder)
    (ref : SessionRef) {line : Bytes} {request : Request} (parsed : parseLine line = .ok request) :
    Outcome system order ref request (system.handleClientLine order ref line) := by
  rcases parse_line_accepted parsed with ⟨accepted, tokens⟩
  unfold System.handleClientLine
  rw [parsed]
  cases type : request.type with
  | quit =>
      simp only [type]
      exact Outcome.quit type
  | enterWorld =>
      simp only [Request.Accepted, type] at accepted
      rcases accepted with ⟨account, character, xText, yText, args, xNumber, yNumber⟩
      simp only [type, args, handle_enter_eq]
      refine Outcome.enter account character xText yText type args ?_ xNumber yNumber
      apply tokens
      rw [args]
      exact List.mem_cons_self
  | move =>
      simp only [Request.Accepted, type] at accepted
      rcases accepted with ⟨xText, yText, args, xNumber, yNumber⟩
      simp only [type, args, handle_move_eq]
      exact Outcome.move xText yText type args xNumber yNumber
  | attack =>
      simp only [Request.Accepted, type] at accepted
      rcases accepted with ⟨skill, target, args⟩
      simp only [type, args, handle_attack_eq]
      exact Outcome.attack skill target type args
  | unknown => simp only [Request.Accepted, type] at accepted
  | register | login | saveCharacter | loadCharacters | saveInventoryItem | loadInventory =>
      have backed : ∃ operation, operationFor request.type = .ok operation := by
        rw [type]
        exact ⟨_, rfl⟩
      rcases backed with ⟨operation, backed⟩
      simp only [type]
      change Outcome system order ref request (system.handleDatabaseCommand ref request)
      rw [handle_database_eq system ref request operation backed]
      apply Outcome.database operation _ backed
      rw [type]
      rfl

theorem coordinates_ok_iff {xText yText : Bytes} (xNumber : isSignedNumber xText = true)
    (yNumber : isSignedNumber yText = true) :
    (∃ pair, coordinates xText yText = .ok pair) ↔ FitsInt xText ∧ FitsInt yText := by
  have xFits := stoi_ok_iff (signed_number_is_signed_decimal xNumber)
  have yFits := stoi_ok_iff (signed_number_is_signed_decimal yNumber)
  unfold FitsInt
  rw [← xFits, ← yFits, coordinates]
  cases stoi xText with
  | error exception => simp
  | ok x =>
      cases stoi yText with
      | error exception => simp
      | ok y => simp

theorem map_ok_iff {Value Result : Type} {value : Except StdException Value}
    {function : Value → Result} :
    (∃ result, value.map function = .ok result) ↔ ∃ inner, value = .ok inner := by
  cases value with
  | error exception => simp [Except.map]
  | ok inner => simp [Except.map]

/-- `handle_client_line` returns on exactly the lines whose coordinates are
values of `int`. -/
theorem handle_client_line_ok_iff (system : System) (order : SectorWorld.CallOrder)
    (ref : SessionRef) (line : Bytes) :
    (∃ next, system.handleClientLine order ref line = .ok next) ↔ Convertible line := by
  unfold Convertible
  cases parsed : parseLine line with
  | error message =>
      simp only [iff_true, System.handleClientLine, parsed]
      exact ⟨_, rfl⟩
  | ok request =>
      have outcome := handle_client_line_outcome system order ref parsed
      generalize system.handleClientLine order ref line = reply at outcome
      cases outcome with
      | quit type => simp [type]
      | enter account character xText yText type args token xNumber yNumber =>
          simp only [type, args]
          rw [map_ok_iff, coordinates_ok_iff xNumber yNumber]
      | move xText yText type args xNumber yNumber =>
          simp only [type, args]
          rw [map_ok_iff, coordinates_ok_iff xNumber yNumber]
      | attack skill target type => simp [type]
      | database operation type =>
          cases kind : request.type with
          | enterWorld | move =>
              rw [kind] at type
              cases type
          | _ => simp [kind]

theorem map_ok {Value Result : Type} {value : Except StdException Value}
    {function : Value → Result} {result : Result} (mapped : value.map function = .ok result) :
    ∃ inner, value = .ok inner ∧ function inner = result := by
  cases value with
  | error exception => cases mapped
  | ok inner => exact ⟨inner, rfl, Except.ok.inj mapped⟩

/-- How `handle_client_line` returns, command by command. -/
inductive Returns (system : System) (order : SectorWorld.CallOrder) (ref : SessionRef)
    (line : Bytes) : System → Prop
  | rejected (message : Bytes) (parsed : parseLine line = .error message) :
      Returns system order ref line (system.queueResponse ref (.err message))
  | quit (request : Request) (parsed : parseLine line = .ok request)
      (type : request.type = .quit) : Returns system order ref line (system.handleQuit order ref)
  | enter (request : Request) (account character xText yText : Bytes) (x y : Int32)
      (parsed : parseLine line = .ok request) (type : request.type = .enterWorld)
      (args : request.args = [account, character, xText, yText]) (token : IsToken account)
      (converted : coordinates xText yText = .ok (x, y)) :
      Returns system order ref line (entered system order ref account character x y)
  | move (request : Request) (xText yText : Bytes) (x y : Int32)
      (parsed : parseLine line = .ok request) (type : request.type = .move)
      (args : request.args = [xText, yText]) (converted : coordinates xText yText = .ok (x, y)) :
      Returns system order ref line (moved system order ref x y)
  | attack (request : Request) (skill target : Bytes) (parsed : parseLine line = .ok request)
      (type : request.type = .attack) (args : request.args = [skill, target]) :
      Returns system order ref line (attacked system order ref skill target)
  | database (request : Request) (operation : DbOperation) (parsed : parseLine line = .ok request)
      (type : isDatabaseCommand request.type = true)
      (backed : operationFor request.type = .ok operation) :
      Returns system order ref line
        (requested system ref operation request.commandName request.args)

theorem handle_client_line_returns {system next : System} {order : SectorWorld.CallOrder}
    {ref : SessionRef} {line : Bytes}
    (handled : system.handleClientLine order ref line = .ok next) :
    Returns system order ref line next := by
  cases parsed : parseLine line with
  | error message =>
      have answer : system.handleClientLine order ref line =
          .ok (system.queueResponse ref (.err message)) := by
        simp only [System.handleClientLine, parsed]
      obtain rfl := Except.ok.inj (answer.symm.trans handled)
      exact Returns.rejected message parsed
  | ok request =>
      have outcome := handle_client_line_outcome system order ref parsed
      rw [handled] at outcome
      generalize result : (Except.ok next : Except StdException System) = reply at outcome
      cases outcome with
      | quit type =>
          obtain rfl := Except.ok.inj result
          exact Returns.quit request parsed type
      | enter account character xText yText type args token =>
          rcases map_ok result.symm with ⟨⟨x, y⟩, converted, rfl⟩
          exact Returns.enter request account character xText yText x y parsed type args token
            converted
      | move xText yText type args =>
          rcases map_ok result.symm with ⟨⟨x, y⟩, converted, rfl⟩
          exact Returns.move request xText yText x y parsed type args converted
      | attack skill target type args =>
          obtain rfl := Except.ok.inj result
          exact Returns.attack request skill target parsed type args
      | database operation type backed =>
          obtain rfl := Except.ok.inj result
          exact Returns.database request operation parsed type backed

/-- What holds after a handler that keeps its session. -/
structure Advanced (system next : System) : Prop where
  acts : Acts system next
  keys : generationAt next = generationAt system
  position : next.position = system.position
  completed : next.completed = system.completed

theorem set_close_live {system : System} {ref : SessionRef} {session : Session}
    (alive : system.live ref = some session) :
    system.setCloseAfterFlush ref.fd =
      system.setSession ref.fd (some { session with closeAfterFlush := true }) := by
  simp only [System.setCloseAfterFlush, (live_eq_some.mp alive).1]

theorem queue_and_close_advanced (system : System) {ref : SessionRef} {line : ServerLine}
    (direct : DirectLine line)
    (position : system.position = .framing ref ∨ system.position = .framed ref)
    (alive : generationAt system ref.fd = some ref.generation) :
    Advanced system ((system.queueResponse ref line).setCloseAfterFlush ref.fd) := by
  have queued := queue_response_acts direct alive
  have same := queue_response_undisturbed line alive
  rcases queue_response_fills line alive with ⟨session, found, filled⟩
  rw [set_close_live found]
  constructor
  · apply queued.tail
    apply Act.closing _ ref session _ found filled
    rw [same.position]
    exact position
  · rw [← same.keys]
    exact generation_at_replace (generation_of_live found) (live_eq_some.mp found).2
  · exact same.position
  · exact same.completed

theorem handle_quit_advanced {system : System} {ref : SessionRef} (coherent : Coherent system)
    (order : SectorWorld.CallOrder) (position : system.position = .framing ref)
    (alive : generationAt system ref.fd = some ref.generation) :
    Advanced system (system.handleQuit order ref) := by
  have left := leave_world_left coherent order alive
  have bye : DirectLine .bye := trivial
  have closed := queue_and_close_advanced (system.leaveWorld order ref) bye
    (Or.inl (left.position.trans position)) (by rw [left.keys]; exact alive)
  constructor
  · exact left.acts.trans closed.acts
  · exact closed.keys.trans left.keys
  · exact closed.position.trans left.position
  · exact closed.completed.trans left.completed

theorem world_call_advanced {system : System} {ref : SessionRef} {call : WorldCall}
    (coherent : Coherent system) (order : SectorWorld.CallOrder) (by_ : CallBy ref call)
    (alive : generationAt system ref.fd = some ref.generation) :
    Advanced system ((system.setWorld (system.world.call order call).1).deliverWorldEvents
      (system.world.call order call).2) := by
  rcases world_call_acts coherent order by_ alive with ⟨acts, same⟩
  exact ⟨acts, same.keys, same.position, same.completed⟩

theorem entered_advanced {system : System} {ref : SessionRef} (coherent : Coherent system)
    (order : SectorWorld.CallOrder) {account : Bytes} (named : account ≠ []) (character : Bytes)
    (x y : Int32) (alive : generationAt system ref.fd = some ref.generation) :
    Advanced system (entered system order ref account character x y) := by
  have by_ : CallBy ref (.enter ref account character x y) := ⟨rfl, named⟩
  have called := world_call_advanced coherent order by_ alive
  constructor
  · apply called.acts.tail
    apply Act.saved
    rw [live_ne_none, called.keys]
    exact alive
  · exact called.keys
  · exact called.position
  · exact called.completed

theorem push_line_over (system : System) (ref : SessionRef) (replaced : Option Session)
    (session : Session) (line : ServerLine) :
    pushLine (system.setSession ref.fd replaced) ref session line =
      pushLine system ref session line := by
  unfold pushLine
  simp only [System.setSession, Function.update_idem]

theorem requested_eq {system : System} {ref : SessionRef} {session : Session}
    (alive : system.live ref = some session) (operation : DbOperation) (commandName : Bytes)
    (args : List Bytes) :
    requested system ref operation commandName args =
      (pushLine (roomFor system session) ref { session with pendingDb := session.pendingDb + 1 }
        (.pending (counterValue (roomFor system session).nextRequestId) commandName)).submitJob
          ⟨ref, counterValue (roomFor system session).nextRequestId, operation, commandName, args,
            true⟩ := by
  rcases live_eq_some.mp alive with ⟨lookup, same⟩
  have counted : system.countPending ref.fd =
      system.setSession ref.fd (some { session with pendingDb := session.pendingDb + 1 }) := by
    simp only [System.countPending, lookup]
  have found : (system.countPending ref.fd).live ref =
      some { session with pendingDb := session.pendingDb + 1 } := by
    rw [live_eq_some, counted]
    exact ⟨Function.update_self _ _ _, same⟩
  have room : roomFor (system.countPending ref.fd)
      { session with pendingDb := session.pendingDb + 1 } =
        (roomFor system session).setSession ref.fd
          (some { session with pendingDb := session.pendingDb + 1 }) := by
    rw [counted]
    unfold roomFor
    split
    · rfl
    · exact get_sqe_set_session system ref.fd _
  have number := (room_for_undisturbed system session).nextRequestId
  unfold requested
  rw [queue_response_live _ found, room, push_line_over, number]

theorem operation_for_foreground {command : CommandType} {operation : DbOperation}
    (backed : operationFor command = .ok operation) : operation ≠ .savePosition := by
  intro background
  rw [background] at backed
  cases command with
  | _ => cases backed

theorem requested_advanced {system : System} {ref : SessionRef}
    (alive : generationAt system ref.fd = some ref.generation) {operation : DbOperation}
    (foreground : operation ≠ .savePosition) (commandName : Bytes) (args : List Bytes) :
    Advanced system (requested system ref operation commandName args) := by
  rcases live_of_generation alive with ⟨session, found⟩
  have room := room_for_undisturbed system session
  have pushed := push_line_undisturbed (roomFor system session)
    { session with pendingDb := session.pendingDb + 1 }
    (.pending (counterValue (roomFor system session).nextRequestId) commandName)
    (by rw [room.keys]; exact alive) (live_eq_some.mp found).2
  rw [requested_eq found]
  constructor
  · apply (room_for_acts system session).tail
    refine Act.requested _ ref session operation commandName args ?_ foreground
    rw [room_for_live]
    exact found
  · exact pushed.keys.trans room.keys
  · exact pushed.position.trans room.position
  · exact pushed.completed.trans room.completed

theorem handle_client_line_advanced {system next : System} {ref : SessionRef} {line : Bytes}
    (coherent : Coherent system) (order : SectorWorld.CallOrder)
    (position : system.position = .framing ref)
    (alive : generationAt system ref.fd = some ref.generation)
    (handled : system.handleClientLine order ref line = .ok next) : Advanced system next := by
  cases handle_client_line_returns handled with
  | rejected message =>
      have same := queue_response_undisturbed (.err message) alive
      have direct : DirectLine (.err message) := trivial
      exact ⟨queue_response_acts direct alive, same.keys, same.position, same.completed⟩
  | quit => exact handle_quit_advanced coherent order position alive
  | enter request account character xText yText x y parsed type args token =>
      exact entered_advanced coherent order token.1 character x y alive
  | move request xText yText x y =>
      have by_ : CallBy ref (.move ref x y) := rfl
      exact world_call_advanced coherent order by_ alive
  | attack request skill target =>
      have by_ : CallBy ref (.attack ref skill target) := rfl
      exact world_call_advanced coherent order by_ alive
  | database request operation parsed type backed =>
      exact requested_advanced alive (operation_for_foreground backed) request.commandName
        request.args

abbrev takeLine (system : System) (ref : SessionRef) (session : Session) (line rest : Bytes) :
    System :=
  (system.setSession ref.fd (some { session with input := rest })).record (.lineHandled ref line)

/-- What a turn of the loop over the lines does. -/
inductive LineTurn (system : System) (order : SectorWorld.CallOrder) (ref : SessionRef) :
    System → Prop
  | stops (nothing : ∀ session, system.sessions ref.fd = some session →
        System.cutLine session.input = none) :
      LineTurn system order ref { system with position := .framed ref }
  | raises (session : Session) (line rest : Bytes) (exception : StdException)
      (found : system.sessions ref.fd = some session)
      (cut : System.cutLine session.input = some (line, rest))
      (failed : (takeLine system ref session line rest).handleClientLine order ref line =
        .error exception) :
      LineTurn system order ref
        { takeLine system ref session line rest with position := .raised exception }
  | handles (session : Session) (line rest : Bytes) (next : System)
      (found : system.sessions ref.fd = some session)
      (cut : System.cutLine session.input = some (line, rest))
      (answered : (takeLine system ref session line rest).handleClientLine order ref line =
        .ok next) :
      LineTurn system order ref
        { next with position :=
            if (next.live ref).any fun after => !after.closeAfterFlush then .framing ref
            else .framed ref }

theorem frame_line_turn (system : System) (order : SectorWorld.CallOrder) (ref : SessionRef) :
    LineTurn system order ref (system.frameLine order ref) := by
  unfold System.frameLine
  cases found : system.sessions ref.fd with
  | none =>
      apply LineTurn.stops
      intro session there
      cases found.symm.trans there
  | some session =>
      cases cut : System.cutLine session.input with
      | none =>
          simp only [cut]
          apply LineTurn.stops
          intro other there
          obtain rfl := Option.some.inj (found.symm.trans there)
          exact cut
      | some pieces =>
          rcases pieces with ⟨line, rest⟩
          simp only [cut]
          split
          · rename_i exception failed
            exact LineTurn.raises session line rest exception found cut failed
          · rename_i next answered
            have turn := LineTurn.handles session line rest next found cut answered
            cases alive : next.live ref with
            | none =>
                rw [alive] at turn
                exact turn
            | some after =>
                rw [alive, Option.any_some] at turn
                simp only
                cases closing : after.closeAfterFlush with
                | true =>
                    rw [closing] at turn
                    exact turn
                | false =>
                    rw [closing] at turn
                    exact turn

/-- A session whose line is too long is told so and marked for closing. -/
inductive Checked (system : System) (ref : SessionRef) (session : Session) : System → Prop
  | fits (short : ¬system.config.maxLineSize < session.input.length) :
      Checked system ref session system
  | refused (long : system.config.maxLineSize < session.input.length) :
      Checked system ref session
        ((system.queueResponse ref (.err (ascii "line too long"))).setCloseAfterFlush ref.fd)

/-- What `kRecv` does behind the loop over the lines. -/
inductive RecvEnd (system : System) (order : SectorWorld.CallOrder) (ref : SessionRef) :
    System → Prop
  | gone (gone : system.live ref = none) :
      RecvEnd system order ref { system with position := .draining }
  | lost (session : Session) (checked : System) (alive : system.live ref = some session)
      (checks : Checked system ref session checked) (lost : checked.sessions ref.fd = none) :
      RecvEnd system order ref { checked with position := .draining }
  | parks (session refreshed : Session) (checked : System)
      (alive : system.live ref = some session) (checks : Checked system ref session checked)
      (found : checked.sessions ref.fd = some refreshed)
      (closing : refreshed.closeAfterFlush = true) :
      RecvEnd system order ref
        ({ checked with position := .draining }.maybeCloseAfterFlush order ref.fd)
  | reads (session refreshed : Session) (checked : System)
      (alive : system.live ref = some session) (checks : Checked system ref session checked)
      (found : checked.sessions ref.fd = some refreshed)
      (open_ : refreshed.closeAfterFlush = false) :
      RecvEnd system order ref { checked.postRecv ref with position := .draining }

theorem finish_recv_end (system : System) (order : SectorWorld.CallOrder) (ref : SessionRef) :
    RecvEnd system order ref (system.finishRecv order ref) := by
  unfold System.finishRecv
  cases alive : system.live ref with
  | none => exact RecvEnd.gone alive
  | some session =>
      simp only
      generalize checking : (if system.config.maxLineSize < session.input.length then
        (system.queueResponse ref (.err (ascii "line too long"))).setCloseAfterFlush ref.fd
          else system) = checked
      have checks : Checked system ref session checked := by
        rw [← checking]
        split
        · rename_i long
          exact Checked.refused long
        · rename_i short
          exact Checked.fits short
      cases found : checked.sessions ref.fd with
      | none => exact RecvEnd.lost session checked alive checks found
      | some refreshed =>
          simp only
          split
          · rename_i closing
            exact RecvEnd.parks session refreshed checked alive checks found closing
          · rename_i open_
            exact RecvEnd.reads session refreshed checked alive checks found
              (Bool.eq_false_iff.mpr open_)

end DungeonPortfolio.ServerResponses
