import DungeonPortfolio.Broadcasts
import DungeonPortfolio.ServerSteps

/-!
# Every line is answered once

What a handled line queues to the session that sent it. The answer to a world
command comes out of the loop over the watchers, where the player finds itself
because it is listed in its own sector.
-/

namespace DungeonPortfolio.Answers

open DungeonPortfolio.Text DungeonPortfolio.Protocol DungeonPortfolio.World
open DungeonPortfolio.WorldIndex DungeonPortfolio.WorldViews DungeonPortfolio.WatcherLines
open DungeonPortfolio.Broadcasts DungeonPortfolio.Dispatcher
open DungeonPortfolio.Server DungeonPortfolio.ServerActs
open DungeonPortfolio.ServerResponses DungeonPortfolio.ServerSteps
open Library.Execution Library.HashSet

set_option autoImplicit false

/-- How the lines begin that answer a line. -/
def acknowledgements : List Bytes :=
  [ascii "ERR ", ascii "BYE", ascii "WORLD ENTERED ", ascii "WORLD MOVED ", ascii "WORLD ATTACK ",
    ascii "PENDING "]

def isAcknowledgement (text : Bytes) : Bool :=
  acknowledgements.any fun start => start.isPrefixOf text

def isSnapshot (text : Bytes) : Bool := (ascii "EVT SNAPSHOT ").isPrefixOf text

/-- The kinds of lines with such a text. -/
def Acknowledges : ServerLine → Bool
  | .err _ | .bye | .pending _ _ => true
  | .world (.worldEntered _) | .world (.worldMoved _) | .world (.worldAttack _ _) => true
  | .world .errNotInWorld => true
  | .hello | .completion _ _ _ | .world _ => false

theorem is_acknowledgement_text (line : ServerLine) :
    isAcknowledgement line.text = Acknowledges line := by
  cases line with
  | hello => rfl
  | err message => rfl
  | bye => rfl
  | pending requestId commandName => rfl
  | completion ok requestId line =>
      cases ok with
      | true => rfl
      | false => rfl
  | world line => cases line <;> rfl

def queuedPart (ref : SessionRef) : Event → Option ServerLine
  | .queued other line => if other = ref then some line else none
  | _ => none

def queuedTo (ref : SessionRef) (events : List Event) : List ServerLine :=
  events.filterMap (queuedPart ref)

theorem queued_to_append (ref : SessionRef) (first second : List Event) :
    queuedTo ref (first ++ second) = queuedTo ref first ++ queuedTo ref second :=
  List.filterMap_append

theorem queued_to_own (ref : SessionRef) (line : ServerLine) :
    queuedTo ref [.queued ref line] = [line] := by
  simp [queuedTo, queuedPart]

theorem queued_to_deliveries (ref : SessionRef) (events : List WorldEvent) :
    queuedTo ref (events.map delivery) = (sentTo ref events).map ServerLine.world := by
  induction events with
  | nil => rfl
  | cons event rest ih =>
      have here : queuedTo ref [delivery event] = (sentTo ref [event]).map ServerLine.world := by
        by_cases own : event.receiver = ref
        · simp [queuedTo, queuedPart, delivery, sentTo, own]
        · simp [queuedTo, queuedPart, delivery, sentTo, own]
      rw [List.map_cons, ← List.singleton_append, queued_to_append, ih, here, ← List.map_append,
        ← sent_append, List.singleton_append]

/-- From `system` to `next` these lines are queued to the session. -/
def Queues (system next : System) (ref : SessionRef) (lines : List ServerLine) : Prop :=
  ∃ events, next.history = system.history ++ events ∧ queuedTo ref events = lines

theorem Queues.then {first second third : System} {ref : SessionRef} {lines more : List ServerLine}
    (before : Queues first second ref lines) (after : Queues second third ref more) :
    Queues first third ref (lines ++ more) := by
  rcases before with ⟨earlier, history, here⟩
  rcases after with ⟨later, continued, there⟩
  refine ⟨earlier ++ later, ?_, ?_⟩
  · rw [continued, history, List.append_assoc]
  · rw [queued_to_append, here, there]

theorem queues_nothing {system next : System} (ref : SessionRef)
    (history : next.history = system.history) : Queues system next ref [] :=
  ⟨[], history.trans (List.append_nil _).symm, rfl⟩

theorem queues_response {system : System} {ref : SessionRef} (line : ServerLine)
    (alive : generationAt system ref.fd = some ref.generation) :
    Queues system (system.queueResponse ref line) ref [line] :=
  ⟨_, queue_response_history line alive, queued_to_own ref line⟩

theorem Queues.submit {system next : System} {ref : SessionRef} {lines : List ServerLine}
    (queued : Queues system next ref lines) (job : DbJob) :
    Queues system (next.submitJob job) ref lines := by
  have submitted : Queues next (next.submitJob job) ref [] := ⟨[.submitted job], rfl, rfl⟩
  have both := queued.then submitted
  rw [List.append_nil] at both
  exact both

section

variable {system : System} {ref : SessionRef}

theorem queues_call {call : WorldCall} (coherent : Coherent system)
    (order : SectorWorld.CallOrder) (by_ : CallBy ref call)
    (alive : generationAt system ref.fd = some ref.generation) :
    Queues system ((system.setWorld (system.world.call order call).1).deliverWorldEvents
      (system.world.call order call).2) ref
        ((sentTo ref (system.world.call order call).2).map ServerLine.world) :=
  ⟨_, world_call_history coherent order by_ alive, queued_to_deliveries ref _⟩

theorem queues_leave (coherent : Coherent system) (order : SectorWorld.CallOrder)
    (alive : generationAt system ref.fd = some ref.generation) :
    Queues system (system.leaveWorld order ref) ref [] := by
  have left := queues_call coherent order (show CallBy ref (.leave ref) from rfl) alive
  have silent : sentTo ref (system.world.call order (.leave ref)).2 = [] :=
    leave_sends_self system.world order ref
  rw [silent] at left
  rw [leave_world_eq]
  unfold saveSnapshot
  split
  · exact left
  · exact left.submit _

theorem queues_quit (coherent : Coherent system) (order : SectorWorld.CallOrder)
    (alive : generationAt system ref.fd = some ref.generation) :
    Queues system (system.handleQuit order ref) ref [.bye] := by
  have left := leave_world_left coherent order alive
  have still : generationAt (system.leaveWorld order ref) ref.fd = some ref.generation := by
    rw [left.keys]
    exact alive
  have closed : ∀ other : System, (other.setCloseAfterFlush ref.fd).history = other.history := by
    intro other
    unfold System.setCloseAfterFlush
    split
    · rfl
    · rfl
  have answered := (queues_leave coherent order alive).then (queues_response .bye still)
  exact answered.then (queues_nothing ref (closed _))

/-- A player that enters is told so, and then of the players around it. -/
theorem enter_tells_caller {world : SectorWorld} (indexed : Indexed world)
    (order : SectorWorld.CallOrder) (ref : SessionRef) (account character : Bytes) (x y : Int32) :
    ∃ seen : List PlayerState, sentTo ref (world.call order (.enter ref account character x y)).2 =
      .worldEntered (newcomer world ref account character x y) ::
        seen.map WorldLine.evtSnapshot := by
  rw [SectorWorld.call, enter_sends_self indexed order account character x y]
  exact ⟨_, congrArg (_ :: ·) List.map_filterMap.symm⟩

theorem move_tells_caller {world : SectorWorld} (indexed : Indexed world)
    (order : SectorWorld.CallOrder) (ref : SessionRef) (x y : Int32) :
    sentTo ref (world.call order (.move ref x y)).2 =
      [match world.players ref with
        | none => .errNotInWorld
        | some old => .worldMoved (relocated world old x y)] := by
  rw [SectorWorld.call]
  cases lookup : world.players ref with
  | none =>
      rw [move_absent order x y lookup]
      simp [sentTo]
  | some old => exact move_sends_self indexed order lookup x y

theorem attack_tells_caller {world : SectorWorld} (indexed : Indexed world)
    (order : SectorWorld.CallOrder) (ref : SessionRef) (skill target : Bytes) :
    sentTo ref (world.call order (.attack ref skill target)).2 =
      [match world.players ref with
        | none => .errNotInWorld
        | some _ => .worldAttack skill target] := by
  rw [SectorWorld.call]
  cases lookup : world.players ref with
  | none => simp [SectorWorld.attack, lookup, sentTo]
  | some player =>
      rw [attack_sends order skill target lookup, if_pos (watches_itself indexed lookup), if_pos rfl]

theorem queues_enter (coherent : Coherent system) (order : SectorWorld.CallOrder)
    {account : Bytes} (named : account ≠ []) (character : Bytes) (x y : Int32)
    (alive : generationAt system ref.fd = some ref.generation) :
    ∃ seen : List PlayerState, Queues system (entered system order ref account character x y) ref
      (.world (.worldEntered (newcomer system.world ref account character x y)) ::
        seen.map fun other => .world (.evtSnapshot other)) := by
  have by_ : CallBy ref (.enter ref account character x y) := ⟨rfl, named⟩
  have called := queues_call coherent order by_ alive
  obtain ⟨seen, told⟩ := enter_tells_caller coherent.indexed order ref account character x y
  rw [told, List.map_cons, List.map_map] at called
  exact ⟨seen, called.submit _⟩

theorem queues_move (coherent : Coherent system) (order : SectorWorld.CallOrder) (x y : Int32)
    (alive : generationAt system ref.fd = some ref.generation) :
    Queues system (moved system order ref x y) ref
      [.world (match system.world.players ref with
        | none => .errNotInWorld
        | some old => .worldMoved (relocated system.world old x y))] := by
  have called := queues_call coherent order (show CallBy ref (.move ref x y) from rfl) alive
  rw [move_tells_caller coherent.indexed] at called
  exact called

theorem queues_attack (coherent : Coherent system) (order : SectorWorld.CallOrder)
    (skill target : Bytes) (alive : generationAt system ref.fd = some ref.generation) :
    Queues system (attacked system order ref skill target) ref
      [.world (match system.world.players ref with
        | none => .errNotInWorld
        | some _ => .worldAttack skill target)] := by
  have called := queues_call coherent order (show CallBy ref (.attack ref skill target) from rfl)
    alive
  rw [attack_tells_caller coherent.indexed] at called
  exact called

theorem queues_request {session : Session} (alive : system.live ref = some session)
    (operation : DbOperation) (commandName : Bytes) (args : List Bytes) :
    Queues system (requested system ref operation commandName args) ref
      [.pending (counterValue system.nextRequestId) commandName] := by
  have counted : (system.countPending ref.fd).history = system.history ∧
      generationAt (system.countPending ref.fd) ref.fd = some ref.generation := by
    rcases live_eq_some.mp alive with ⟨lookup, same⟩
    have key := generation_of_live alive
    simp only [System.countPending, lookup]
    refine ⟨rfl, (congrFun (generation_at_replace key ?_) ref.fd).trans key⟩
    exact same
  have answered := (queues_nothing ref counted.1).then
    (queues_response (.pending (counterValue system.nextRequestId) commandName) counted.2)
  exact answered.submit _

end

def IsEnter (line : Bytes) : Prop :=
  ∃ request, parseLine line = .ok request ∧ request.type = .enterWorld

/-- What is queued for a line: one acknowledgement, and snapshots behind an ENTER. -/
structure AnsweredOnce (line : Bytes) (replies : List Bytes) : Prop where
  once : (replies.filter isAcknowledgement).length = 1
  others : ∀ reply ∈ replies, isAcknowledgement reply = false →
    isSnapshot reply = true ∧ IsEnter line

theorem answered_alone (line : Bytes) {answer : ServerLine} (direct : Acknowledges answer = true) :
    AnsweredOnce line ([answer].map ServerLine.text) := by
  have acknowledged : isAcknowledgement answer.text = true := by
    rw [is_acknowledgement_text, direct]
  constructor
  · simp [acknowledged]
  · intro reply listed other
    rw [List.mem_singleton.mp listed, acknowledged] at other
    cases other

theorem answered_entry {line : Bytes} (enter : IsEnter line) (player : PlayerState)
    (seen : List PlayerState) :
    AnsweredOnce line ((ServerLine.world (.worldEntered player) ::
      seen.map fun other => .world (.evtSnapshot other)).map ServerLine.text) := by
  have snapshots : ∀ reply ∈ seen.map fun other => (ServerLine.world (.evtSnapshot other)).text,
      isAcknowledgement reply = false ∧ isSnapshot reply = true := by
    intro reply listed
    rcases List.mem_map.mp listed with ⟨other, _, rfl⟩
    exact ⟨is_acknowledgement_text _, rfl⟩
  have acknowledged : isAcknowledgement (ServerLine.world (.worldEntered player)).text = true :=
    is_acknowledgement_text _
  rw [List.map_cons, List.map_map]
  constructor
  · have none : (seen.map fun other => (ServerLine.world (.evtSnapshot other)).text).filter
        isAcknowledgement = [] := by
      rw [List.filter_eq_nil_iff]
      intro reply listed
      rw [(snapshots reply listed).1]
      exact Bool.false_ne_true
    rw [List.filter_cons_of_pos acknowledged]
    exact congrArg (List.length ∘ (_ :: ·)) none
  · intro reply listed other
    rcases List.mem_cons.mp listed with rfl | behind
    · rw [acknowledged] at other
      cases other
    · exact ⟨(snapshots reply behind).2, enter⟩

theorem world_answer_direct (world : SectorWorld) (ref : SessionRef)
    {answer : PlayerState → WorldLine}
    (direct : ∀ player, Acknowledges (.world (answer player)) = true) :
    Acknowledges (.world (match world.players ref with
      | none => .errNotInWorld
      | some player => answer player)) = true := by
  cases world.players ref with
  | none => rfl
  | some player => exact direct player

theorem client_line_answered {system next : System} {ref : SessionRef} {line : Bytes}
    (coherent : Coherent system) (order : SectorWorld.CallOrder)
    (alive : generationAt system ref.fd = some ref.generation)
    (returned : system.handleClientLine order ref line = .ok next) :
    ∃ lines, Queues system next ref lines ∧ AnsweredOnce line (lines.map ServerLine.text) := by
  cases handle_client_line_returns returned with
  | rejected message => exact ⟨_, queues_response (.err message) alive, answered_alone line rfl⟩
  | quit => exact ⟨_, queues_quit coherent order alive, answered_alone line rfl⟩
  | enter request account character xText yText x y parsed type args token =>
      rcases queues_enter coherent order token.1 character x y alive with ⟨seen, queued⟩
      exact ⟨_, queued, answered_entry ⟨request, parsed, type⟩ _ seen⟩
  | move request xText yText x y =>
      refine ⟨_, queues_move coherent order x y alive, answered_alone line ?_⟩
      exact world_answer_direct system.world ref fun _ => rfl
  | attack request skill target =>
      refine ⟨_, queues_attack coherent order skill target alive, answered_alone line ?_⟩
      exact world_answer_direct system.world ref fun _ => rfl
  | database request operation =>
      rcases live_of_generation alive with ⟨session, found⟩
      exact ⟨_, queues_request found operation request.commandName request.args,
        answered_alone line rfl⟩

theorem frame_line_answered {system next : System} {ref : SessionRef} {session : Session}
    {line rest : Bytes} (coherent : Coherent system) (order : SectorWorld.CallOrder)
    (position : system.position = .framing ref) (alive : system.live ref = some session)
    (cut : System.cutLine session.input = some (line, rest))
    (taken : system.step (.server order) = some next)
    (returned : ∀ exception, next.position ≠ .raised exception) :
    ∃ events, next.history = system.history ++ .lineHandled ref line :: events ∧
      AnsweredOnce line ((queuedTo ref events).map ServerLine.text) := by
  have found := (live_eq_some.mp alive).1
  have turn := frame_line_turn system order ref
  rw [step_server, System.serverStep, position] at taken
  obtain rfl := Option.some.inj taken
  generalize system.frameLine order ref = next at turn returned
  cases turn with
  | stops nothing => cases cut.symm.trans (nothing session found)
  | raises _ _ _ exception => exact absurd rfl (returned exception)
  | handles other first remainder handled lookup split answered =>
      obtain rfl := Option.some.inj (found.symm.trans lookup)
      obtain ⟨rfl, rfl⟩ := Prod.mk.inj (Option.some.inj (cut.symm.trans split))
      rcases line_taken_coherent coherent position alive cut answered with ⟨_, started, still⟩
      obtain ⟨lines, ⟨events, history, queued⟩, once⟩ :=
        client_line_answered started order still answered
      refine ⟨events, ?_, queued ▸ once⟩
      rw [history]
      exact List.append_assoc _ _ _

theorem each_line_answered_once {config : ServerConfig} {poolSize : Nat} {system : System}
    (reached : Reachable System.step (System.start config poolSize) system) {ref : SessionRef}
    {session : Session} (alive : system.live ref = some session) (order : SectorWorld.CallOrder) :
    (∀ line next, system.handleClientLine order ref line = .ok next →
      ∃ events, next.history = system.history ++ events ∧
        AnsweredOnce line ((queuedTo ref events).map ServerLine.text)) ∧
    (∀ player, system.world.players ref = some player →
      (∀ line xText yText x y, parseLine line = .ok ⟨.move, ascii "MOVE", [xText, yText]⟩ →
        stoi xText = .ok x → stoi yText = .ok y →
          ∃ next, system.handleClientLine order ref line = .ok next ∧
            Queues system next ref [.world (.worldMoved (relocated system.world player x y))]) ∧
      ∀ line skill target, parseLine line = .ok ⟨.attack, ascii "ATTACK", [skill, target]⟩ →
        ∃ next, system.handleClientLine order ref line = .ok next ∧
          Queues system next ref [.world (.worldAttack skill target)]) ∧
    ∀ line rest next, system.position = .framing ref →
      System.cutLine session.input = some (line, rest) →
        system.step (.server order) = some next →
          (∀ exception, next.position ≠ .raised exception) →
            ∃ events, next.history = system.history ++ .lineHandled ref line :: events ∧
              AnsweredOnce line ((queuedTo ref events).map ServerLine.text) := by
  have coherent := coherent_reachable reached
  have key := generation_of_live alive
  refine ⟨?_, ?_, ?_⟩
  · intro line next returned
    obtain ⟨lines, ⟨events, history, queued⟩, answered⟩ :=
      client_line_answered coherent order key returned
    exact ⟨events, history, queued ▸ answered⟩
  · intro player present
    constructor
    · intro line xText yText x y parsed xValue yValue
      have moves := queues_move coherent order x y key
      rw [present] at moves
      refine ⟨moved system order ref x y, ?_, moves⟩
      simp only [System.handleClientLine, parsed, handle_move_eq, coordinates, xValue, yValue]
      rfl
    · intro line skill target parsed
      have attacks := queues_attack coherent order skill target key
      rw [present] at attacks
      refine ⟨attacked system order ref skill target, ?_, attacks⟩
      simp only [System.handleClientLine, parsed, handle_attack_eq]
  · intro line rest next position cut taken returned
    exact frame_line_answered coherent order position alive cut taken returned

def entersTheWorld : List Label :=
  [.tick, .accept 0 5, .tick, .tick, .tick, .tick, .tick,
    .recv 2 (ascii "ENTER a b 0 0\n"), .tick, .tick, .tick, .tick]

/-- Then it moves to the lowest `x` there is. -/
theorem each_line_answered_once_inside :
    ∃ system player next, run System.step (System.start .default 1) entersTheWorld = some system ∧
      system.world.players ⟨5, 1⟩ = some player ∧
      system.handleClientLine (fun _ => .ascending) ⟨5, 1⟩ (ascii "move -2147483648 7") =
        .ok next ∧
      Queues system next ⟨5, 1⟩
        [.world (.worldMoved (relocated system.world player (-2147483648) 7))] := by
  have ends : (run System.step (System.start .default 1) entersTheWorld).any (fun system =>
      (system.world.players ⟨5, 1⟩).isSome && (system.live ⟨5, 1⟩).isSome) = true := by
    decide
  rcases (Option.any_eq_true _ _).mp ends with ⟨system, ran, facts⟩
  simp only [Bool.and_eq_true, Option.isSome_iff_exists] at facts
  rcases facts with ⟨⟨player, present⟩, session, alive⟩
  have answered := each_line_answered_once ⟨entersTheWorld, ran⟩ alive fun _ => .ascending
  rcases (answered.2.1 player present).1 (ascii "move -2147483648 7") (ascii "-2147483648")
    (ascii "7") (-2147483648) 7 (by decide) (by decide) (by decide) with ⟨next, returned, queued⟩
  exact ⟨system, player, next, ran, present, returned, queued⟩

end DungeonPortfolio.Answers
