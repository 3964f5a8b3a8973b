import DungeonPortfolio.Answers
import DungeonPortfolio.Library.Dialogues
import DungeonPortfolio.LineLimit
import DungeonPortfolio.OwnCalls
import DungeonPortfolio.PlainWorld

/-!
# What a session is told

One session as if it were alone: its lines are answered one by one, in their
order, and what an answer says follows from the lines before it. Whatever else the
server is doing, the acknowledgements of a session are those of this dialogue; one
more may come at its end, when a line is too long.
-/

namespace DungeonPortfolio.Conversations

open DungeonPortfolio.Text DungeonPortfolio.Protocol DungeonPortfolio.World
open DungeonPortfolio.WorldIndex DungeonPortfolio.Dispatcher DungeonPortfolio.Server
open DungeonPortfolio.ServerActs DungeonPortfolio.ServerResponses DungeonPortfolio.ServerSteps
open DungeonPortfolio.Sessions DungeonPortfolio.Requests DungeonPortfolio.PositionSaves DungeonPortfolio.NoStall
open DungeonPortfolio.LineFraming DungeonPortfolio.LineLimit DungeonPortfolio.WatcherLines
open DungeonPortfolio.OwnCalls DungeonPortfolio.Answers DungeonPortfolio.Decimals
open Library.Execution Library.Dialogues

set_option autoImplicit false

def playerOf (who : PlayerSnapshot) : PlayerState :=
  ⟨⟨0, 0⟩, who.account, who.character, who.x, who.y, SectorWorld.default.sectorFor who.x who.y⟩

/-- The text that a line is answered with, by a session that plays `who`. -/
def Replies (who : Option PlayerSnapshot) (line text : Bytes) : Prop :=
  match parseLine line with
  | .error message => text = (ServerLine.err message).text
  | .ok request =>
      match request.type with
      | .quit => text = ServerLine.bye.text
      | .enterWorld => ∃ now, present who (effectOf line) = some now ∧
          text = (WorldLine.worldEntered (playerOf now)).text
      | .move => match present who (effectOf line) with
          | some now => text = (WorldLine.worldMoved (playerOf now)).text
          | none => text = WorldLine.errNotInWorld.text
      | .attack => match who with
          | some _ => ∃ skill target, request.args = [skill, target] ∧
              text = (WorldLine.worldAttack skill target).text
          | none => text = WorldLine.errNotInWorld.text
      | _ => ∃ requestId, text = (ServerLine.pending requestId request.commandName).text

abbrev Spoken : List Bytes → List Bytes → Option PlayerSnapshot → Prop :=
  Dialogue Replies (fun who line => present who (effectOf line)) none

/-- The lines of clients and their acknowledgements. -/
def isSpeech : Event → Bool
  | .lineHandled _ _ => true
  | .queued _ line => Acknowledges line
  | _ => false

def Says (system next : System) (said : List Event) : Prop :=
  ∃ events, next.history = system.history ++ events ∧ events.filter isSpeech = said

theorem Says.then {first second third : System} {said more : List Event}
    (before : Says first second said) (after : Says second third more) :
    Says first third (said ++ more) := by
  rcases before with ⟨events, history, here⟩
  rcases after with ⟨others, later, there⟩
  refine ⟨events ++ others, ?_, ?_⟩
  · rw [later, history, List.append_assoc]
  · rw [List.filter_append, here, there]

theorem Says.quietly {first second third : System} {said : List Event}
    (before : Says first second said) (after : Says second third []) : Says first third said := by
  have both := before.then after
  rw [List.append_nil] at both
  exact both

theorem says_nothing {system next : System} (history : next.history = system.history) :
    Says system next [] := ⟨[], history.trans (List.append_nil _).symm, rfl⟩

theorem says_silent {system next : System} {event : Event}
    (history : next.history = system.history ++ [event]) (silent : isSpeech event = false) :
    Says system next [] := by
  refine ⟨[event], history, ?_⟩
  rw [List.filter_singleton, silent]
  rfl

theorem says_event {system next : System} {event : Event}
    (history : next.history = system.history ++ [event]) (speech : isSpeech event = true) :
    Says system next [event] := by
  refine ⟨[event], history, ?_⟩
  rw [List.filter_singleton, speech]
  rfl

section

variable (system : System)

theorem says_response (ref : SessionRef) {line : ServerLine} (other : Acknowledges line = false) :
    Says system (system.queueResponse ref line) [] := by
  rcases (queue_response_records system ref line).2 with ⟨event, rfl | rfl, history⟩
  · exact says_silent history other
  · exact says_silent history rfl

theorem says_deliver {events : List WorldEvent}
    (others : ∀ event ∈ events, Acknowledges (.world event.line) = false) :
    Says system (system.deliverWorldEvents events) [] := by
  induction events generalizing system with
  | nil => exact says_nothing rfl
  | cons event rest ih =>
      have first := says_response system event.receiver (others event List.mem_cons_self)
      exact first.quietly (ih _ fun other listed => others other (List.mem_cons_of_mem _ listed))

theorem leave_acknowledges_nothing (world : SectorWorld) (order : SectorWorld.CallOrder)
    (ref : SessionRef) (snapshot : PlayerSnapshot) :
    ∀ event ∈ (world.leave order ref snapshot).2.1, Acknowledges (.world event.line) = false := by
  intro event listed
  unfold SectorWorld.leave at listed
  cases present : world.players ref with
  | none =>
      rw [present] at listed
      cases listed
  | some player =>
      rw [present] at listed
      rcases List.mem_map.mp listed with ⟨receiver, _, rfl⟩
      rfl

theorem says_leave (order : SectorWorld.CallOrder) (ref : SessionRef) :
    Says system (system.leaveWorld order ref) [] := by
  unfold System.leaveWorld
  generalize left : system.world.leave order ref PlayerSnapshot.empty = outcome
  rcases outcome with ⟨world, events, snapshot⟩
  have silent : ∀ event ∈ events, Acknowledges (.world event.line) = false := by
    have all := leave_acknowledges_nothing system.world order ref PlayerSnapshot.empty
    rw [left] at all
    exact all
  have delivered : Says system ((system.setWorld world).deliverWorldEvents events) [] :=
    (says_nothing rfl : Says system (system.setWorld world) []).quietly (says_deliver _ silent)
  simp only
  split_ifs
  · exact delivered
  · exact delivered.quietly (says_silent rfl rfl)

theorem says_close (order : SectorWorld.CallOrder) (cause : CloseCause) (fd : Int) :
    Says system (system.closeSession order cause fd) [] := by
  unfold System.closeSession
  split
  · exact says_nothing rfl
  · exact (says_leave system order _).quietly (says_silent rfl rfl)

theorem says_maybe_close (order : SectorWorld.CallOrder) (fd : Int) :
    Says system (system.maybeCloseAfterFlush order fd) [] := by
  unfold System.maybeCloseAfterFlush
  split
  · exact says_nothing rfl
  · split_ifs
    · exact says_close system order _ fd
    · exact says_nothing rfl

theorem says_set_close (fd : Int) : Says system (system.setCloseAfterFlush fd) [] := by
  unfold System.setCloseAfterFlush
  split <;> exact says_nothing rfl

theorem says_get_sqe : Says system system.getSqe [] := says_nothing (get_sqe_history system)

theorem says_post_send (fd : Int) : Says system (system.postSend fd) [] :=
  says_nothing (post_send_apart system fd).2

theorem says_accept (cqe : Cqe) : Says system (system.handleAccept cqe) [] := by
  unfold System.handleAccept
  split_ifs
  · refine Says.quietly ?_ (says_response _ _ rfl)
    exact says_silent rfl rfl
  · exact says_nothing rfl

theorem says_recv (order : SectorWorld.CallOrder) (ref : SessionRef) (cqe : Cqe) :
    Says system (system.handleRecv order ref cqe) [] := by
  unfold System.handleRecv
  split
  · exact says_nothing rfl
  · split_ifs
    · exact says_close system order _ _
    · exact says_silent rfl rfl

theorem says_send (order : SectorWorld.CallOrder) (ref : SessionRef) (payload : Bytes) (cqe : Cqe) :
    Says system (system.handleSend order ref payload cqe) [] := by
  unfold System.handleSend
  split
  · exact says_nothing rfl
  · simp only
    split
    · exact (says_nothing rfl).quietly (says_close _ order _ _)
    · split_ifs
      · exact (says_nothing rfl).quietly (says_close _ order _ _)
      · refine Says.quietly ?_ (says_maybe_close _ order ref.fd)
        exact Says.quietly (says_silent rfl rfl) (says_post_send _ ref.fd)
      · refine Says.quietly ?_ (says_maybe_close _ order ref.fd)
        exact Says.quietly (says_silent rfl rfl) (says_post_send _ ref.fd)

theorem says_completion (order : SectorWorld.CallOrder) :
    Says system (system.handleCompletion order) [] := by
  unfold System.handleCompletion
  split
  · exact (says_get_sqe system).quietly (says_nothing rfl)
  · rename_i completion rest _
    simp only
    have popped : Says system { system with
        database := { system.database with completions := rest }
        history := system.history ++ [.handled completion] } [] := says_silent rfl rfl
    split_ifs
    · split
      · exact popped
      · refine Says.quietly ?_ (says_maybe_close _ order _)
        refine Says.quietly ?_ (says_response _ _ rfl)
        split_ifs
        · exact popped.quietly (says_nothing rfl)
        · exact popped
    · exact popped

theorem says_handle (order : SectorWorld.CallOrder) (cqe : Cqe) :
    Says system (system.handleCqe order cqe) [] := by
  unfold System.handleCqe
  split
  · exact says_accept system cqe
  · exact says_recv system order _ cqe
  · exact says_send system order _ _ cqe
  · exact says_nothing rfl

end

theorem acknowledges_caller (world : SectorWorld) (order : SectorWorld.CallOrder) (call : WorldCall) :
    ∀ event ∈ (world.call order call).2,
      Acknowledges (.world event.line) = true → event.receiver = caller call := by
  intro event listed acknowledges
  cases call with
  | enter ref account character x y =>
      rcases List.mem_append.mp listed with early | snapshot
      · rcases List.mem_append.mp early with departure | announcement
        · rw [leave_acknowledges_nothing world order ref _ event departure] at acknowledges
          cases acknowledges
        · rcases List.mem_map.mp announcement with ⟨receiver, _, rfl⟩
          by_contra other
          have apart : receiver ≠ ref := other
          simp only [if_neg apart] at acknowledges
          cases acknowledges
      · rcases List.mem_filterMap.mp snapshot with ⟨receiver, _, made⟩
        rcases Option.map_eq_some_iff.mp made with ⟨other, _, rfl⟩
        cases acknowledges
  | move ref x y =>
      change event ∈ (world.move order ref x y).2 at listed
      unfold SectorWorld.move at listed
      cases present : world.players ref with
      | none =>
          rw [present] at listed
          rw [List.mem_singleton.mp listed]
          rfl
      | some old =>
          rw [present] at listed
          rcases List.mem_filterMap.mp listed with ⟨receiver, _, made⟩
          rcases Option.map_eq_some_iff.mp made with ⟨line, told, rfl⟩
          by_contra other
          have apart : receiver ≠ ref := other
          unfold SectorWorld.moveLine at told
          rw [if_neg apart] at told
          simp only at told
          split_ifs at told <;> cases told <;> cases acknowledges
  | attack ref skill target =>
      change event ∈ world.attack order ref skill target at listed
      unfold SectorWorld.attack at listed
      cases present : world.players ref with
      | none =>
          rw [present] at listed
          rw [List.mem_singleton.mp listed]
          rfl
      | some player =>
          rw [present] at listed
          rcases List.mem_map.mp listed with ⟨receiver, _, rfl⟩
          by_contra other
          have apart : receiver ≠ ref := other
          simp only [if_neg apart] at acknowledges
          cases acknowledges
  | leave ref =>
      rw [leave_acknowledges_nothing world order ref _ event listed] at acknowledges
      cases acknowledges

theorem speech_of_deliveries {ref : SessionRef} {events : List WorldEvent}
    (own : ∀ event ∈ events, Acknowledges (.world event.line) = true → event.receiver = ref) :
    (events.map delivery).filter isSpeech =
      (((sentTo ref events).map ServerLine.world).filter Acknowledges).map (Event.queued ref) := by
  induction events with
  | nil => rfl
  | cons event rest ih =>
      have later := ih fun other listed => own other (List.mem_cons_of_mem _ listed)
      have here := own event List.mem_cons_self
      rw [← List.singleton_append, List.map_append, List.filter_append, later, sent_append,
        List.map_append, List.filter_append, List.map_append]
      congr 1
      cases acknowledges : Acknowledges (.world event.line) with
      | false =>
          by_cases self : event.receiver = ref
          · simp [delivery, isSpeech, sentTo, self, acknowledges]
          · simp [delivery, isSpeech, sentTo, self, acknowledges]
      | true => simp [delivery, isSpeech, sentTo, here acknowledges, acknowledges]

section

variable {system : System} {ref : SessionRef}

theorem says_call {call : WorldCall} (coherent : Coherent system) (order : SectorWorld.CallOrder)
    (by_ : CallBy ref call) (alive : generationAt system ref.fd = some ref.generation) :
    Says system ((system.setWorld (system.world.call order call).1).deliverWorldEvents
      (system.world.call order call).2)
        ((((sentTo ref (system.world.call order call).2).map ServerLine.world).filter
          Acknowledges).map (Event.queued ref)) := by
  refine ⟨_, world_call_history coherent order by_ alive, speech_of_deliveries ?_⟩
  have self : caller call = ref := by
    cases call with
    | enter => exact by_.1
    | move | attack | leave => exact by_
  rw [← self]
  exact acknowledges_caller system.world order call

theorem says_back (line : ServerLine) (acknowledges : Acknowledges line = true)
    (alive : generationAt system ref.fd = some ref.generation) :
    Says system (system.queueResponse ref line) [.queued ref line] :=
  says_event (queue_response_history line alive) acknowledges

/-- What is sent to the caller of a call is one acknowledgement, and snapshots. -/
theorem says_told {call : WorldCall} {answer : WorldLine} (others : List PlayerState)
    (coherent : Coherent system) (order : SectorWorld.CallOrder) (by_ : CallBy ref call)
    (alive : generationAt system ref.fd = some ref.generation)
    (told : sentTo ref (system.world.call order call).2 =
      answer :: others.map WorldLine.evtSnapshot)
    (acknowledges : Acknowledges (.world answer) = true) :
    Says system ((system.setWorld (system.world.call order call).1).deliverWorldEvents
      (system.world.call order call).2) [.queued ref (.world answer)] := by
  have said := says_call coherent order by_ alive
  have silent : ((others.map WorldLine.evtSnapshot).map ServerLine.world).filter Acknowledges = [] := by
    rw [List.filter_eq_nil_iff]
    intro line listed
    rcases List.mem_map.mp listed with ⟨_, among, rfl⟩
    rcases List.mem_map.mp among with ⟨other, _, rfl⟩
    exact Bool.false_ne_true
  rw [told, List.map_cons, List.filter_cons_of_pos acknowledges, silent] at said
  exact said

def Sized (world : SectorWorld) : Prop := world.sectorSize = SectorWorld.default.sectorSize

theorem sector_of_sized {world : SectorWorld} (sized : Sized world) (x y : Int32) :
    world.sectorFor x y = SectorWorld.default.sectorFor x y := by
  unfold SectorWorld.sectorFor
  rw [sized]

theorem entered_text {world : SectorWorld} (sized : Sized world) (ref : SessionRef)
    (account character : Bytes) (x y : Int32) :
    (WorldLine.worldEntered (newcomer world ref account character x y)).text =
      (WorldLine.worldEntered (playerOf ⟨account, character, x, y⟩)).text := by
  unfold newcomer
  rw [sector_of_sized sized]
  rfl

theorem moved_text {world : SectorWorld} (sized : Sized world) (old : PlayerState) (x y : Int32) :
    (WorldLine.worldMoved (relocated world old x y)).text =
      (WorldLine.worldMoved (playerOf ⟨old.account, old.character, x, y⟩)).text := by
  unfold relocated
  rw [sector_of_sized sized]
  rfl

theorem says_request (operation : DbOperation) (commandName : Bytes) (args : List Bytes)
    (alive : generationAt system ref.fd = some ref.generation) :
    Says system (requested system ref operation commandName args)
      [.queued ref (.pending (counterValue system.nextRequestId) commandName)] := by
  rcases live_of_generation alive with ⟨session, found⟩
  have lookup := (live_eq_some.mp found).1
  have counted : Says system (system.countPending ref.fd) [] := by
    unfold System.countPending
    rw [lookup]
    exact says_nothing rfl
  have still : generationAt (system.countPending ref.fd) ref.fd = some ref.generation := by
    unfold System.countPending
    rw [lookup]
    have same : ({ session with pendingDb := session.pendingDb + 1 } : Session).generation =
        ref.generation := (live_eq_some.mp found).2
    exact (congrFun (generation_at_replace alive same) ref.fd).trans alive
  have answered := counted.then (says_back (.pending (counterValue system.nextRequestId)
    commandName) rfl still)
  exact answered.quietly (says_silent rfl rfl)

/-- A line that is handled is answered once, as one session by itself would be. -/
theorem client_line_says {next : System} {line : Bytes} (coherent : Coherent system)
    (sized : Sized system.world) (order : SectorWorld.CallOrder)
    (alive : generationAt system ref.fd = some ref.generation)
    (returned : system.handleClientLine order ref line = .ok next) :
    ∃ answer, Says system next [.queued ref answer] ∧ Acknowledges answer = true ∧
      Replies (PositionSaves.cast system.world ref) line answer.text := by
  cases handle_client_line_returns returned with
  | rejected message parsed =>
      refine ⟨.err message, says_back _ rfl alive, rfl, ?_⟩
      simp only [Replies, parsed]
  | quit request parsed type =>
      have left := leave_world_left coherent order alive
      have still : generationAt (system.leaveWorld order ref) ref.fd = some ref.generation := by
        rw [left.keys]
        exact alive
      have answered := (says_leave system order ref).then (says_back .bye rfl still)
      refine ⟨.bye, answered.quietly (says_set_close _ _), rfl, ?_⟩
      simp only [Replies, parsed, type]
  | enter request account character xText yText x y parsed type args token converted =>
      have by_ : CallBy ref (.enter ref account character x y) := ⟨rfl, token.1⟩
      rcases enter_tells_caller coherent.indexed order ref account character x y with ⟨seen, told⟩
      have said := says_told seen coherent order by_ alive told rfl
      refine ⟨_, said.quietly (says_silent rfl rfl), rfl, ?_⟩
      have effect : effectOf line = .enters ⟨account, character, x, y⟩ := by
        simp only [effectOf, parsed, type, args, converted]
      simp only [Replies, parsed, type, effect, present]
      exact ⟨_, rfl, entered_text sized ref account character x y⟩
  | move request xText yText x y parsed type args converted =>
      have by_ : CallBy ref (.move ref x y) := rfl
      have told := move_tells_caller coherent.indexed order ref x y
      have effect : effectOf line = .moves x y := by
        simp only [effectOf, parsed, type, args, converted]
      have said := says_told [] coherent order by_ alive told
        (world_answer_direct system.world ref fun _ => rfl)
      refine ⟨_, said, world_answer_direct system.world ref fun _ => rfl, ?_⟩
      simp only [Replies, parsed, type, effect, present, PositionSaves.cast]
      cases system.world.players ref with
      | none => rfl
      | some old => exact moved_text sized old x y
  | attack request skill target parsed type args =>
      have by_ : CallBy ref (.attack ref skill target) := rfl
      have told := attack_tells_caller coherent.indexed order ref skill target
      have said := says_told [] coherent order by_ alive told
        (world_answer_direct system.world ref fun _ => rfl)
      refine ⟨_, said, world_answer_direct system.world ref fun _ => rfl, ?_⟩
      simp only [Replies, parsed, type, PositionSaves.cast]
      cases system.world.players ref with
      | none => rfl
      | some player => exact ⟨skill, target, args, rfl⟩
  | database request operation parsed type backed =>
      refine ⟨_, says_request operation request.commandName request.args alive, rfl, ?_⟩
      cases kind : request.type with
      | enterWorld | move | attack | quit | unknown =>
          rw [kind] at type
          cases type
      | register | login | saveCharacter | loadCharacters | saveInventoryItem | loadInventory =>
          simp only [Replies, parsed, kind]
          exact ⟨_, rfl⟩

/-- What a step of the server says. -/
inductive Speaks (source target : System) : Prop
  | silent (said : Says source target [])
  | answers (ref : SessionRef) (line : Bytes) (answer : ServerLine)
      (position : source.position = .framing ref) (alive : source.live ref ≠ none)
      (said : Says source target [.lineHandled ref line, .queued ref answer])
      (acknowledges : Acknowledges answer = true)
      (replies : Replies (PositionSaves.cast source.world ref) line answer.text)
  | refuses (ref : SessionRef) (position : source.position = .framed ref)
      (alive : source.live ref ≠ none) (said : Says source target [.queued ref tooLong])
      (told : Told target ref)
  | raises (exception : StdException) (raised : target.position = .raised exception)

theorem frame_line_speaks (coherent : Coherent system) (sized : Sized system.world)
    (order : SectorWorld.CallOrder) (position : system.position = .framing ref) :
    Speaks system (system.frameLine order ref) := by
  have busy : busyWith system.position = some ref := by
    rw [position]
    rfl
  have turn := frame_line_turn system order ref
  generalize system.frameLine order ref = target at turn
  cases turn with
  | stops nothing => exact Speaks.silent (says_nothing rfl)
  | raises _ _ _ exception => exact Speaks.raises exception rfl
  | handles session line rest handled lookup cut answered =>
      rcases live_of_generation (coherent.busy ref busy) with ⟨other, alive⟩
      obtain rfl := Option.some.inj (lookup.symm.trans (live_eq_some.mp alive).1)
      rcases line_taken_coherent coherent position alive cut answered with ⟨_, started, still⟩
      rcases client_line_says started sized order still answered with
        ⟨answer, said, acknowledges, replies⟩
      have taken : Says system (takeLine system ref session line rest) [.lineHandled ref line] :=
        says_event rfl rfl
      refine Speaks.answers ref line answer position ?_ ?_ acknowledges replies
      · rw [alive]
        exact Option.some_ne_none session
      · exact (taken.then said).quietly (says_nothing rfl)

theorem finish_recv_says (order : SectorWorld.CallOrder)
    (position : system.position = .framed ref) : Speaks system (system.finishRecv order ref) := by
  have checks : ∀ session checked, system.live ref = some session →
      Checked system ref session checked → ∀ target, Says checked target [] →
        target = system.finishRecv order ref → Speaks system (system.finishRecv order ref) := by
    rintro session checked alive checked_ target quiet rfl
    cases checked_ with
    | fits short => exact Speaks.silent quiet
    | refused long =>
        have said := says_back tooLong rfl (generation_of_live alive)
        have closed := said.quietly (says_set_close _ ref.fd)
        refine Speaks.refuses ref position ?_ (closed.quietly quiet)
          (finish_recv_tells order alive long)
        rw [alive]
        exact Option.some_ne_none session
  have ended := finish_recv_end system order ref
  generalize same : system.finishRecv order ref = target at ended
  cases ended with
  | gone gone => exact Speaks.silent (says_nothing rfl)
  | lost session checked alive passed lost =>
      rw [← same]
      exact checks session checked alive passed { checked with position := .draining }
        (says_nothing rfl) same.symm
  | parks session refreshed checked alive passed =>
      rw [← same]
      refine checks session checked alive passed _ ?_ same.symm
      exact (says_nothing rfl).quietly (says_maybe_close _ order ref.fd)
  | reads session refreshed checked alive passed =>
      rw [← same]
      refine checks session checked alive passed _ ?_ same.symm
      exact (says_get_sqe checked).quietly (says_nothing rfl)

theorem server_step_speaks {target : System} {order : SectorWorld.CallOrder}
    (coherent : Coherent system) (sized : Sized system.world)
    (taken : system.serverStep order = some target) : Speaks system target := by
  cases server_step_cases taken with
  | submitting | drained => exact Speaks.silent (says_nothing rfl)
  | draining cqe rest =>
      have popped : Says system (setCompleted system rest) [] := says_nothing rfl
      exact Speaks.silent (popped.quietly (says_handle _ order cqe))
  | opened | reaccepting =>
      exact Speaks.silent ((says_get_sqe system).quietly (says_nothing rfl))
  | framing other position => exact frame_line_speaks coherent sized order position
  | framed other position => exact finish_recv_says order position
  | completing => exact Speaks.silent (says_completion system order)

end

/-- A session that was closed is not in the table any more. -/
def Departed (system : System) : Prop :=
  ∀ ref cause, .closed ref cause ∈ system.history →
    ref ∈ acceptedRefs system.history ∧ generationAt system ref.fd ≠ some ref.generation

theorem Departed.frame {system next : System} (departed : Departed system) {events : List Event}
    (history : next.history = system.history ++ events)
    (others : ∀ event ∈ events, ∀ ref cause, event ≠ .closed ref cause)
    (keys : ∀ fd number, generationAt next fd = some number →
      generationAt system fd = some number) : Departed next := by
  intro ref cause listed
  rw [history] at listed
  rcases List.mem_append.mp listed with earlier | new
  · rcases departed ref cause earlier with ⟨accepted, gone⟩
    refine ⟨?_, fun alive => gone (keys _ _ alive)⟩
    rw [history, accepted_refs_append]
    exact List.mem_append_left _ accepted
  · exact absurd rfl (others _ new ref cause)

theorem Departed.still {system next : System} (departed : Departed system)
    (history : next.history = system.history) (keys : generationAt next = generationAt system) :
    Departed next := by
  refine departed.frame (history.trans (List.append_nil _).symm) nothing_new ?_
  intro fd number alive
  rw [← keys]
  exact alive

/-- The events after which a session is not in the table. -/
def endsSession : Event → Bool
  | .closed _ _ => true
  | _ => false

theorem Departed.record {system next : System} (departed : Departed system) {event : Event}
    (history : next.history = system.history ++ [event])
    (other : endsSession event = false) (keys : generationAt next = generationAt system) :
    Departed next := by
  refine departed.frame history (one_new ?_) ?_
  · rintro ref cause rfl
    cases other
  · intro fd number alive
    rw [← keys]
    exact alive

theorem Departed.push {system : System} (departed : Departed system) {ref : SessionRef}
    {session found : Session} (line : ServerLine) (alive : system.live ref = some found)
    (same : session.generation = ref.generation) : Departed (pushLine system ref session line) :=
  departed.record (push_line_history _ _ _ line) rfl
    (push_line_frame system session line (generation_of_live alive) same).2.1

theorem departed_act {system next : System} (registered : Registered system)
    (unwrapped : next.nextSessionGeneration ≤ 2 ^ 64) (departed : Departed system)
    (act : ServerActs.Act system next) : Departed next := by
  have replaced : ∀ {ref : SessionRef} {session : Session} (changed : Session),
      system.live ref = some session → changed.generation = session.generation →
        generationAt (system.setSession ref.fd (some changed)) = generationAt system := by
    intro ref session changed alive same
    exact generation_at_replace (generation_of_live alive) (same.trans (live_eq_some.mp alive).2)
  cases act with
  | submitted | waited | drained | dismissed | refused | recvPosted | acceptPosted | framed
  | worldCalled | parked | recvReposted | awoken | pollPosted => exact departed.still rfl rfl
  | arrived cqe rest ref position completed token succeeded fresh vacant =>
      have later := registered_act registered (ServerActs.Act.arrived system cqe rest ref position
        completed token succeeded fresh vacant)
      have unknown : ref ∉ acceptedRefs system.history := accepted_is_fresh later unwrapped rfl
      intro other cause listed
      rcases List.mem_append.mp listed with earlier | new
      · rcases departed other cause earlier with ⟨accepted, gone⟩
        refine ⟨?_, ?_⟩
        · rw [accepted_refs_append]
          exact List.mem_append_left _ accepted
        · intro alive
          have found : (if other.fd = ref.fd then some ref.generation
              else generationAt system other.fd) = some other.generation := by
            rw [← generation_at_set_session system ref.fd other.fd
              ⟨ref.generation, [], [], false, false, 0⟩]
            exact alive
          split at found
          · rename_i here
            have same : other = ref := by
              have generation := Option.some.inj found
              cases other
              cases ref
              simp_all
            exact unknown (same ▸ accepted)
          · exact gone found
      · cases List.mem_singleton.mp new
  | answered ref session line alive =>
      exact departed.push line alive (live_eq_some.mp alive).2
  | received cqe rest ref session position completed token alive =>
      exact departed.record rfl rfl (replaced _ alive rfl)
  | lineTaken ref session line rest position alive | raised ref session line rest exception position alive =>
      exact departed.record rfl rfl (replaced _ alive rfl)
  | saved | skipped => exact departed.record rfl rfl rfl
  | requested ref session operation commandName args alive =>
      have pushed : Departed (pushLine system ref { session with
          pendingDb := session.pendingDb + 1 }
          (.pending (counterValue system.nextRequestId) commandName)) :=
        departed.push _ alive (live_eq_some.mp alive).2
      exact pushed.record rfl rfl rfl
  | closing ref session position alive => exact departed.still rfl (replaced _ alive rfl)
  | erased ref session cause position alive =>
      have shrunk : ∀ fd, generationAt (erase system ref cause) fd =
          if fd = ref.fd then none else generationAt system fd := by
        intro fd
        simp only [generationAt, erase, Function.update_apply]
        split_ifs <;> rfl
      intro other reason listed
      rcases List.mem_append.mp listed with earlier | new
      · rcases departed other reason earlier with ⟨accepted, gone⟩
        refine ⟨?_, ?_⟩
        · rw [erase, accepted_refs_append]
          exact List.mem_append_left _ accepted
        · rw [shrunk]
          split_ifs
          · intro alive
            cases alive
          · exact gone
      · cases List.mem_singleton.mp new
        refine ⟨?_, ?_⟩
        · rw [erase, accepted_refs_append]
          exact List.mem_append_left _ (registered.known ref (generation_of_live alive))
        · rw [shrunk, if_pos rfl]
          intro alive
          cases alive
  | completed completion rest session position completions notify alive =>
      have popped : Departed (ServerActs.popCompletion system completion rest) :=
        departed.record rfl rfl rfl
      exact popped.push _ alive (live_eq_some.mp alive).2

theorem departed_sent {system next : System} {ref : SessionRef} (departed : Departed system)
    (sent : Sent system ref next) : Departed next := by
  cases sent with
  | progressed cqe rest _ session payload position completed token alive =>
      have popped : Departed { system with completed := rest } := departed.still rfl rfl
      refine popped.record (progress_history _ ref session payload _) rfl ?_
      exact (progress_frame { system with completed := rest } session payload cqe.result.toNat
        (generation_of_live alive) (live_eq_some.mp alive).2).2.1

theorem departed_outside {system next : System} {label : Server.Label} (departed : Departed system)
    (taken : Outside system label next) : Departed next := by
  cases taken with
  | transmits => exact departed.record rfl rfl rfl
  | _ => exact departed.still rfl rfl

theorem departed_reachable {config : ServerConfig} {poolSize : Nat} {system : System}
    (reached : Reachable System.step (System.start config poolSize) system)
    (unwrapped : system.nextSessionGeneration ≤ 2 ^ 64) : Departed system := by
  have both : Registered system ∧ (system.nextSessionGeneration ≤ 2 ^ 64 → Departed system) := by
    refine @kept_by_run (fun system => Registered system ∧
      (system.nextSessionGeneration ≤ 2 ^ 64 → Departed system)) config poolSize ?_ ?_ ?_ ?_ system
        reached
    · exact ⟨registered_start config poolSize, fun _ => nofun⟩
    · rintro source next _ ⟨registered, departed⟩ act
      refine ⟨registered_act registered act, fun small => ?_⟩
      exact departed_act registered small (departed ((counters_grow act).1.trans small)) act
    · rintro ref source next _ ⟨registered, departed⟩ sent
      refine ⟨registered_sent registered sent, fun small => ?_⟩
      exact departed_sent (departed ((counters_of_sent sent).1 ▸ small)) sent
    · rintro source label next _ ⟨registered, departed⟩ taken
      refine ⟨registered_outside registered taken, fun small => ?_⟩
      have same : next.nextSessionGeneration = source.nextSessionGeneration := by
        cases taken <;> rfl
      exact departed_outside (departed (same ▸ small)) taken
  exact both.2 unwrapped

/-- Who is in the table has not been closed, so its lines alone say whom it plays. -/
def playedBy (lines : List Bytes) : Option PlayerSnapshot :=
  lines.foldl (fun who line => present who (effectOf line)) none

theorem playing_of_lines {ref : SessionRef} {history : List Event}
    (open_ : ∀ cause, .closed ref cause ∉ history) :
    playing history ref = playedBy (lines history ref) := by
  induction history using List.reverseRecOn with
  | nil => rfl
  | append_singleton history event ih =>
      have earlier := ih fun cause listed => open_ cause (List.mem_append_left _ listed)
      rw [playing, List.foldl_append, lines_append, playedBy, List.foldl_append]
      change List.foldl _ (playing history ref) _ = List.foldl _ (playedBy (lines history ref)) _
      rw [earlier]
      cases event with
      | lineHandled other line =>
          by_cases self : other = ref
          · simp [lines, handledPart, effectFor, self]
          · simp [lines, handledPart, effectFor, self, present]
      | closed other cause =>
          have apart : other ≠ ref := by
            rintro rfl
            exact open_ cause (List.mem_append_right _ (List.mem_singleton_self _))
          have unhandled : lines [.closed other cause] ref = [] := rfl
          have stays : effectFor ref (.closed other cause) = .stays := if_neg apart
          rw [unhandled, List.foldl_cons, stays]
          rfl
      | accepted | received | queued | dropped | transmitted | sent | submitted | handled => rfl

theorem player_of_lines {config : ServerConfig} {poolSize : Nat} {system : System}
    (reached : Reachable System.step (System.start config poolSize) system)
    (unwrapped : system.nextSessionGeneration ≤ 2 ^ 64) {ref : SessionRef}
    (alive : system.live ref ≠ none) :
    PositionSaves.cast system.world ref = playedBy (lines system.history ref) := by
  rw [← recorded_reachable reached ref]
  apply playing_of_lines
  intro cause listed
  exact (departed_reachable reached unwrapped ref cause listed).2 (live_ne_none.mp alive)

section

variable (system : System)

theorem close_session_position (order : SectorWorld.CallOrder) (cause : CloseCause) (fd : Int) :
    (system.closeSession order cause fd).position = system.position := by
  unfold System.closeSession
  split
  · rfl
  · exact (quiet_leave_world system order _).position

theorem maybe_close_position (order : SectorWorld.CallOrder) (fd : Int) :
    (system.maybeCloseAfterFlush order fd).position = system.position := by
  unfold System.maybeCloseAfterFlush
  split
  · rfl
  · split_ifs
    · exact close_session_position system order _ fd
    · rfl

theorem handle_send_position (order : SectorWorld.CallOrder) (ref : SessionRef) (payload : Bytes)
    (cqe : Cqe) : (system.handleSend order ref payload cqe).position = system.position := by
  unfold System.handleSend
  split
  · rfl
  · simp only
    split
    · exact close_session_position _ order _ _
    · split_ifs
      · exact close_session_position _ order _ _
      · exact (maybe_close_position _ order _).trans (quiet_post_send _ _).position
      · exact (maybe_close_position _ order _).trans (quiet_post_send _ _).position

theorem handle_completion_position (order : SectorWorld.CallOrder) :
    (system.handleCompletion order).position = .draining ∨
      (system.handleCompletion order).position = system.position := by
  unfold System.handleCompletion
  split
  · exact Or.inl rfl
  · right
    simp only
    split_ifs
    · split
      · rfl
      · rw [maybe_close_position, (quiet_queue_response _ _ _).position]
        split_ifs <;> rfl
    · rfl

theorem finish_recv_position (order : SectorWorld.CallOrder) (ref : SessionRef) :
    (system.finishRecv order ref).position = .draining := by
  have ended := finish_recv_end system order ref
  generalize system.finishRecv order ref = target at ended
  cases ended with
  | gone | lost | reads => rfl
  | parks => exact maybe_close_position _ order _

theorem handle_cqe_position {system : System} (order : SectorWorld.CallOrder) (cqe : Cqe)
    (draining : system.position = .draining) (ref : SessionRef) :
    (system.handleCqe order cqe).position ≠ .framed ref := by
  unfold System.handleCqe
  split
  · unfold System.handleAccept
    split_ifs
    · rw [(quiet_queue_response _ _ _).position]
      exact nofun
    · exact nofun
  · unfold System.handleRecv
    split
    · rw [draining]
      exact nofun
    · split_ifs
      · rw [close_session_position, draining]
        exact nofun
      · exact nofun
  · rw [handle_send_position, draining]
    exact nofun
  · exact nofun

end

/-- The end of a recv handler comes after its lines. -/
theorem framed_after {source target : System} {order : SectorWorld.CallOrder} {ref : SessionRef}
    (taken : source.serverStep order = some target) (framed : target.position = .framed ref) :
    source.position = .framing ref := by
  cases server_step_cases taken with
  | submitting | drained | opened | reaccepting => cases framed
  | draining cqe rest position =>
      have draining : (setCompleted source rest).position = .draining := position
      exact absurd framed (handle_cqe_position order cqe draining ref)
  | framing other position =>
      have turn := frame_line_turn source order other
      generalize source.frameLine order other = target at turn framed
      rw [position]
      cases turn with
      | stops nothing =>
          cases framed
          rfl
      | raises => cases framed
      | handles session line rest handled =>
          simp only at framed
          split_ifs at framed
          cases framed
          rfl
  | framed other position =>
      rw [finish_recv_position] at framed
      cases framed
  | completing position =>
      rcases handle_completion_position source order with after | after
      · rw [after] at framed
        cases framed
      · rw [after, position] at framed
        cases framed

/-- A session that has been told that its line is too long: its recv handler is
done, and no recv is posted any more. -/
structure Leaving (system : System) (ref : SessionRef) : Prop where
  accepted : ref ∈ acceptedRefs system.history
  told : Told system ref
  idle : handling system.position ≠ some ref

theorem leaving_step {source target : System} {order : SectorWorld.CallOrder} {ref : SessionRef}
    (coherent : Coherent source) (receiving : Receiving source) (registered : Registered target)
    (unwrapped : target.nextSessionGeneration ≤ 2 ^ 64) (running : Running target)
    (taken : source.serverStep order = some target) (leaving : Leaving source ref) :
    Leaving target ref := by
  have unframed : handling source.position ≠ some ref → reader target.position ≠ some ref →
      handling target.position ≠ some ref := by
    intro idle unread busy
    cases position : target.position with
    | framing other =>
        rw [position] at busy unread
        exact unread busy
    | framed other =>
        rw [position] at busy
        obtain rfl : other = ref := Option.some.inj busy
        rw [framed_after taken position] at idle
        exact idle rfl
    | submitting | draining | opened | reaccepting | completing | raised =>
        rw [position] at busy
        cases busy
  have unread : reader source.position ≠ some ref := by
    intro reading
    apply leaving.idle
    rw [reader_iff_framing.mp reading]
    rfl
  have more : ∀ {events : List Event}, target.history = source.history ++ events →
      ref ∈ acceptedRefs target.history := by
    intro events history
    rw [history, accepted_refs_append]
    exact List.mem_append_left _ leaving.accepted
  cases server_step_reads coherent taken with
  | fades fades before after =>
      rcases fades.silence with ⟨events, history, _⟩
      refine ⟨more history, leaving.told.fades fades, unframed leaving.idle ?_⟩
      rw [after]
      exact nofun
  | opens other connection stored history before after =>
      rcases history with ⟨events, history, _⟩
      have fresh := accepted_is_fresh registered unwrapped history
      have apart : ref ≠ other := fun same => fresh (same ▸ leaving.accepted)
      refine ⟨more history, leaving.told.elsewhere apart stored rfl history,
        unframed leaving.idle ?_⟩
      rw [after]
      exact nofun
  | receives other connection bytes session position alive outstanding stored history after =>
      have apart : ref ≠ other := by
        rintro rfl
        have closing := leaving.told.closing session alive
        have counted := receiving.posted ref session alive
        rw [awaitedReceives, if_pos (Or.inr closing)] at counted
        exact outstanding counted
      refine ⟨more history,
        leaving.told.elsewhere apart stored (live_eq_some.mp alive).2 history,
        unframed leaving.idle ?_⟩
      rw [after]
      exact fun same => apart (Option.some.inj same).symm
  | takes other line rest session before alive cut stored history after =>
      rcases history with ⟨events, history, _⟩
      have apart : ref ≠ other := fun same => unread (same ▸ before)
      refine ⟨more history,
        leaving.told.elsewhere apart stored (live_eq_some.mp alive).2 history,
        unframed leaving.idle ?_⟩
      rw [after]
      split_ifs
      · exact nofun
      · exact fun same => apart (Option.some.inj same).symm
  | stops other session before alive cut stored history after =>
      have fades : Fades source target := by
        refine ⟨?_, silence_of_same history, fun _ => after⟩
        intro fd left there
        rw [stored] at there
        exact ⟨left, there, rfl, rfl, id⟩
      refine ⟨more (history.trans (List.append_nil _).symm), leaving.told.fades fades,
        unframed leaving.idle ?_⟩
      rw [after]
      exact nofun
  | raises exception raised => exact absurd raised (running exception)

theorem sized_reachable {config : ServerConfig} {poolSize : Nat} {system : System}
    (reached : Reachable System.step (System.start config poolSize) system) :
    Sized system.world := by
  rcases PlainWorld.world_reachable reached with ⟨labels, ran⟩
  exact (run_sizes ran).1

def answersTo (history : List Event) (ref : SessionRef) : List Bytes :=
  ((queuedTo ref history).map ServerLine.text).filter isAcknowledgement

theorem answers_append (first second : List Event) (ref : SessionRef) :
    answersTo (first ++ second) ref = answersTo first ref ++ answersTo second ref := by
  rw [answersTo, queued_to_append, List.map_append, List.filter_append]
  rfl

theorem speech_projections (events : List Event) (ref : SessionRef) :
    answersTo (events.filter isSpeech) ref = answersTo events ref ∧
      lines (events.filter isSpeech) ref = lines events ref := by
  induction events with
  | nil => exact ⟨rfl, rfl⟩
  | cons event rest ih =>
      have parts : ∀ {tail : List Event}, answersTo (event :: tail) ref =
          answersTo [event] ref ++ answersTo tail ref ∧
            lines (event :: tail) ref = lines [event] ref ++ lines tail ref :=
        ⟨answers_append [event] _ ref, lines_append [event] _ ref⟩
      cases speech : isSpeech event with
      | true =>
          rw [List.filter_cons_of_pos speech, parts.1, parts.2, ih.1, ih.2, ← parts.1, ← parts.2]
          exact ⟨rfl, rfl⟩
      | false =>
          have silent : answersTo [event] ref = [] ∧ lines [event] ref = [] := by
            cases event with
            | lineHandled => cases speech
            | queued other line =>
                refine ⟨?_, rfl⟩
                by_cases self : other = ref
                · have unanswered : isAcknowledgement line.text = false :=
                    (is_acknowledgement_text line).trans speech
                  simp [answersTo, queuedTo, queuedPart, self, unanswered]
                · simp [answersTo, queuedTo, queuedPart, self]
            | accepted | received | dropped | transmitted | sent | submitted | handled | closed =>
                exact ⟨rfl, rfl⟩
          rw [List.filter_cons_of_neg (Bool.eq_false_iff.mp speech), parts.1, parts.2, ih.1, ih.2,
            silent.1, silent.2]
          exact ⟨rfl, rfl⟩

theorem Says.projections {system next : System} {said : List Event} (speech : Says system next said)
    (ref : SessionRef) :
    answersTo next.history ref = answersTo system.history ref ++ answersTo said ref ∧
      lines next.history ref = lines system.history ref ++ lines said ref := by
  rcases speech with ⟨events, history, rfl⟩
  have parts := speech_projections events ref
  rw [history, answers_append, lines_append, parts.1, parts.2]
  exact ⟨rfl, rfl⟩

/-- The acknowledgements of a session are those of the dialogue of its lines, but
for the last one to a session that is leaving. -/
def Conversing (system : System) (ref : SessionRef) : Prop :=
  ∃ said, Spoken (lines system.history ref) said (playedBy (lines system.history ref)) ∧
    (answersTo system.history ref = said ∨
      (answersTo system.history ref = said ++ [tooLong.text] ∧ Leaving system ref))

theorem conversing_elsewhere {source target : System} {ref : SessionRef} {said : List Event}
    (conversing : Conversing source ref) (speech : Says source target said)
    (none_ : answersTo said ref = [] ∧ lines said ref = [])
    (stays : Leaving source ref → Leaving target ref) : Conversing target ref := by
  rcases conversing with ⟨answers, spoken, whole⟩
  rcases speech.projections ref with ⟨same, handled⟩
  rw [none_.1, List.append_nil] at same
  rw [none_.2, List.append_nil] at handled
  refine ⟨answers, ?_, ?_⟩
  · rw [handled]
    exact spoken
  · rw [same]
    exact whole.imp_right fun both => ⟨both.1, stays both.2⟩

theorem said_elsewhere {ref other : SessionRef} (apart : other ≠ ref) (line : Bytes)
    (answer : ServerLine) :
    (answersTo [.lineHandled other line, .queued other answer] ref = [] ∧
      lines [.lineHandled other line, .queued other answer] ref = []) ∧
    answersTo [.queued other answer] ref = [] ∧ lines [.queued other answer] ref = [] := by
  have nothing : queuedTo ref [.queued other answer] = [] := by
    simp [queuedTo, queuedPart, apart]
  have untold : answersTo [.queued other answer] ref = [] := by
    rw [answersTo, nothing]
    rfl
  have unhandled : lines [.lineHandled other line] ref = [] :=
    (lines_one line).trans (if_neg apart)
  refine ⟨⟨untold, ?_⟩, untold, rfl⟩
  rw [← List.singleton_append, lines_append, unhandled]
  rfl

theorem said_here (ref : SessionRef) (line : Bytes) {answer : ServerLine}
    (acknowledges : Acknowledges answer = true) :
    (answersTo [.lineHandled ref line, .queued ref answer] ref = [answer.text] ∧
      lines [.lineHandled ref line, .queued ref answer] ref = [line]) ∧
    answersTo [.queued ref answer] ref = [answer.text] ∧ lines [.queued ref answer] ref = [] := by
  have told : answersTo [.queued ref answer] ref = [answer.text] := by
    rw [answersTo, queued_to_own, List.map_singleton, List.filter_singleton,
      is_acknowledgement_text, acknowledges]
    rfl
  have handled : lines [.lineHandled ref line] ref = [line] := (lines_one line).trans (if_pos rfl)
  refine ⟨⟨told, ?_⟩, told, rfl⟩
  rw [← List.singleton_append, lines_append, handled]
  rfl

theorem played_by_append (earlier : List Bytes) (line : Bytes) :
    playedBy (earlier ++ [line]) = present (playedBy earlier) (effectOf line) := by
  rw [playedBy, List.foldl_append]
  rfl

theorem conversing_server {config : ServerConfig} {poolSize : Nat} {source target : System}
    {order : SectorWorld.CallOrder}
    (reached : Reachable System.step (System.start config poolSize) source)
    (taken : source.serverStep order = some target)
    (unwrapped : target.nextSessionGeneration ≤ 2 ^ 64) (running : Running target)
    (conversing : ∀ ref, Conversing source ref) : ∀ ref, Conversing target ref := by
  have coherent := coherent_reachable reached
  have step : source.step (.server order) = some target := (step_server source order).trans taken
  have later := reached.next step
  have small := (grown_step coherent step).1.trans unwrapped
  have receiving := receiving_reachable reached small (running_of_step step)
  have stays : ∀ ref, Leaving source ref → Leaving target ref := fun ref =>
    leaving_step coherent receiving (registered_reachable later) unwrapped running taken
  intro ref
  cases server_step_speaks coherent (sized_reachable reached) taken with
  | silent said => exact conversing_elsewhere (conversing ref) said ⟨rfl, rfl⟩ (stays ref)
  | raises exception raised => exact absurd raised (running exception)
  | answers other line answer position alive said acknowledges replies =>
      by_cases self : other = ref
      · subst self
        rcases conversing other with ⟨answers, spoken, whole⟩
        rcases said.projections other with ⟨told, handled⟩
        rw [(said_here other line acknowledges).1.1] at told
        rw [(said_here other line acknowledges).1.2] at handled
        rcases whole with same | ⟨_, leaving⟩
        · rw [player_of_lines reached small alive] at replies
          refine ⟨answers ++ [answer.text], ?_, Or.inl ?_⟩
          · rw [handled, played_by_append]
            exact spoken.next replies
          · rw [told, same]
        · have busy : handling source.position = some other := by
            rw [position]
            rfl
          exact absurd busy leaving.idle
      · exact conversing_elsewhere (conversing ref) said (said_elsewhere self line answer).1
          (stays ref)
  | refuses other position alive said told =>
      by_cases self : other = ref
      · subst self
        rcases conversing other with ⟨answers, spoken, whole⟩
        have acknowledges : Acknowledges tooLong = true := rfl
        rcases said.projections other with ⟨more, handled⟩
        rw [(said_here other [] acknowledges).2.1] at more
        rw [(said_here other [] acknowledges).2.2, List.append_nil] at handled
        rcases whole with same | ⟨_, leaving⟩
        · refine ⟨answers, ?_, Or.inr ⟨?_, ?_, told, ?_⟩⟩
          · rw [handled]
            exact spoken
          · rw [more, same]
          · rcases said with ⟨events, history, _⟩
            rw [history, accepted_refs_append]
            exact List.mem_append_left _
              ((registered_reachable reached).known other (live_ne_none.mp alive))
          · have finished : target.position = .draining := by
              simp only [System.serverStep, position] at taken
              rw [← Option.some.inj taken]
              exact finish_recv_position source order other
            rw [finished]
            intro busy
            cases busy
        · have busy : handling source.position = some other := by
            rw [position]
            rfl
          exact absurd busy leaving.idle
      · exact conversing_elsewhere (conversing ref) said (said_elsewhere self [] tooLong).2
          (stays ref)

theorem conversing_outside {source target : System} {label : Server.Label} {ref : SessionRef}
    (taken : Outside source label target) (conversing : Conversing source ref) :
    Conversing target ref := by
  have said : Says source target [] := by
    cases taken with
    | transmits => exact says_silent rfl rfl
    | _ => exact says_nothing rfl
  refine conversing_elsewhere conversing said ⟨rfl, rfl⟩ ?_
  intro leaving
  have quiet := quiet_outside taken
  rcases quiet.silence with ⟨events, history, _⟩
  refine ⟨?_, leaving.told.fades quiet.fades, ?_⟩
  · rw [history, accepted_refs_append]
    exact List.mem_append_left _ leaving.accepted
  · rw [quiet.position]
    exact leaving.idle

theorem conversing_reachable {config : ServerConfig} {poolSize : Nat} {system : System}
    (reached : Reachable System.step (System.start config poolSize) system)
    (unwrapped : system.nextSessionGeneration ≤ 2 ^ 64) (running : Running system)
    (ref : SessionRef) : Conversing system ref := by
  have kept : Reachable System.step (System.start config poolSize) system ∧
      (system.nextSessionGeneration ≤ 2 ^ 64 → Running system → ∀ ref, Conversing system ref) := by
    refine @Reachable.invariant _ _ _ (fun system =>
      Reachable System.step (System.start config poolSize) system ∧
        (system.nextSessionGeneration ≤ 2 ^ 64 → Running system → ∀ ref, Conversing system ref))
      _ _ reached ?_ ?_
    · exact ⟨reachable_refl _ _, fun _ _ _ => ⟨[], Dialogue.opens, Or.inl rfl⟩⟩
    · rintro source label target ⟨before, conversing⟩ taken
      refine ⟨before.next taken, ?_⟩
      intro small goes
      have earlier := (grown_step (coherent_reachable before) taken).1.trans small
      have held := conversing earlier (running_of_step taken)
      rcases step_cases taken with ⟨order, _, server⟩ | outside
      · exact conversing_server before server small goes held
      · exact fun ref => conversing_outside outside (held ref)
  exact kept.2 unwrapped running ref

/-- In every state that the server can reach, however its sessions, the kernel and
the workers are interleaved, every session has been answered as by itself, and is in
the world as its lines say. -/
theorem sessions_converse {config : ServerConfig} {poolSize : Nat} {system : System}
    (reached : Reachable System.step (System.start config poolSize) system)
    (unwrapped : system.nextSessionGeneration ≤ 2 ^ 64) (running : Running system)
    (ref : SessionRef) :
    Conversing system ref ∧ (system.live ref ≠ none →
      PositionSaves.cast system.world ref = playedBy (lines system.history ref)) :=
  ⟨conversing_reachable reached unwrapped running ref, player_of_lines reached unwrapped⟩

/-- A client walks, asks for its account and sends a line without an end. -/
def talkative : List Server.Label :=
  [.tick, .accept 0 5, .tick, .tick, .tick, .tick, .tick,
    .recv 2 (ascii "MOVE 1 1\nENTER a b 0 0\nLOAD a\nmove 250 -1\nATTACK"), .tick, .tick, .tick,
    .tick, .tick, .tick, .tick]

theorem sessions_converse_talkative :
    ∃ system, run System.step (System.start .default 1) talkative = some system ∧
      answersTo system.history ⟨5, 1⟩ = [ascii "ERR not in world; use ENTER first",
        ascii "WORLD ENTERED b x=0 y=0 sector=0,0", ascii "PENDING 2 LOAD",
        ascii "WORLD MOVED b x=250 y=-1 sector=2,-1"] ∧
      Conversing system ⟨5, 1⟩ := by
  have ends : (run System.step (System.start .default 1) talkative).any (fun system =>
      decide (system.position = .draining ∧ system.nextSessionGeneration ≤ 2 ^ 64 ∧
        answersTo system.history ⟨5, 1⟩ = [ascii "ERR not in world; use ENTER first",
          ascii "WORLD ENTERED b x=0 y=0 sector=0,0", ascii "PENDING 2 LOAD",
          ascii "WORLD MOVED b x=250 y=-1 sector=2,-1"])) = true := by
    decide
  rcases Option.any_eq_true _ _ |>.mp ends with ⟨system, ran, holds⟩
  rcases of_decide_eq_true holds with ⟨position, small, answers⟩
  have running : Running system := by
    intro exception raised
    cases position.symm.trans raised
  exact ⟨system, ran, answers, (sessions_converse ⟨talkative, ran⟩ small running _).1⟩

def pendingStart : Bytes := ascii "PENDING "

def shown (text : Bytes) : Bytes :=
  if pendingStart.isPrefixOf text then
    pendingStart ++ (text.drop pendingStart.length).dropWhile isDigit
  else text

theorem shown_pending (requestId : Nat) (commandName : Bytes) :
    shown (ServerLine.pending requestId commandName).text =
      pendingStart ++ (ascii " " ++ commandName) := by
  have parts : (ServerLine.pending requestId commandName).text =
      pendingStart ++ (printNat requestId ++ (ascii " " ++ commandName)) := by
    change pendingStart ++ printNat requestId ++ ascii " " ++ commandName = _
    rw [List.append_assoc, List.append_assoc]
  have begins : pendingStart.isPrefixOf
      (pendingStart ++ (printNat requestId ++ (ascii " " ++ commandName))) = true :=
    List.isPrefixOf_iff_prefix.mpr (List.prefix_append _ _)
  rw [parts, shown, if_pos begins, List.drop_left,
    List.dropWhile_append_of_pos (print_nat_digits requestId).2]
  rfl

/-- Two answers to one line of one player differ in the number of a request at most. -/
theorem replies_alike (who : Option PlayerSnapshot) (line first second : Bytes)
    (one : Replies who line first) (two : Replies who line second) : shown first = shown second := by
  unfold Replies at one two
  cases parsed : parseLine line with
  | error message =>
      rw [parsed] at one two
      rw [one, two]
  | ok request =>
      rw [parsed] at one two
      simp only at one two
      cases type : request.type with
      | quit =>
          rw [type] at one two
          rw [one, two]
      | enterWorld =>
          rw [type] at one two
          rcases one with ⟨now, entered, rfl⟩
          rcases two with ⟨same, again, rfl⟩
          rw [Option.some.inj (entered.symm.trans again)]
      | move =>
          rw [type] at one two
          simp only at one two
          cases now : present who (effectOf line) <;> rw [now] at one two <;> rw [one, two]
      | attack =>
          rw [type] at one two
          cases who with
          | none => rw [one, two]
          | some player =>
              rcases one with ⟨skill, target, args, rfl⟩
              rcases two with ⟨other, aim, again, rfl⟩
              cases args.symm.trans again
              rfl
      | register | login | saveCharacter | loadCharacters | saveInventoryItem | loadInventory
      | unknown =>
          rw [type] at one two
          rcases one with ⟨number, rfl⟩
          rcases two with ⟨other, rfl⟩
          rw [shown_pending, shown_pending]

theorem answers_taken {system : System} {ref : SessionRef} (conversing : Conversing system ref) :
    Spoken (lines system.history ref)
      ((answersTo system.history ref).take (lines system.history ref).length)
      (playedBy (lines system.history ref)) := by
  rcases conversing with ⟨said, spoken, whole⟩
  have all : (answersTo system.history ref).take (lines system.history ref).length = said := by
    rw [← spoken.length_eq]
    rcases whole with same | ⟨same, _⟩
    · rw [same, List.take_length]
    · rw [same, List.take_left]
  rw [all]
  exact spoken

/-- What a session is answered depends on its own lines alone: in any two runs, of
servers with any configurations and other clients, two sessions whose lines are the
same are answered the same, but for the numbers of their requests. -/
theorem answers_from_own_lines {config other : ServerConfig} {poolSize size : Nat}
    {first second : System} {ref twin : SessionRef}
    (reached : Reachable System.step (System.start config poolSize) first)
    (unwrapped : first.nextSessionGeneration ≤ 2 ^ 64) (running : Running first)
    (reachedToo : Reachable System.step (System.start other size) second)
    (unwrappedToo : second.nextSessionGeneration ≤ 2 ^ 64) (runningToo : Running second)
    (same : lines first.history ref = lines second.history twin) :
    ((answersTo first.history ref).take (lines first.history ref).length).map shown =
      ((answersTo second.history twin).take (lines first.history ref).length).map shown := by
  have one := answers_taken (conversing_reachable reached unwrapped running ref)
  have two := answers_taken (conversing_reachable reachedToo unwrappedToo runningToo twin)
  rw [← same] at two
  exact one.agree replies_alike two

/-- The lines of `talkative` in two pieces, after another client. -/
def accompanied : List Server.Label :=
  [.tick, .accept 0 6, .tick, .tick, .tick, .tick, .tick,
    .recv 2 (ascii "ENTER b c 0 0\nLOGIN b\n"), .accept 2 5] ++ List.replicate 12 .tick ++
    .recv 4 (ascii "MOVE 1 1\nENTER a b 0 ") :: List.replicate 6 .tick ++
    .recv 5 (ascii "0\nLOAD a\nmove 250 -1\n") :: List.replicate 7 .tick

theorem answers_from_own_lines_accompanied :
    ∃ first second, run System.step (System.start .default 1) talkative = some first ∧
      run System.step (System.start .default 2) accompanied = some second ∧
      ((answersTo first.history ⟨5, 1⟩).take (lines first.history ⟨5, 1⟩).length).map shown =
        ((answersTo second.history ⟨5, 2⟩).take (lines first.history ⟨5, 1⟩).length).map shown := by
  have ends : (run System.step (System.start .default 1) talkative).any (fun system =>
      decide (system.position = .draining ∧ system.nextSessionGeneration ≤ 2 ^ 64 ∧
        lines system.history ⟨5, 1⟩ = [ascii "MOVE 1 1", ascii "ENTER a b 0 0", ascii "LOAD a",
          ascii "move 250 -1"])) = true := by
    decide
  have endsToo : (run System.step (System.start .default 2) accompanied).any (fun system =>
      decide (system.position = .submitting ∧ system.nextSessionGeneration ≤ 2 ^ 64 ∧
        lines system.history ⟨5, 2⟩ = [ascii "MOVE 1 1", ascii "ENTER a b 0 0", ascii "LOAD a",
          ascii "move 250 -1"])) = true := by
    decide
  rcases Option.any_eq_true _ _ |>.mp ends with ⟨first, ran, holds⟩
  rcases Option.any_eq_true _ _ |>.mp endsToo with ⟨second, ranToo, holdsToo⟩
  rcases of_decide_eq_true holds with ⟨position, small, handled⟩
  rcases of_decide_eq_true holdsToo with ⟨waits, smallToo, handledToo⟩
  have running : Running first := by
    intro exception raised
    cases position.symm.trans raised
  have runningToo : Running second := by
    intro exception raised
    cases waits.symm.trans raised
  exact ⟨first, second, ran, ranToo, answers_from_own_lines ⟨talkative, ran⟩ small running
    ⟨accompanied, ranToo⟩ smallToo runningToo (handled.trans handledToo.symm)⟩

end DungeonPortfolio.Conversations
