import DungeonPortfolio.ServerSteps

/-!
# Saves of positions

The lines a session has sent, and whether it has been closed, say which
character it plays and where that character is. From this the saves that are
due at a line or at the end of a session can be read off, and each step of the
server is compared with them.
-/

namespace DungeonPortfolio.PositionSaves

open DungeonPortfolio.Text DungeonPortfolio.Protocol DungeonPortfolio.World
open DungeonPortfolio.WorldIndex DungeonPortfolio.Dispatcher DungeonPortfolio.Server
open DungeonPortfolio.ServerActs DungeonPortfolio.ServerResponses DungeonPortfolio.ServerSteps
open Library.Execution

set_option autoImplicit false

/-- What a line or the end of a session does to the session's player. -/
inductive Effect where
  | enters (who : PlayerSnapshot)
  | moves (x y : Int32)
  | leaves
  | stays
  deriving DecidableEq, Repr

def effectOf (line : Bytes) : Effect :=
  match parseLine line with
  | .error _ => .stays
  | .ok request =>
      match request.type, request.args with
      | .enterWorld, [account, character, xText, yText] =>
          match coordinates xText yText with
          | .ok (x, y) => .enters ⟨account, character, x, y⟩
          | .error _ => .stays
      | .move, [xText, yText] =>
          match coordinates xText yText with
          | .ok (x, y) => .moves x y
          | .error _ => .stays
      | .quit, _ => .leaves
      | _, _ => .stays

def effectFor (ref : SessionRef) : Event → Effect
  | .lineHandled other line => if other = ref then effectOf line else .stays
  | .closed other _ => if other = ref then .leaves else .stays
  | _ => .stays

def present (before : Option PlayerSnapshot) : Effect → Option PlayerSnapshot
  | .enters who => some who
  | .moves x y => before.map fun who => { who with x, y }
  | .leaves => none
  | .stays => before

/-- The character the session plays and where its last ENTER or MOVE put it. -/
def playing (history : List Event) (ref : SessionRef) : Option PlayerSnapshot :=
  history.foldl (fun before event => present before (effectFor ref event)) none

/-- A character that is not the session's player any more. -/
def departed (before after : Option PlayerSnapshot) : List PlayerSnapshot :=
  match before, after with
  | none, _ => []
  | some old, none => [old]
  | some old, some new =>
      if old.account = new.account ∧ old.character = new.character then [] else [old]

def arrivedBy : Effect → List PlayerSnapshot
  | .enters who => [who]
  | .moves _ _ | .leaves | .stays => []

def due (before : Option PlayerSnapshot) (effect : Effect) : List PlayerSnapshot :=
  departed before (present before effect) ++ arrivedBy effect

/-- The saves due along the events that follow a history. -/
def duesAlong (ref : SessionRef) : Option PlayerSnapshot → List Event → List PlayerSnapshot
  | _, [] => []
  | before, event :: rest =>
      due before (effectFor ref event) ++
        duesAlong ref (present before (effectFor ref event)) rest

def savedArgs (who : PlayerSnapshot) : List Bytes :=
  [who.account, who.character, printInt who.x, printInt who.y]

def saveOf : Event → Option (SessionRef × List Bytes)
  | .submitted job => if job.operation = .savePosition then some (job.client, job.args) else none
  | _ => none

def newEvents (source target : System) : List Event :=
  target.history.drop source.history.length

/-- The SAVE_POSITION jobs of a step are those due for its events, each once. -/
def SavesDue (source target : System) : Prop :=
  ∀ ref, (((newEvents source target).filterMap saveOf).filter fun save => save.1 = ref).Perm
    ((duesAlong ref (playing source.history ref) (newEvents source target)).map
      fun who => (ref, savedArgs who))

def upcoming (system : System) : Option (SessionRef × Bytes) :=
  match system.position with
  | .framing ref =>
      match system.sessions ref.fd with
      | some session => (System.cutLine session.input).map fun pieces => (ref, pieces.1)
      | none => none
  | _ => none

/-- The line is an ENTER of a session that plays another character. -/
def switches (playing : Option PlayerSnapshot) : Effect → Bool
  | .enters who =>
      match playing with
      | some old => !(old.account = who.account && old.character = who.character)
      | none => false
  | .moves _ _ | .leaves | .stays => false

def KeepsCharacter (system : System) : Label → Prop
  | .server _ => ∀ next ∈ upcoming system,
      switches (playing system.history next.1) (effectOf next.2) = false
  | _ => True

instance (system : System) (label : Label) : Decidable (KeepsCharacter system label) :=
  match label with
  | .server _ => inferInstanceAs (Decidable (∀ next ∈ upcoming system,
      switches (playing system.history next.1) (effectOf next.2) = false))
  | .accept _ _ | .recv _ _ | .send _ _ | .fail _ _ | .poll _ | .take | .finish _ _ _ | .signal =>
      isTrue trivial

def isMark : Event → Bool
  | .lineHandled _ _ | .closed _ _ => true
  | _ => false

/-- The marks and the saves a piece of the server adds, and the world it leaves. -/
structure Yields (system next : System) (marks : List Event)
    (jobs : List (SessionRef × List Bytes)) (world : SectorWorld) : Prop where
  history : ∃ events, next.history = system.history ++ events ∧
    events.filter isMark = marks ∧ events.filterMap saveOf = jobs
  world : next.world = world

abbrev Calm (system next : System) : Prop := Yields system next [] [] system.world

theorem Yields.then {first second third : System} {marks more : List Event}
    {jobs others : List (SessionRef × List Bytes)} {world last : SectorWorld}
    (before : Yields first second marks jobs world)
    (after : Yields second third more others last) :
    Yields first third (marks ++ more) (jobs ++ others) last := by
  rcases before.history with ⟨early, one, earlyMarks, earlyJobs⟩
  rcases after.history with ⟨late, other, lateMarks, lateJobs⟩
  constructor
  · refine ⟨early ++ late, ?_, ?_, ?_⟩
    · rw [other, one, List.append_assoc]
    · rw [List.filter_append, earlyMarks, lateMarks]
    · rw [List.filterMap_append, earlyJobs, lateJobs]
  · exact after.world

theorem Yields.calmly {first second third : System} {marks : List Event}
    {jobs : List (SessionRef × List Bytes)} {world : SectorWorld}
    (before : Yields first second marks jobs world) (after : Calm second third) :
    Yields first third marks jobs world := by
  have both := before.then after
  rw [List.append_nil, List.append_nil, before.world] at both
  exact both

theorem Calm.into {first second third : System} {marks : List Event}
    {jobs : List (SessionRef × List Bytes)} {world : SectorWorld}
    (before : Calm first second) (after : Yields second third marks jobs world) :
    Yields first third marks jobs world := by
  have both := Yields.then before after
  rw [List.nil_append, List.nil_append] at both
  exact both

theorem calm_of_same {system next : System} (history : next.history = system.history)
    (world : next.world = system.world) : Calm system next := by
  constructor
  · exact ⟨[], history.trans (List.append_nil _).symm, rfl, rfl⟩
  · exact world

theorem calm_of_event {system next : System} {event : Event}
    (history : next.history = system.history ++ [event]) (world : next.world = system.world)
    (unmarked : isMark event = false) (unsaved : saveOf event = none) : Calm system next := by
  constructor
  · refine ⟨[event], history, ?_, ?_⟩
    · rw [List.filter_singleton, unmarked]
      rfl
    · exact List.filterMap_cons_none unsaved
  · exact world

theorem calm_get_sqe (system : System) : Calm system system.getSqe :=
  calm_of_same (get_sqe_history system) (get_sqe_undisturbed system).world

theorem calm_queue_response (system : System) (ref : SessionRef) (line : ServerLine) :
    Calm system (system.queueResponse ref line) := by
  obtain ⟨world, event, rfl | rfl, history⟩ := queue_response_records system ref line
  · exact calm_of_event history world rfl rfl
  · exact calm_of_event history world rfl rfl

theorem calm_deliver (system : System) (events : List WorldEvent) :
    Calm system (system.deliverWorldEvents events) := by
  induction events generalizing system with
  | nil => exact calm_of_same rfl rfl
  | cons event rest ih =>
      have first := calm_queue_response system event.receiver (.world event.line)
      exact Yields.calmly first (ih _)

theorem calm_post_send (system : System) (fd : Int) : Calm system (system.postSend fd) :=
  calm_of_same (post_send_apart system fd).2 (post_send_apart system fd).1

def cast (world : SectorWorld) (ref : SessionRef) : Option PlayerSnapshot :=
  (world.players ref).map fun player =>
    ⟨player.account, player.character, player.x, player.y⟩

def saved (before : Option PlayerSnapshot) : Effect → List PlayerSnapshot
  | .enters who => [who]
  | .leaves => before.toList
  | .moves _ _ | .stays => []

/-- The saves and the world after an effect on the player of one session. -/
structure Follows (world next : SectorWorld) (ref : SessionRef) (effect : Effect)
    (jobs : List (SessionRef × List Bytes)) : Prop where
  self : cast next ref = present (cast world ref) effect
  others : ∀ other, other ≠ ref → next.players other = world.players other
  jobs : jobs = (saved (cast world ref) effect).map fun who => (ref, savedArgs who)

theorem follows_stays (world : SectorWorld) (ref : SessionRef) :
    Follows world world ref .stays [] := ⟨rfl, fun _ _ => rfl, rfl⟩

def Named (world : SectorWorld) : Prop :=
  ∀ ref player, world.players ref = some player → player.account ≠ []

theorem position_save_yields (system : System) (ref : SessionRef) (who : PlayerSnapshot) :
    Yields system (system.submitPositionSave ref who.account who.character who.x who.y) []
      [(ref, savedArgs who)] system.world :=
  ⟨⟨[_], rfl, rfl, rfl⟩, rfl⟩

theorem leave_world_yields {system : System} (named : Named system.world)
    (order : SectorWorld.CallOrder) (ref : SessionRef) :
    ∃ jobs world, Yields system (system.leaveWorld order ref) [] jobs world ∧
      Follows system.world world ref .leaves jobs := by
  let left := (system.world.leave order ref PlayerSnapshot.empty).1
  have begun : Yields system (system.setWorld left) [] [] left := by
    constructor
    · exact ⟨[], (List.append_nil _).symm, rfl, rfl⟩
    · rfl
  have delivered := begun.calmly (calm_deliver _ (system.world.call order (.leave ref)).2)
  have players : left.players = Function.update system.world.players ref none :=
    leave_players _ _ _ _
  have self : cast left ref = none := by
    simp only [cast, players, Function.update_self, Option.map_none]
  have others : ∀ other, other ≠ ref → left.players other = system.world.players other := by
    intro other different
    rw [players, Function.update_of_ne different]
  rw [leave_world_eq]
  cases lookup : system.world.players ref with
  | none =>
      have snapshot : (system.world.leave order ref PlayerSnapshot.empty).2.2 =
          PlayerSnapshot.empty := by
        rw [leave_absent order _ lookup]
      refine ⟨[], left, ?_, self, others, ?_⟩
      · rw [snapshot]
        exact delivered
      · simp [cast, lookup, saved]
  | some player =>
      have snapshot : (system.world.leave order ref PlayerSnapshot.empty).2.2 =
          ⟨player.account, player.character, player.x, player.y⟩ := by
        rw [leave_present order _ lookup]
      refine ⟨[(ref, savedArgs ⟨player.account, player.character, player.x, player.y⟩)], left,
        ?_, self, others, ?_⟩
      · rw [snapshot]
        have nonempty : ¬List.isEmpty player.account = true := by
          rw [List.isEmpty_iff]
          exact named ref player lookup
        unfold saveSnapshot
        rw [if_neg nonempty]
        have saving := position_save_yields ((system.setWorld left).deliverWorldEvents
          (system.world.call order (.leave ref)).2) ref
            ⟨player.account, player.character, player.x, player.y⟩
        rw [delivered.world] at saving
        exact delivered.then saving
      · simp [cast, lookup, saved]

inductive Ends (system next : System) : Prop
  | calm (yields : Calm system next)
  | closes (ref : SessionRef) (cause : CloseCause) (jobs : List (SessionRef × List Bytes))
      (world : SectorWorld) (yields : Yields system next [.closed ref cause] jobs world)
      (follows : Follows system.world world ref .leaves jobs)

theorem Ends.after {first second third : System} (before : Calm first second)
    (ends : Ends second third) : Ends first third := by
  cases ends with
  | calm yields => exact Ends.calm (Yields.calmly before yields)
  | closes ref cause jobs world yields follows =>
      rw [before.world] at follows
      exact Ends.closes ref cause jobs world (Calm.into before yields) follows

theorem close_session_ends {system : System} (named : Named system.world)
    (order : SectorWorld.CallOrder) (cause : CloseCause) (fd : Int) :
    Ends system (system.closeSession order cause fd) := by
  unfold System.closeSession
  split
  · exact Ends.calm (calm_of_same rfl rfl)
  · rename_i session found
    rcases leave_world_yields named order ⟨fd, session.generation⟩ with
      ⟨jobs, world, yields, follows⟩
    rcases yields.history with ⟨events, history, marks, saves⟩
    refine Ends.closes ⟨fd, session.generation⟩ cause jobs world ?_ follows
    constructor
    · refine ⟨events ++ [.closed ⟨fd, session.generation⟩ cause], ?_, ?_, ?_⟩
      · simp only [history, List.append_assoc]
      · rw [List.filter_append, marks]
        rfl
      · rw [List.filterMap_append, saves]
        exact List.append_nil _
    · exact yields.world

theorem maybe_close_ends {system : System} (named : Named system.world)
    (order : SectorWorld.CallOrder) (fd : Int) :
    Ends system (system.maybeCloseAfterFlush order fd) := by
  unfold System.maybeCloseAfterFlush
  split
  · exact Ends.calm (calm_of_same rfl rfl)
  · split
    · exact close_session_ends named order .flushed fd
    · exact Ends.calm (calm_of_same rfl rfl)

theorem calm_set_close (system : System) (fd : Int) : Calm system (system.setCloseAfterFlush fd) := by
  unfold System.setCloseAfterFlush
  split
  · exact calm_of_same rfl rfl
  · exact calm_of_same rfl rfl

theorem call_yields (system : System) (order : SectorWorld.CallOrder) (call : WorldCall) :
    Yields system ((system.setWorld (system.world.call order call).1).deliverWorldEvents
      (system.world.call order call).2) [] [] (system.world.call order call).1 := by
  have begun : Yields system (system.setWorld (system.world.call order call).1) [] []
      (system.world.call order call).1 := by
    constructor
    · exact ⟨[], (List.append_nil _).symm, rfl, rfl⟩
    · rfl
  exact begun.calmly (calm_deliver _ _)

theorem entered_yields (system : System) (order : SectorWorld.CallOrder) (ref : SessionRef)
    (who : PlayerSnapshot) :
    ∃ jobs world, Yields system
      (entered system order ref who.account who.character who.x who.y) [] jobs world ∧
        Follows system.world world ref (.enters who) jobs := by
  let call : WorldCall := .enter ref who.account who.character who.x who.y
  have called := call_yields system order call
  have saving := position_save_yields ((system.setWorld (system.world.call order
    call).1).deliverWorldEvents (system.world.call order call).2) ref who
  rw [called.world] at saving
  refine ⟨_, _, called.then saving, ?_⟩
  have players := enter_players system.world order ref who.account who.character who.x who.y
  constructor
  · simp only [cast, call, SectorWorld.call, players, Function.update_self, Option.map_some,
      newcomer, present]
  · intro other different
    simp only [call, SectorWorld.call, players, Function.update_of_ne different]
  · rfl

theorem moved_yields (system : System) (order : SectorWorld.CallOrder) (ref : SessionRef)
    (x y : Int32) :
    ∃ jobs world, Yields system (moved system order ref x y) [] jobs world ∧
      Follows system.world world ref (.moves x y) jobs := by
  refine ⟨_, _, call_yields system order (.move ref x y), ?_⟩
  cases lookup : system.world.players ref with
  | none =>
      simp only [SectorWorld.call]
      rw [move_absent order x y lookup]
      refine ⟨?_, fun _ _ => rfl, rfl⟩
      simp only [cast, lookup, Option.map_none, present]
  | some old =>
      have players := move_players order x y lookup
      constructor
      · simp only [SectorWorld.call, cast, players, lookup, Function.update_self,
          Option.map_some, relocated, present]
      · intro other different
        simp only [SectorWorld.call, players, Function.update_of_ne different]
      · rfl

theorem requested_calm (system : System) (ref : SessionRef) {operation : DbOperation}
    (foreground : operation ≠ .savePosition) (commandName : Bytes) (args : List Bytes) :
    Calm system (requested system ref operation commandName args) := by
  have counted : Calm system (system.countPending ref.fd) := by
    unfold System.countPending
    split
    · exact calm_of_same rfl rfl
    · exact calm_of_same rfl rfl
  have queued := Yields.calmly counted (calm_queue_response _ ref
    (.pending (counterValue system.nextRequestId) commandName))
  refine Yields.calmly queued (calm_of_event rfl rfl rfl ?_)
  exact if_neg foreground

theorem client_line_yields {system next : System} (named : Named system.world)
    (order : SectorWorld.CallOrder) {ref : SessionRef} {line : Bytes}
    (handled : system.handleClientLine order ref line = .ok next) :
    ∃ jobs world, Yields system next [] jobs world ∧
      Follows system.world world ref (effectOf line) jobs := by
  cases handle_client_line_returns handled with
  | rejected message parsed =>
      have nothing : effectOf line = .stays := by
        simp only [effectOf, parsed]
      rw [nothing]
      exact ⟨_, _, calm_queue_response system ref _, follows_stays _ _⟩
  | quit request parsed type =>
      have effect : effectOf line = .leaves := by
        simp only [effectOf, parsed, type]
      rw [effect]
      rcases leave_world_yields named order ref with ⟨jobs, world, yields, follows⟩
      have said := yields.calmly (calm_queue_response _ ref .bye)
      exact ⟨jobs, world, said.calmly (calm_set_close _ _), follows⟩
  | enter request account character xText yText x y parsed type args token converted =>
      have effect : effectOf line = .enters ⟨account, character, x, y⟩ := by
        simp only [effectOf, parsed, type, args, converted]
      rw [effect]
      exact entered_yields system order ref ⟨account, character, x, y⟩
  | move request xText yText x y parsed type args converted =>
      have effect : effectOf line = .moves x y := by
        simp only [effectOf, parsed, type, args, converted]
      rw [effect]
      exact moved_yields system order ref x y
  | attack request skill target parsed type =>
      have effect : effectOf line = .stays := by
        simp only [effectOf, parsed, type]
      rw [effect]
      exact ⟨_, _, call_yields system order (.attack ref skill target), follows_stays _ _⟩
  | database request operation parsed type backed =>
      have effect : effectOf line = .stays := by
        cases kind : request.type with
        | enterWorld | move | quit =>
            rw [kind] at type
            cases type
        | _ => simp only [effectOf, parsed, kind]
      rw [effect]
      exact ⟨_, _, requested_calm system ref (operation_for_foreground backed) _ _,
        follows_stays _ _⟩

/-- A line that raises has no effect. -/
theorem raised_line_stays {system : System} {order : SectorWorld.CallOrder} {ref : SessionRef}
    {line : Bytes} {exception : StdException}
    (raised : system.handleClientLine order ref line = .error exception) :
    effectOf line = .stays := by
  unfold effectOf
  cases parsed : parseLine line with
  | error message => rfl
  | ok request =>
      have outcome := handle_client_line_outcome system order ref parsed
      rw [raised] at outcome
      generalize result : (Except.error exception : Except StdException System) = reply at outcome
      cases outcome with
      | quit => cases result
      | enter account character xText yText type args token =>
          cases converted : coordinates xText yText with
          | error other => simp only [type, args, converted]
          | ok pair =>
              rw [converted] at result
              cases result
      | move xText yText type args =>
          cases converted : coordinates xText yText with
          | error other => simp only [type, args, converted]
          | ok pair =>
              rw [converted] at result
              cases result
      | attack => cases result
      | database => cases result

theorem handle_accept_ends (system : System) (cqe : Cqe) : Ends system (system.handleAccept cqe) := by
  unfold System.handleAccept
  split
  · apply Ends.calm
    have opened : Calm system { system with
        nextSessionGeneration := system.nextSessionGeneration + 1
        sessions := Function.update system.sessions cqe.result
          (some ((system.sessions cqe.result).getD
            ⟨counterValue system.nextSessionGeneration, [], [], false, false, 0⟩))
        position := .opened ⟨cqe.result, counterValue system.nextSessionGeneration⟩
        history := system.history ++
          [.accepted ⟨cqe.result, counterValue system.nextSessionGeneration⟩
            cqe.operation.connection] } := calm_of_event rfl rfl rfl rfl
    exact Yields.calmly opened (calm_queue_response _ _ _)
  · exact Ends.calm (calm_of_same rfl rfl)

theorem handle_recv_ends {system : System} (named : Named system.world)
    (order : SectorWorld.CallOrder) (ref : SessionRef) (cqe : Cqe) :
    Ends system (system.handleRecv order ref cqe) := by
  unfold System.handleRecv
  split
  · exact Ends.calm (calm_of_same rfl rfl)
  · split
    · exact close_session_ends named order .endOfStream ref.fd
    · exact Ends.calm (calm_of_event rfl rfl rfl rfl)

theorem handle_send_ends {system : System} (named : Named system.world)
    (order : SectorWorld.CallOrder) (ref : SessionRef) (payload : Bytes) (cqe : Cqe) :
    Ends system (system.handleSend order ref payload cqe) := by
  unfold System.handleSend
  split
  · exact Ends.calm (calm_of_same rfl rfl)
  · rename_i session alive
    let idling := system.setSession ref.fd (some { session with writeInFlight := false })
    have idle : Calm system idling := calm_of_same rfl rfl
    have kept : Named idling.world := named
    simp only
    split
    · exact Ends.after idle (close_session_ends kept order .sendFailure ref.fd)
    · split
      · exact Ends.after idle (close_session_ends kept order .sendFailure ref.fd)
      · rename_i front rest _ _
        let outbox := if front.length ≤ cqe.result.toNat then rest
          else front.drop cqe.result.toNat :: rest
        let progressed := (system.setSession ref.fd (some { session with
          writeInFlight := false, outbox })).record (.sent ref (payload.take cqe.result.toNat))
        have advanced : Calm system progressed := calm_of_event rfl rfl rfl rfl
        have posted := Yields.calmly advanced (calm_post_send progressed ref.fd)
        apply Ends.after posted
        apply maybe_close_ends
        rw [posted.world]
        exact named

theorem handle_cqe_ends {system : System} (named : Named system.world)
    (order : SectorWorld.CallOrder) (cqe : Cqe) : Ends system (system.handleCqe order cqe) := by
  unfold System.handleCqe
  split
  · exact handle_accept_ends system cqe
  · exact handle_recv_ends named order _ cqe
  · exact handle_send_ends named order _ _ cqe
  · exact Ends.calm (calm_of_same rfl rfl)

theorem finish_recv_ends {system : System} (named : Named system.world)
    (order : SectorWorld.CallOrder) (ref : SessionRef) :
    Ends system (system.finishRecv order ref) := by
  have ending := finish_recv_end system order ref
  generalize system.finishRecv order ref = next at ending
  have calm {session : Session} {checked : System} (checks : Checked system ref session checked) :
      Calm system checked := by
    cases checks with
    | fits => exact calm_of_same rfl rfl
    | refused => exact Yields.calmly (calm_queue_response system ref _) (calm_set_close _ _)
  cases ending with
  | gone => exact Ends.calm (calm_of_same rfl rfl)
  | lost _ _ _ checks => exact Ends.after (calm checks) (Ends.calm (calm_of_same rfl rfl))
  | parks _ _ checked _ checks =>
      have parked : Calm checked { checked with position := .draining } := calm_of_same rfl rfl
      apply Ends.after (calm checks)
      apply Ends.after parked
      apply maybe_close_ends
      rw [parked.world, (calm checks).world]
      exact named
  | reads _ _ checked _ checks =>
      have room := calm_get_sqe checked
      exact Ends.after (calm checks) (Ends.calm (Yields.calmly room (calm_of_same rfl rfl)))

theorem handle_completion_ends {system : System} (named : Named system.world)
    (order : SectorWorld.CallOrder) : Ends system (system.handleCompletion order) := by
  unfold System.handleCompletion
  split
  · have room := calm_get_sqe system
    exact Ends.calm (Yields.calmly room (calm_of_same rfl rfl))
  · rename_i completion rest completions
    let popped := popCompletion system completion rest
    have handled : Calm system popped := calm_of_event rfl rfl rfl rfl
    simp only
    split
    · split
      · exact Ends.calm handled
      · rename_i session alive
        generalize counting : (if 0 < session.pendingDb then
            System.setSession { system with
              database := { system.database with completions := rest }
              history := system.history ++ [.handled completion] } completion.client.fd
                (some { session with pendingDb := session.pendingDb - 1 })
          else { system with
            database := { system.database with completions := rest }
            history := system.history ++ [.handled completion] }) = counted
        have counts : Calm popped counted := by
          rw [← counting]
          split
          · exact calm_of_same rfl rfl
          · exact calm_of_same rfl rfl
        have answered := Yields.calmly (Yields.calmly handled counts)
          (calm_queue_response counted completion.client
            (.completion completion.ok completion.requestId completion.line))
        apply Ends.after answered
        apply maybe_close_ends
        rw [answered.world]
        exact named
    · exact Ends.calm handled

/-- A step handles one line or none. -/
inductive Deed (source target : System) : Prop
  | ends (nothing : upcoming source = none) (ends : Ends source target)
  | handles (ref : SessionRef) (line : Bytes) (jobs : List (SessionRef × List Bytes))
      (world : SectorWorld) (next : upcoming source = some (ref, line))
      (yields : Yields source target [.lineHandled ref line] jobs world)
      (follows : Follows source.world world ref (effectOf line) jobs)

theorem frame_line_deed {system : System} {ref : SessionRef} (named : Named system.world)
    (order : SectorWorld.CallOrder) (position : system.position = .framing ref) :
    Deed system (system.frameLine order ref) := by
  have turn := frame_line_turn system order ref
  generalize system.frameLine order ref = target at turn
  have begun (session : Session) (line rest : Bytes) :
      Yields system (takeLine system ref session line rest) [.lineHandled ref line] []
        system.world :=
    ⟨⟨[_], rfl, rfl, rfl⟩, rfl⟩
  cases turn with
  | stops nothing =>
      apply Deed.ends
      · simp only [upcoming, position]
        cases found : system.sessions ref.fd with
        | none => rfl
        | some session => simp only [nothing session found, Option.map_none]
      · exact Ends.calm (calm_of_same rfl rfl)
  | raises session line rest exception found cut failed =>
      have stays := raised_line_stays failed
      refine Deed.handles ref line [] system.world ?_ ?_ ?_
      · simp only [upcoming, position, found, cut, Option.map_some]
      · exact (begun session line rest).calmly (calm_of_same rfl rfl)
      · rw [stays]
        exact follows_stays _ _
  | handles session line rest handled found cut answered =>
      have kept : Named (takeLine system ref session line rest).world := named
      rcases client_line_yields kept order answered with ⟨jobs, world, yields, follows⟩
      have both := (begun session line rest).then yields
      refine Deed.handles ref line jobs world ?_ ?_ follows
      · simp only [upcoming, position, found, cut, Option.map_some]
      · exact both.calmly (calm_of_same rfl rfl)

theorem server_step_deed {source target : System} {order : SectorWorld.CallOrder}
    (named : Named source.world) (taken : source.serverStep order = some target) :
    Deed source target := by
  have room := calm_get_sqe source
  cases server_step_cases taken with
  | submitting position =>
      exact Deed.ends (by simp only [upcoming, position]) (Ends.calm (calm_of_same rfl rfl))
  | drained position =>
      exact Deed.ends (by simp only [upcoming, position]) (Ends.calm (calm_of_same rfl rfl))
  | draining cqe rest position =>
      have popped : Calm source (setCompleted source rest) := calm_of_same rfl rfl
      have kept : Named (setCompleted source rest).world := named
      apply Deed.ends (by simp only [upcoming, position])
      exact Ends.after popped (handle_cqe_ends kept order cqe)
  | opened ref position =>
      exact Deed.ends (by simp only [upcoming, position])
        (Ends.calm (Yields.calmly room (calm_of_same rfl rfl)))
  | reaccepting position =>
      exact Deed.ends (by simp only [upcoming, position])
        (Ends.calm (Yields.calmly room (calm_of_same rfl rfl)))
  | framing ref position => exact frame_line_deed named order position
  | framed ref position =>
      exact Deed.ends (by simp only [upcoming, position]) (finish_recv_ends named order ref)
  | completing position =>
      exact Deed.ends (by simp only [upcoming, position]) (handle_completion_ends named order)

theorem effect_of_unmarked {event : Event} (unmarked : isMark event = false) (ref : SessionRef) :
    effectFor ref event = .stays := by
  cases event with
  | lineHandled | closed => cases unmarked
  | _ => rfl

theorem departed_self (who : Option PlayerSnapshot) : departed who who = [] := by
  cases who with
  | none => rfl
  | some old => exact if_pos ⟨rfl, rfl⟩

/-- Only marks change who is played. -/
theorem playing_along (ref : SessionRef) (events : List Event) (before : Option PlayerSnapshot) :
    events.foldl (fun state event => present state (effectFor ref event)) before =
      (events.filter isMark).foldl (fun state event => present state (effectFor ref event))
        before := by
  induction events generalizing before with
  | nil => rfl
  | cons event rest ih =>
      cases marked : isMark event with
      | true =>
          rw [List.filter_cons_of_pos marked, List.foldl_cons, List.foldl_cons]
          exact ih _
      | false =>
          have unmarked : ¬isMark event = true := by
            rw [marked]
            exact Bool.false_ne_true
          rw [List.filter_cons_of_neg unmarked, List.foldl_cons, effect_of_unmarked marked]
          exact ih before

theorem dues_along_marks (ref : SessionRef) (events : List Event)
    (before : Option PlayerSnapshot) :
    duesAlong ref before events = duesAlong ref before (events.filter isMark) := by
  induction events generalizing before with
  | nil => rfl
  | cons event rest ih =>
      cases marked : isMark event with
      | true =>
          rw [List.filter_cons_of_pos marked, duesAlong, duesAlong, ih]
      | false =>
          have unmarked : ¬isMark event = true := by
            rw [marked]
            exact Bool.false_ne_true
          have nothing : due before .stays = [] := by
            rw [due, present, departed_self]
            rfl
          rw [List.filter_cons_of_neg unmarked, duesAlong, effect_of_unmarked marked, nothing]
          exact ih before

theorem playing_yields {source target : System} {marks : List Event}
    {jobs : List (SessionRef × List Bytes)} {world : SectorWorld}
    (yields : Yields source target marks jobs world) (ref : SessionRef) :
    playing target.history ref =
      marks.foldl (fun state event => present state (effectFor ref event))
        (playing source.history ref) := by
  rcases yields.history with ⟨events, history, filtered, _⟩
  rw [playing, history, List.foldl_append, playing_along ref events, filtered]
  rfl

theorem saves_due_iff {source target : System} {marks : List Event}
    {jobs : List (SessionRef × List Bytes)} {world : SectorWorld}
    (yields : Yields source target marks jobs world) :
    SavesDue source target ↔ ∀ ref, (jobs.filter fun save => save.1 = ref).Perm
      ((duesAlong ref (playing source.history ref) marks).map fun who => (ref, savedArgs who)) := by
  rcases yields.history with ⟨events, history, filtered, collected⟩
  have new : newEvents source target = events := by
    rw [newEvents, history, List.drop_left]
  unfold SavesDue
  rw [new, collected]
  apply forall_congr'
  intro ref
  rw [dues_along_marks, filtered]

theorem due_of_keeping {before : Option PlayerSnapshot} {effect : Effect}
    (keeps : switches before effect = false) : due before effect = saved before effect := by
  cases effect with
  | enters who =>
      cases before with
      | none => rfl
      | some old =>
          simp only [switches, Bool.not_eq_false', Bool.and_eq_true, decide_eq_true_eq] at keeps
          simp only [due, present, departed, if_pos keeps]
          rfl
  | moves x y =>
      cases before with
      | none => rfl
      | some old =>
          have same : departed (some old) (some { old with x, y }) = [] := if_pos ⟨rfl, rfl⟩
          simp only [due, present, Option.map_some, same]
          rfl
  | leaves =>
      cases before with
      | none => rfl
      | some old => rfl
  | stays =>
      rw [due, present, departed_self]
      rfl

/-- The character that is left behind is due as well. -/
theorem due_of_switching {before : Option PlayerSnapshot} {effect : Effect}
    (changes : switches before effect = true) :
    (due before effect).length = (saved before effect).length + 1 := by
  cases effect with
  | enters who =>
      cases before with
      | none => cases changes
      | some old =>
          have other : ¬(old.account = who.account ∧ old.character = who.character) := by
            intro same
            simp [switches, same.1, same.2] at changes
          simp only [due, present, departed, if_neg other]
          rfl
  | moves | leaves | stays => cases changes

theorem saves_due_one {source target : System} {ref : SessionRef} {event : Event}
    {jobs : List (SessionRef × List Bytes)} {world : SectorWorld}
    (yields : Yields source target [event] jobs world)
    (own : ∀ other, other ≠ ref → effectFor other event = .stays)
    (recorded : playing source.history ref = cast source.world ref)
    (follows : Follows source.world world ref (effectFor ref event) jobs) :
    SavesDue source target ↔
      switches (playing source.history ref) (effectFor ref event) = false := by
  rw [saves_due_iff yields, follows.jobs, ← recorded]
  constructor
  · intro every
    by_contra changes
    have longer := due_of_switching (Bool.eq_true_of_not_eq_false changes)
    have lengths := (every ref).length_eq
    simp only [duesAlong, List.append_nil, List.length_map] at lengths
    rw [List.filter_eq_self.mpr, List.length_map, longer] at lengths
    · omega
    · intro save member
      rcases List.mem_map.mp member with ⟨who, _, rfl⟩
      exact decide_eq_true rfl
  · intro keeps other
    rw [← due_of_keeping keeps]
    by_cases self : other = ref
    · rw [self, List.filter_eq_self.mpr]
      · simp only [duesAlong, List.append_nil]
        exact List.Perm.refl _
      · intro save member
        rcases List.mem_map.mp member with ⟨who, _, rfl⟩
        exact decide_eq_true rfl
    · have nothing : duesAlong other (playing source.history other) [event] = [] := by
        rw [duesAlong, own other self, due, present, departed_self]
        rfl
      rw [nothing, List.filter_eq_nil_iff.mpr]
      · exact List.Perm.refl _
      · intro save member
        rcases List.mem_map.mp member with ⟨who, _, rfl⟩
        simp only [decide_eq_true_eq]
        exact fun same => self same.symm

theorem effect_of_closed (ref : SessionRef) (cause : CloseCause) :
    effectFor ref (.closed ref cause) = .leaves := if_pos rfl

theorem effect_of_closed_other {ref other : SessionRef} (cause : CloseCause)
    (different : other ≠ ref) : effectFor other (.closed ref cause) = .stays :=
  if_neg (Ne.symm different)

theorem effect_of_line (ref : SessionRef) (line : Bytes) :
    effectFor ref (.lineHandled ref line) = effectOf line := if_pos rfl

theorem effect_of_line_other {ref other : SessionRef} (line : Bytes) (different : other ≠ ref) :
    effectFor other (.lineHandled ref line) = .stays :=
  if_neg (Ne.symm different)

/-- The world has the players the history says. -/
def Recorded (system : System) : Prop :=
  ∀ ref, playing system.history ref = cast system.world ref

theorem recorded_calm {source target : System} (recorded : Recorded source)
    (calm : Calm source target) : Recorded target := by
  intro ref
  rw [playing_yields calm ref, calm.world]
  exact recorded ref

theorem recorded_one {source target : System} {ref : SessionRef} {event : Event}
    {jobs : List (SessionRef × List Bytes)} {world : SectorWorld} (recorded : Recorded source)
    (yields : Yields source target [event] jobs world)
    (own : ∀ other, other ≠ ref → effectFor other event = .stays)
    (follows : Follows source.world world ref (effectFor ref event) jobs) : Recorded target := by
  intro other
  rw [playing_yields yields other, yields.world, List.foldl_cons, List.foldl_nil, recorded other]
  by_cases self : other = ref
  · rw [self]
    exact follows.self.symm
  · rw [own other self, cast, cast, follows.others other self]
    rfl

theorem recorded_deed {source target : System} (recorded : Recorded source)
    (deed : Deed source target) : Recorded target := by
  cases deed with
  | ends nothing ends =>
      cases ends with
      | calm yields => exact recorded_calm recorded yields
      | closes ref cause jobs world yields follows =>
          rw [← effect_of_closed ref cause] at follows
          exact recorded_one recorded yields (fun _ => effect_of_closed_other cause) follows
  | handles ref line jobs world next yields follows =>
      rw [← effect_of_line ref line] at follows
      exact recorded_one recorded yields (fun _ => effect_of_line_other line) follows

theorem calm_outside {source target : System} {label : Label}
    (taken : Outside source label target) : Calm source target := by
  cases taken with
  | transmits => exact calm_of_event rfl rfl rfl rfl
  | _ => exact calm_of_same rfl rfl

theorem recorded_reachable {config : ServerConfig} {poolSize : Nat} {system : System}
    (reached : Reachable System.step (System.start config poolSize) system) :
    Recorded system := by
  have both : Coherent system ∧ Recorded system := by
    apply reached.invariant
    · exact ⟨coherent_start config poolSize, fun _ => rfl⟩
    · intro source label target before taken
      refine ⟨coherent_step before.1 taken, ?_⟩
      rcases step_cases taken with ⟨order, _, server⟩ | outside
      · exact recorded_deed before.2 (server_step_deed before.1.named server)
      · exact recorded_calm before.2 (calm_outside outside)
  exact both.2

theorem saves_due_calm {source target : System} (calm : Calm source target) :
    SavesDue source target := by
  rw [saves_due_iff calm]
  intro ref
  exact List.Perm.refl _

theorem saves_due_deed {source target : System} {order : SectorWorld.CallOrder}
    (recorded : Recorded source) (deed : Deed source target) :
    SavesDue source target ↔ KeepsCharacter source (.server order) := by
  cases deed with
  | ends nothing ends =>
      have condition : KeepsCharacter source (.server order) := by
        intro next member
        rw [nothing] at member
        cases member
      apply iff_of_true _ condition
      cases ends with
      | calm yields => exact saves_due_calm yields
      | closes ref cause jobs world yields follows =>
          have effect := effect_of_closed ref cause
          rw [← effect] at follows
          rw [saves_due_one yields (fun _ => effect_of_closed_other cause) (recorded ref) follows,
            effect]
          rfl
  | handles ref line jobs world next yields follows =>
      have effect := effect_of_line ref line
      rw [← effect] at follows
      rw [saves_due_one yields (fun _ => effect_of_line_other line) (recorded ref) follows, effect]
      constructor
      · intro keeps other member
        rw [next] at member
        rw [← Option.some.inj member]
        exact keeps
      · intro keeps
        exact keeps (ref, line) next

/-- Every run saves what is due, step by step, exactly when no line lets a
session in the world go on as another character. -/
theorem positions_saved_exactly (config : ServerConfig) (poolSize : Nat) :
    (∀ system, Reachable System.step (System.start config poolSize) system →
      ∀ ref, playing system.history ref = cast system.world ref) ∧
    ∀ labels : List Label,
      EveryStep System.step (fun source _ target => SavesDue source target)
        (System.start config poolSize) labels ↔
      EveryStep System.step (fun source label _ => KeepsCharacter source label)
        (System.start config poolSize) labels := by
  refine ⟨fun system reached => recorded_reachable reached, ?_⟩
  intro labels
  apply every_step_congr
  intro source label target reached taken
  rcases step_cases taken with ⟨order, rfl, server⟩ | outside
  · have named : Named source.world := (coherent_reachable reached).named
    exact saves_due_deed (recorded_reachable reached) (server_step_deed named server)
  · apply iff_of_true (saves_due_calm (calm_outside outside))
    cases outside with
    | _ => trivial

/-- A client enters, moves and enters again as another character. -/
def entersTwice : List Label :=
  [.tick, .accept 0 5, .tick, .tick, .tick, .tick, .tick,
    .recv 2 (ascii "ENTER a b 1 2\nMOVE 7 8\nENTER a c 5 5\n"), .tick, .tick, .tick]

theorem second_enter_loses_first_character :
    ∃ source target, run System.step (System.start .default 1) entersTwice = some source ∧
      source.step .tick = some target ∧
      playing source.history ⟨5, 1⟩ = some ⟨ascii "a", ascii "b", 7, 8⟩ ∧
      playing target.history ⟨5, 1⟩ = some ⟨ascii "a", ascii "c", 5, 5⟩ ∧
      target.history.filterMap saveOf =
        [(⟨5, 1⟩, [ascii "a", ascii "b", ascii "1", ascii "2"]),
          (⟨5, 1⟩, [ascii "a", ascii "c", ascii "5", ascii "5"])] ∧
      ¬EveryStep System.step (fun before _ after => SavesDue before after)
        (System.start .default 1) (entersTwice ++ [.tick]) := by
  have ends : (run System.step (System.start .default 1) entersTwice).any (fun source =>
      (source.step .tick).any fun target =>
        decide (playing source.history ⟨5, 1⟩ = some ⟨ascii "a", ascii "b", 7, 8⟩) &&
        decide (playing target.history ⟨5, 1⟩ = some ⟨ascii "a", ascii "c", 5, 5⟩) &&
        decide (target.history.filterMap saveOf =
          [(⟨5, 1⟩, [ascii "a", ascii "b", ascii "1", ascii "2"]),
            (⟨5, 1⟩, [ascii "a", ascii "c", ascii "5", ascii "5"])]) &&
        decide ((((newEvents source target).filterMap saveOf).filter fun save =>
          save.1 = ⟨5, 1⟩).length = 1) &&
        decide ((duesAlong ⟨5, 1⟩ (playing source.history ⟨5, 1⟩)
          (newEvents source target)).length = 2)) = true := by
    decide
  rcases (Option.any_eq_true _ _).mp ends with ⟨source, ran, later⟩
  rcases (Option.any_eq_true _ _).mp later with ⟨target, taken, facts⟩
  simp only [Bool.and_eq_true, decide_eq_true_eq] at facts
  refine ⟨source, target, ran, taken, facts.1.1.1.1, facts.1.1.1.2, facts.1.1.2, ?_⟩
  intro every
  have last := every entersTwice .tick [] source target rfl ran taken ⟨5, 1⟩
  have lengths := last.length_eq
  rw [List.length_map, facts.1.2, facts.2] at lengths
  omega

end DungeonPortfolio.PositionSaves
