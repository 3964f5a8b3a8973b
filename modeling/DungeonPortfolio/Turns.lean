import DungeonPortfolio.Library.Progress
import DungeonPortfolio.LineFraming
import DungeonPortfolio.Program

/-!
# The event loop comes back to its wait

A completion is worth the pieces of `run()` that it can cost, a line in the buffer
of the session being read and a completion of the dispatcher one piece each. Every
piece is paid out of what is there, so between two waits the loop does not go on
for longer than the kernel and the workers feed it.
-/

namespace DungeonPortfolio.Turns

open DungeonPortfolio.Text DungeonPortfolio.World DungeonPortfolio.Dispatcher
open DungeonPortfolio.Server DungeonPortfolio.ServerActs DungeonPortfolio.ServerResponses
open DungeonPortfolio.ServerSteps DungeonPortfolio.Sessions DungeonPortfolio.Requests
open DungeonPortfolio.NoStall DungeonPortfolio.LineFraming
open Library.Execution Library.Framing Library.Progress

set_option autoImplicit false

structure Aside (system next : System) : Prop where
  position : next.position = system.position
  completed : next.completed = system.completed
  completions : next.database.completions = system.database.completions
  generation : next.nextSessionGeneration = system.nextSessionGeneration

theorem aside_refl (system : System) : Aside system system := ⟨rfl, rfl, rfl, rfl⟩

theorem Aside.trans {first second third : System} (before : Aside first second)
    (after : Aside second third) : Aside first third where
  position := after.position.trans before.position
  completed := after.completed.trans before.completed
  completions := after.completions.trans before.completions
  generation := after.generation.trans before.generation

theorem aside_get_sqe (system : System) : Aside system system.getSqe := by
  have same := get_sqe_undisturbed system
  exact ⟨same.position, same.completed, by rw [same.database], same.nextGeneration⟩

theorem aside_post_send (system : System) (fd : Int) : Aside system (system.postSend fd) := by
  unfold System.postSend
  split
  · exact aside_refl system
  · rename_i session found
    split
    · exact aside_refl system
    · exact aside_refl system
    · have flagged : Aside system
          (system.setSession fd (some { session with writeInFlight := true })) := ⟨rfl, rfl, rfl, rfl⟩
      exact (flagged.trans (aside_get_sqe _)).trans ⟨rfl, rfl, rfl, rfl⟩

theorem aside_queue_response (system : System) (ref : SessionRef) (line : ServerLine) :
    Aside system (system.queueResponse ref line) := by
  unfold System.queueResponse
  split
  · exact ⟨rfl, rfl, rfl, rfl⟩
  · rename_i session _
    have queued : Aside system ((system.setSession ref.fd (some { session with
        outbox := session.outbox ++ [terminated line.text] })).record (.queued ref line)) :=
      ⟨rfl, rfl, rfl, rfl⟩
    exact queued.trans (aside_post_send _ ref.fd)

theorem aside_deliver (system : System) (events : List WorldEvent) :
    Aside system (system.deliverWorldEvents events) := by
  induction events generalizing system with
  | nil => exact aside_refl system
  | cons event rest ih =>
      exact (aside_queue_response system event.receiver (.world event.line)).trans (ih _)

theorem aside_submit_job (system : System) (job : DbJob) : Aside system (system.submitJob job) := by
  refine ⟨rfl, rfl, ?_, rfl⟩
  cases closed : system.database.jobs.closed <;>
    simp [System.submitJob, DbDispatcher.submit, BlockingQueue.push, closed]

theorem aside_call (system : System) (world : SectorWorld) (events : List WorldEvent) :
    Aside system ((system.setWorld world).deliverWorldEvents events) := by
  have called : Aside system (system.setWorld world) := ⟨rfl, rfl, rfl, rfl⟩
  exact called.trans (aside_deliver _ events)

theorem aside_leave_world (system : System) (order : SectorWorld.CallOrder) (ref : SessionRef) :
    Aside system (system.leaveWorld order ref) := by
  rw [leave_world_eq]
  apply (aside_call system _ _).trans
  unfold saveSnapshot
  split
  · exact aside_refl _
  · exact aside_submit_job _ _

theorem aside_close_session (system : System) (order : SectorWorld.CallOrder) (cause : CloseCause)
    (fd : Int) : Aside system (system.closeSession order cause fd) := by
  unfold System.closeSession
  split
  · exact aside_refl system
  · rename_i session _
    exact (aside_leave_world system order ⟨fd, session.generation⟩).trans ⟨rfl, rfl, rfl, rfl⟩

theorem aside_maybe_close (system : System) (order : SectorWorld.CallOrder) (fd : Int) :
    Aside system (system.maybeCloseAfterFlush order fd) := by
  unfold System.maybeCloseAfterFlush
  split
  · exact aside_refl system
  · split
    · exact aside_close_session system order .flushed fd
    · exact aside_refl system

theorem aside_set_close (system : System) (fd : Int) :
    Aside system (system.setCloseAfterFlush fd) := by
  unfold System.setCloseAfterFlush
  split
  · exact aside_refl system
  · exact ⟨rfl, rfl, rfl, rfl⟩

theorem aside_client_line {system next : System} {order : SectorWorld.CallOrder}
    {ref : SessionRef} {line : Bytes}
    (handled : system.handleClientLine order ref line = .ok next) : Aside system next := by
  cases handle_client_line_returns handled with
  | rejected message => exact aside_queue_response system ref _
  | quit =>
      exact ((aside_leave_world system order ref).trans (aside_queue_response _ ref .bye)).trans
        (aside_set_close _ ref.fd)
  | enter => exact (aside_call system _ _).trans (aside_submit_job _ _)
  | move => exact aside_call system _ _
  | attack => exact aside_deliver system _
  | database =>
      have counted : Aside system (system.countPending ref.fd) := by
        unfold System.countPending
        split
        · exact aside_refl system
        · exact ⟨rfl, rfl, rfl, rfl⟩
      exact (counted.trans (aside_queue_response _ ref _)).trans (aside_submit_job _ _)

def lineEnds (bytes : Bytes) : Nat := bytes.count newline

/-- The pieces of `run()` that a completion can cost. -/
def price (cqe : Cqe) : Nat :=
  match cqe.operation.token with
  | .accept => 3
  | .recv _ => lineEnds cqe.buffer + 3
  | .send _ _ => 1
  | .databaseEvent => 2

/-- The lines that wait in the buffer of a session. -/
def buffered (system : System) (ref : SessionRef) : Nat :=
  ((briefs system ref.fd).map fun session => lineEnds session.input).getD 0

/-- The pieces that are left of the handler that `run()` is in. -/
def left (system : System) : Position → Nat
  | .submitting => if system.completed = [] then 0 else 2
  | .draining => 1
  | .opened _ => 3
  | .reaccepting | .framed _ | .completing => 2
  | .framing ref => buffered system ref + 3
  | .raised _ => 0

def work (system : System) : Nat :=
  left system system.position + (system.completed.map price).sum +
    system.database.completions.length

def Waits (system : System) : Prop := system.position = .submitting ∧ system.completed = []

section

variable {system next : System} {position later : Position}

theorem work_moved (was : system.position = position) (now : next.position = later)
    (completed : next.completed = system.completed)
    (completions : next.database.completions = system.database.completions)
    (less : left next later + 1 ≤ left system position) : work next + 1 ≤ work system := by
  unfold work
  rw [was, now, completed, completions]
  omega

theorem work_popped {cqe : Cqe} {rest : List Cqe} (was : system.position = .draining)
    (completed : system.completed = cqe :: rest) (now : next.position = later)
    (popped : next.completed = rest)
    (completions : next.database.completions = system.database.completions)
    (paid : left next later ≤ price cqe) : work next + 1 ≤ work system := by
  unfold work
  rw [was, now, completed, popped, completions, List.map_cons, List.sum_cons]
  have one : left system .draining = 1 := rfl
  omega

end

theorem line_ends_append (first second : Bytes) :
    lineEnds (first ++ second) = lineEnds first + lineEnds second := List.count_append

theorem line_ends_cut {input line rest : Bytes} (cut : System.cutLine input = some (line, rest)) :
    lineEnds rest + 1 ≤ lineEnds input := by
  rw [(cut_line_some cut).1, line_ends_append]
  have last : lineEnds (newline :: rest) = lineEnds rest + 1 := List.count_cons_self
  omega

theorem line_ends_clean {input : Bytes} (clean : newline ∉ input) : lineEnds input = 0 :=
  List.count_eq_zero.mpr clean

/-- Nothing but its last line, which has no end, waits in a buffer that is filled. -/
def Clean (system : System) : Prop :=
  ∀ ref session, receives system ref ≠ 0 → system.live ref = some session →
    newline ∉ session.input

section

variable {system next : System} {order : SectorWorld.CallOrder}

theorem aside_handle_send (system : System) (order : SectorWorld.CallOrder) (ref : SessionRef)
    (payload : Bytes) (cqe : Cqe) : Aside system (system.handleSend order ref payload cqe) := by
  unfold System.handleSend
  split
  · exact aside_refl system
  · rename_i session alive
    have stored : ∀ changed : Session, Aside system (system.setSession ref.fd (some changed)) :=
      fun _ => ⟨rfl, rfl, rfl, rfl⟩
    have sent : ∀ (changed : Session) (bytes : Bytes), Aside system
        ((system.setSession ref.fd (some changed)).record (.sent ref bytes)) :=
      fun _ _ => ⟨rfl, rfl, rfl, rfl⟩
    simp only
    split
    · exact (stored _).trans (aside_close_session _ order .sendFailure ref.fd)
    · split
      · exact (stored _).trans (aside_close_session _ order .sendFailure ref.fd)
      · exact ((sent _ _).trans (aside_post_send _ ref.fd)).trans (aside_maybe_close _ order ref.fd)

theorem work_accept {cqe : Cqe} {rest : List Cqe} (position : system.position = .draining)
    (completed : system.completed = cqe :: rest) (token : cqe.operation.token = .accept) :
    work ((setCompleted system rest).handleAccept cqe) + 1 ≤ work system := by
  have worth : price cqe = 3 := by simp only [price, token]
  unfold System.handleAccept
  split_ifs
  · have aside := aside_queue_response
    exact work_popped position completed (aside _ _ _).position (aside _ _ _).completed
      (aside _ _ _).completions worth.ge
  · exact work_popped position completed rfl rfl rfl (worth.symm ▸ Nat.le_succ 2)

theorem work_recv {cqe : Cqe} {rest : List Cqe} {ref : SessionRef} (clean : Clean system)
    (position : system.position = .draining) (completed : system.completed = cqe :: rest)
    (token : cqe.operation.token = .recv ref) :
    work ((setCompleted system rest).handleRecv order ref cqe) + 1 ≤ work system := by
  have worth : price cqe = lineEnds cqe.buffer + 3 := by simp only [price, token]
  have cheap : 1 ≤ price cqe := by omega
  unfold System.handleRecv
  split
  · exact work_popped position completed position rfl rfl cheap
  · rename_i session alive
    split_ifs
    · have aside := aside_close_session (setCompleted system rest) order .endOfStream ref.fd
      exact work_popped position completed (aside.position.trans position) aside.completed
        aside.completions cheap
    · have outstanding : receives system ref ≠ 0 := by
        have counted : receives system ref = receives (setCompleted system rest) ref +
            if cqe.operation.token = .recv ref then 1 else 0 :=
          receives_pop completed (by rfl) (by rfl) (by rfl) ref
        rw [if_pos token] at counted
        omega
      have filled : ∀ bytes, lineEnds (session.input ++ bytes) = lineEnds bytes := by
        intro bytes
        rw [line_ends_append, line_ends_clean (clean ref session outstanding alive), Nat.zero_add]
      have fewer : lineEnds (cqe.buffer.take cqe.result.toNat) ≤ lineEnds cqe.buffer :=
        (List.take_sublist _ _).count_le newline
      refine work_popped position completed (rfl : _ = Position.framing ref) rfl rfl ?_
      simp only [left, buffered, briefs, brief, System.record, System.setSession,
        Function.update_self, Option.map_some, Option.getD_some, filled]
      omega

theorem work_frame {ref : SessionRef} (position : system.position = .framing ref) :
    work (system.frameLine order ref) + 1 ≤ work system := by
  have turn := frame_line_turn system order ref
  generalize system.frameLine order ref = target at turn
  have some_left : 3 ≤ left system (.framing ref) := Nat.le_add_left 3 _
  cases turn with
  | stops => exact work_moved position rfl rfl rfl some_left
  | raises => exact work_moved position rfl rfl rfl (Nat.le_of_succ_le (Nat.le_of_succ_le some_left))
  | handles session line rest next found cut answered =>
      have aside := aside_client_line answered
      have before : briefs system ref.fd = some (brief session) := by
        rw [briefs, found, Option.map_some]
      have waiting : left system (.framing ref) = lineEnds session.input + 3 := by
        rw [left, buffered, before]
        rfl
      have taken : briefs (takeLine system ref session line rest) ref.fd =
          some { brief session with input := rest } := by
        simp [briefs, brief, takeLine, System.record, System.setSession]
      have stored : (briefs next ref.fd).map Brief.input = some rest := by
        rw [(client_line_handles answered).briefs _ taken, Function.update_self, Option.map_some]
      have shorter := line_ends_cut cut
      refine work_moved position rfl aside.completed aside.completions ?_
      rw [waiting]
      split_ifs
      · have later : buffered next ref = lineEnds rest := by
          rcases Option.map_eq_some_iff.mp stored with ⟨found, there, rfl⟩
          rw [buffered, there]
          rfl
        change buffered next ref + 3 + 1 ≤ _
        omega
      · exact Nat.add_le_add_right (Nat.le_add_left 2 _) 1

theorem aside_checked {ref : SessionRef} {session : Session}
    (checked : Checked system ref session next) : Aside system next := by
  cases checked with
  | fits => exact aside_refl system
  | refused => exact (aside_queue_response system ref _).trans (aside_set_close _ ref.fd)

theorem work_finish {ref : SessionRef} (position : system.position = .framed ref) :
    work (system.finishRecv order ref) + 1 ≤ work system := by
  have ended := finish_recv_end system order ref
  generalize system.finishRecv order ref = target at ended
  have enough : left target .draining + 1 ≤ left system (.framed ref) := Nat.le_refl 2
  cases ended with
  | gone => exact work_moved position rfl rfl rfl enough
  | lost session checked alive checks =>
      have aside := aside_checked checks
      exact work_moved position rfl aside.completed aside.completions enough
  | parks session refreshed checked alive checks =>
      have aside := aside_checked checks
      have closed := aside_maybe_close { checked with position := .draining } order ref.fd
      exact work_moved position closed.position (closed.completed.trans aside.completed)
        (closed.completions.trans aside.completions) enough
  | reads session refreshed checked alive checks =>
      have aside := (aside_checked checks).trans (aside_get_sqe checked)
      exact work_moved position rfl aside.completed aside.completions enough

theorem aside_completion {completion : DbCompletion} {rest : List DbCompletion}
    (completions : system.database.completions = completion :: rest) :
    Aside (ServerActs.popCompletion system completion rest) (system.handleCompletion order) := by
  unfold System.handleCompletion
  rw [completions]
  simp only
  split_ifs
  · split
    · exact aside_refl _
    · rename_i session alive
      have counted : Aside (ServerActs.popCompletion system completion rest)
          (if 0 < session.pendingDb then
            (ServerActs.popCompletion system completion rest).setSession completion.client.fd
              (some { session with pendingDb := session.pendingDb - 1 })
          else ServerActs.popCompletion system completion rest) := by
        split_ifs
        · exact ⟨rfl, rfl, rfl, rfl⟩
        · exact aside_refl _
      exact (counted.trans (aside_queue_response _ completion.client _)).trans
        (aside_maybe_close _ order completion.client.fd)
  · exact aside_refl _

theorem work_completion (position : system.position = .completing) :
    work (system.handleCompletion order) + 1 ≤ work system := by
  cases completions : system.database.completions with
  | nil =>
      have room := aside_get_sqe system
      have parked : system.handleCompletion order =
          { system.postEventfdPoll with position := .draining } := by
        simp only [System.handleCompletion, completions]
      rw [parked]
      exact work_moved position rfl room.completed room.completions (Nat.le_refl 2)
  | cons completion rest =>
      have aside : Aside _ (system.handleCompletion order) := aside_completion completions
      unfold work
      rw [aside.position, aside.completed, aside.completions, completions]
      change left _ system.position + (system.completed.map price).sum + rest.length + 1 ≤ _
      rw [position, List.length_cons]
      have same : left (system.handleCompletion order) .completing = left system .completing := rfl
      omega

/-- Where `run()` does not wait, its next piece is paid out of the work that is left. -/
theorem work_server (clean : Clean system) (taken : system.serverStep order = some next)
    (busy : ¬Waits system) : work next + 1 ≤ work system := by
  cases server_step_cases taken with
  | submitting position =>
      have filled : system.completed ≠ [] := fun empty => busy ⟨position, empty⟩
      refine work_moved position rfl rfl rfl ?_
      rw [left, left, if_neg filled]
  | drained position completed =>
      refine work_moved position rfl rfl rfl ?_
      rw [left, left, if_pos completed]
  | draining cqe rest position completed =>
      unfold System.handleCqe
      cases token : cqe.operation.token with
      | accept => exact work_accept position completed token
      | recv ref => exact work_recv clean position completed token
      | send ref payload =>
          have worth : price cqe = 1 := by simp only [price, token]
          have aside := aside_handle_send (setCompleted system rest) order ref payload cqe
          exact work_popped position completed (aside.position.trans position) aside.completed
            aside.completions worth.ge
      | databaseEvent =>
          have worth : price cqe = 2 := by simp only [price, token]
          exact work_popped position completed rfl rfl rfl worth.ge
  | opened ref position =>
      have room := aside_get_sqe system
      exact work_moved position rfl room.completed room.completions (Nat.le_refl 3)
  | reaccepting position =>
      have room := aside_get_sqe system
      exact work_moved position rfl room.completed room.completions (Nat.le_refl 2)
  | framing ref position => exact work_frame position
  | framed ref position => exact work_finish position
  | completing position => exact work_completion position

def brings : Server.Label → Nat
  | .server _ | .take | .signal => 0
  | .accept _ _ | .fail _ _ => 3
  | .recv _ bytes => lineEnds bytes + 3
  | .send _ _ | .finish _ _ _ => 1
  | .poll _ => 2

/-- The pieces of `run()`. -/
def spent : Server.Label → Nat
  | .server _ => 1
  | _ => 0

theorem left_outside (busy : ¬Waits system) (position : next.position = system.position)
    (sessions : next.sessions = system.sessions) :
    left next next.position ≤ left system system.position := by
  rw [position]
  cases now : system.position with
  | submitting =>
      have filled : system.completed ≠ [] := fun empty => busy ⟨now, empty⟩
      rw [left, left, if_neg filled]
      split_ifs
      · exact Nat.zero_le 2
      · exact Nat.le_refl 2
  | framing ref =>
      have same : buffered next ref = buffered system ref := by
        simp only [buffered, briefs, sessions]
      rw [left, left, same]
  | _ => exact Nat.le_refl _

theorem work_outside {label : Server.Label} (busy : ¬Waits system)
    (taken : Outside system label next) : work next ≤ work system + brings label := by
  have kept : left next next.position ≤ left system system.position := by
    cases taken with
    | _ => exact left_outside busy rfl rfl
  have finished : ∀ cqe, next.completed = system.completed ++ [cqe] →
      next.database.completions = system.database.completions → price cqe ≤ brings label →
        work next ≤ work system + brings label := by
    intro cqe completed completions paid
    unfold work
    rw [completed, completions, List.map_append, List.sum_append, List.map_singleton,
      List.sum_singleton]
    omega
  have elsewhere : next.completed = system.completed →
      next.database.completions.length ≤ system.database.completions.length + brings label →
        work next ≤ work system + brings label := by
    intro completed longer
    unfold work
    rw [completed]
    omega
  cases taken with
  | accepts => exact finished _ rfl rfl (Nat.le_refl 3)
  | receives index bytes => exact finished _ rfl rfl (Nat.le_refl _)
  | transmits => exact finished _ rfl rfl (Nat.le_refl 1)
  | fails index operation result =>
      refine finished _ rfl rfl ?_
      change price ⟨operation, result, []⟩ ≤ 3
      unfold price
      cases operation.token with
      | accept | recv => exact Nat.le_refl 3
      | send => exact Nat.le_add_left 1 2
      | databaseEvent => exact Nat.le_succ 2
  | polls => exact finished _ rfl rfl (Nat.le_refl 2)
  | takes => exact elsewhere rfl (Nat.le_refl _)
  | finishes => exact elsewhere rfl (List.length_append.le)
  | signals => exact elsewhere rfl (Nat.le_refl _)

end

section

variable {config : ServerConfig} {poolSize : Nat} {system last : System}

/-- Where nobody reads from a buffer that may still be filled, it holds no whole line. -/
theorem no_line_waits (reached : Reachable System.step (System.start config poolSize) system)
    (unwrapped : system.nextSessionGeneration ≤ 2 ^ 64) (running : Running system)
    {ref : SessionRef} {session : Session} (unread : reader system.position ≠ some ref)
    (alive : system.live ref = some session) (open_ : session.closeAfterFlush = false) :
    newline ∉ session.input := by
  have framed := framed_reachable reached unwrapped running
  rcases framed.settled ref unread with ⟨rest, reading, done⟩
  rcases framed.alive ref session alive with ⟨own, marked⟩
  have same : session.input = rest :=
    List.append_cancel_left (own.split.symm.trans reading.split)
  rw [same]
  refine done.resolve_left fun quit => ?_
  rw [marked quit] at open_
  cases open_

theorem clean_reachable (reached : Reachable System.step (System.start config poolSize) system)
    (unwrapped : system.nextSessionGeneration ≤ 2 ^ 64) (running : Running system) :
    Clean system := by
  intro ref session outstanding alive
  have posted := (receiving_reachable reached unwrapped running).posted ref session alive
  have awaited : awaitedReceives system.position ref session.closeAfterFlush ≠ 0 := posted ▸ outstanding
  unfold awaitedReceives at awaited
  split_ifs at awaited with idle
  · exact absurd rfl awaited
  · rcases not_or.mp idle with ⟨elsewhere, open_⟩
    refine no_line_waits reached unwrapped running ?_ alive (Bool.eq_false_iff.mpr open_)
    intro reads
    apply elsewhere
    cases now : system.position with
    | framing other =>
        rw [now] at reads
        exact reads
    | _ =>
        rw [now] at reads
        cases reads

theorem work_step {label : Server.Label} {next : System}
    (reached : Reachable System.step (System.start config poolSize) system)
    (unwrapped : system.nextSessionGeneration ≤ 2 ^ 64) (busy : ¬Waits system)
    (taken : system.step label = some next) :
    work next + spent label ≤ work system + brings label := by
  rcases step_cases taken with ⟨order, rfl, server⟩ | outside
  · exact work_server (clean_reachable reached unwrapped (running_of_step taken)) server busy
  · have less := work_outside busy outside
    have free : spent label = 0 := by cases outside <;> rfl
    omega

theorem generations_grow {labels : List Server.Label}
    (reached : Reachable System.step (System.start config poolSize) system)
    (ran : run System.step system labels = some last) :
    system.nextSessionGeneration ≤ last.nextSessionGeneration := by
  have both : Coherent last ∧ system.nextSessionGeneration ≤ last.nextSessionGeneration := by
    refine @invariant_of_run _ _ _ (fun state => Coherent state ∧
      system.nextSessionGeneration ≤ state.nextSessionGeneration) _ _ _
        ⟨coherent_reachable reached, Nat.le_refl _⟩ ?_ ran
    rintro source label next ⟨coherent, before⟩ taken
    exact ⟨coherent_step coherent taken, before.trans (grown_step coherent taken).1⟩
  exact both.2

def accepts (completed : List Cqe) : Nat :=
  (completed.map fun cqe => cqe.operation.token).count .accept

theorem accepts_rest (cqe : Cqe) (rest : List Cqe) : accepts rest ≤ accepts (cqe :: rest) :=
  List.count_le_count_cons

theorem accepts_accept {cqe : Cqe} (token : cqe.operation.token = .accept) (rest : List Cqe) :
    accepts (cqe :: rest) = accepts rest + 1 := by
  rw [accepts, List.map_cons, token, List.count_cons_self]
  rfl

/-- The next generation when all of these have been handled. -/
def admitted (system : System) : Nat := system.nextSessionGeneration + accepts system.completed

theorem admitted_server {next : System} {order : SectorWorld.CallOrder} (coherent : Coherent system)
    (taken : system.serverStep order = some next) : admitted next ≤ admitted system := by
  refine (@kept_by_turn (fun state => admitted state ≤ admitted system) ?_ _ _ ?_ coherent
    (Nat.le_refl _) (server_step_turn coherent taken)).2
  · intro source target _ before act
    refine Nat.le_trans ?_ before
    unfold admitted
    cases act with
    | dismissed cqe rest ref position completed | refused cqe rest position completed
    | received cqe rest ref session position completed | awoken cqe rest position completed =>
        rw [completed]
        exact Nat.add_le_add_left (accepts_rest cqe rest) _
    | arrived cqe rest ref position completed token =>
        rw [completed, accepts_accept token]
        simp only
        omega
    | answered => simp
    | completed => simp [ServerActs.popCompletion]
    | requested => simp [System.submitJob]
    | _ => exact Nat.le_refl _
  · rintro ref room middle _ _ before ⟨cqe, rest, _, session, payload, position, completed⟩
    refine Nat.le_trans ?_ before
    unfold admitted
    rw [completed]
    simpa using accepts_rest cqe rest

theorem server_goes (order : SectorWorld.CallOrder) (running : Running system) :
    ∃ next, system.step (.server order) = some next := by
  rw [step_server]
  unfold System.serverStep
  cases now : system.position with
  | raised exception => exact absurd now (running exception)
  | draining => cases system.completed <;> exact ⟨_, rfl⟩
  | _ => exact ⟨_, rfl⟩

/-- Steps of the loop alone, each with iteration orders of its own. -/
def loopSteps (orders : Nat → SectorWorld.CallOrder) (count : Nat) : List Server.Label :=
  (List.range count).map fun index => .server (orders index)

/-- Left alone, the loop ends at its wait or with an exception. -/
theorem turn_ends (reached : Reachable System.step (System.start config poolSize) system)
    (unwrapped : admitted system ≤ 2 ^ 64) (orders : Nat → SectorWorld.CallOrder) :
    ∃ count last, run System.step system (loopSteps orders count) = some last ∧
      count ≤ work system ∧ ((∃ exception, last.position = .raised exception) ∨ Waits last) ∧
        Reachable System.step (System.start config poolSize) last ∧ admitted last ≤ 2 ^ 64 := by
  let invariant := fun state : System =>
    Reachable System.step (System.start config poolSize) state ∧ admitted state ≤ 2 ^ 64
  let rest := fun state : System => (∃ exception, state.position = .raised exception) ∨ Waits state
  have goes : ∀ index state, invariant state → ¬rest state →
      ∃ next, state.step (.server (orders index)) = some next ∧ invariant next ∧
        work next < work state := by
    rintro index state ⟨before, small⟩ busy
    rcases server_goes (orders index) fun exception raised => busy (Or.inl ⟨exception, raised⟩)
      with ⟨next, taken⟩
    have server := (step_server state (orders index)).symm.trans taken
    refine ⟨next, taken, ⟨before.next taken, ?_⟩, ?_⟩
    · exact (admitted_server (coherent_reachable before) server).trans small
    · exact work_step before ((Nat.le_add_right _ _).trans small)
        (fun waits => busy (Or.inr waits)) taken
  rcases stream_to_rest goes (⟨reached, unwrapped⟩ : invariant system) with
    ⟨count, last, ran, rests, after, short⟩
  exact ⟨count, last, ran, short, rests, after⟩

/-- However a turn goes on, what the kernel and the workers bring pays for it; left
alone, the loop comes back to its wait and has handled everything. -/
structure ComesBack (system : System) : Prop where
  bounded : ∀ labels last, run System.step system labels = some last →
    last.nextSessionGeneration ≤ 2 ^ 64 →
      EveryStep System.step (fun source _ _ => ¬Waits source) system labels →
        (labels.map spent).sum ≤ work system + (labels.map brings).sum
  returns : ∀ orders, ∃ count last, run System.step system (loopSteps orders count) = some last ∧
    count ≤ work system ∧ ((∃ exception, last.position = .raised exception) ∨ (Waits last ∧
      ∀ ref session, last.live ref = some session → session.closeAfterFlush = false →
        newline ∉ session.input))

/-- From every state that the server can reach, the loop comes back to its wait. -/
theorem loop_comes_back (reached : Reachable System.step (System.start config poolSize) system)
    (unwrapped : admitted system ≤ 2 ^ 64) : ComesBack system := by
  constructor
  · intro labels last ran small every
    have pays : PaysWithin System.step
        (fun source _ _ => ¬Waits source ∧ source.nextSessionGeneration ≤ 2 ^ 64)
        (fun state count => Reachable System.step (System.start config poolSize) state ∧
          work state = count) spent brings := by
      rintro source label next _ ⟨busy, fits⟩ ⟨before, rfl⟩ taken
      exact ⟨_, ⟨before.next taken, rfl⟩, work_step before fits busy taken⟩
    have guarded : EveryStep System.step
        (fun source _ _ => ¬Waits source ∧ source.nextSessionGeneration ≤ 2 ^ 64) system labels := by
      intro front label back source target split earlier taken
      refine ⟨every front label back source target split earlier taken, ?_⟩
      rw [split, run_append, earlier] at ran
      rcases reached with ⟨start, here⟩
      have there : Reachable System.step (System.start config poolSize) source := by
        refine ⟨start ++ front, ?_⟩
        rw [run_append, here]
        exact earlier
      exact (generations_grow there ran).trans small
    rcases run_cost_within pays ⟨reached, rfl⟩ guarded ran with ⟨_, _, paid⟩
    omega
  · intro orders
    rcases turn_ends reached unwrapped orders with ⟨count, last, ran, short, rests, there, small⟩
    refine ⟨count, last, ran, short, rests.imp_right fun waits => ⟨waits, ?_⟩⟩
    intro ref session alive open_
    have running : Running last := fun exception raised => by
      cases waits.1.symm.trans raised
    refine no_line_waits there ((Nat.le_add_right _ _).trans small) running ?_ alive open_
    rw [waits.1]
    exact (Option.some_ne_none ref).symm

end

/-- A client connects and sends two lines and the beginning of a third one. -/
def twoLines : List Server.Label :=
  [.tick, .accept 0 5, .tick, .tick, .tick, .tick, .tick,
    .recv 2 (ascii "LOGIN a\nMOVE 1 1\nQU")]

theorem loop_comes_back_two :
    ∃ system, run System.step (System.start .default 1) twoLines = some system ∧
      work system = 6 ∧ ComesBack system := by
  have ends : (run System.step (System.start .default 1) twoLines).any (fun system =>
      decide (work system = 6 ∧ admitted system ≤ 2 ^ 64)) = true := by
    decide
  rcases Option.any_eq_true _ _ |>.mp ends with ⟨system, ran, holds⟩
  rcases of_decide_eq_true holds with ⟨amount, small⟩
  exact ⟨system, ran, amount, loop_comes_back ⟨twoLines, ran⟩ small⟩

end DungeonPortfolio.Turns
