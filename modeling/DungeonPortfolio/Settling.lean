import DungeonPortfolio.Replies
import DungeonPortfolio.Shutdown
import DungeonPortfolio.Turns
import DungeonPortfolio.Wakeups

/-!
# Every request can be answered

From wherever the process is, unless an exception has left `run()`, its own steps
answer what has been asked: the loop handles what has arrived and waits, the workers
complete what is in the queue, the poll wakes the loop and the loop collects the
completions. What a session leaves behind when it is closed there is one more job,
which nobody waits for and which a second round settles.
-/

namespace DungeonPortfolio.Settling

open DungeonPortfolio.Text DungeonPortfolio.World DungeonPortfolio.Dispatcher
open DungeonPortfolio.Server DungeonPortfolio.ServerActs DungeonPortfolio.ServerResponses
open DungeonPortfolio.ServerSteps DungeonPortfolio.Sessions DungeonPortfolio.Requests
open DungeonPortfolio.NoStall DungeonPortfolio.LineFraming DungeonPortfolio.Wakeups DungeonPortfolio.Turns
open DungeonPortfolio.Schema DungeonPortfolio.Statements DungeonPortfolio.Connection
open DungeonPortfolio.Workers DungeonPortfolio.ExactlyOnce DungeonPortfolio.Dispatching
open DungeonPortfolio.Progress DungeonPortfolio.Program DungeonPortfolio.Replies
open Library.Execution Library.Doorbell Library.Progress

set_option autoImplicit false

/-- No job has been submitted that a client waits for. -/
structure Unasked (database later : DbDispatcher) : Prop where
  held : later.held = database.held
  unsignalled : later.unsignalled = database.unsignalled
  jobs : ∃ more, later.jobs.items = database.jobs.items ++ more ∧
    ∀ job ∈ more, job.notifyClient = false

theorem unasked_same {database later : DbDispatcher} (same : later = database) :
    Unasked database later := by
  rw [same]
  exact ⟨rfl, rfl, [], (List.append_nil _).symm, fun job listed => by cases listed⟩

theorem Unasked.trans {first second third : DbDispatcher} (before : Unasked first second)
    (after : Unasked second third) : Unasked first third := by
  rcases before.jobs with ⟨early, queued, quiet⟩
  rcases after.jobs with ⟨more, grown, still⟩
  refine ⟨after.held.trans before.held, after.unsignalled.trans before.unsignalled, early ++ more, ?_, ?_⟩
  · rw [grown, queued, List.append_assoc]
  · intro job listed
    rcases List.mem_append.mp listed with one | other
    · exact quiet job one
    · exact still job other

theorem get_sqe_database (system : System) : system.getSqe.database = system.database :=
  (get_sqe_undisturbed system).database

theorem post_send_database (system : System) (fd : Int) :
    (system.postSend fd).database = system.database := by
  unfold System.postSend
  split
  · rfl
  · split
    · rfl
    · rfl
    · exact get_sqe_database _

theorem queue_response_database (system : System) (ref : SessionRef) (line : ServerLine) :
    (system.queueResponse ref line).database = system.database := by
  unfold System.queueResponse
  split
  · rfl
  · exact post_send_database _ ref.fd

theorem deliver_database (system : System) (events : List WorldEvent) :
    (system.deliverWorldEvents events).database = system.database := by
  induction events generalizing system with
  | nil => rfl
  | cons event rest ih =>
      exact (ih _).trans (queue_response_database system event.receiver (.world event.line))

theorem unasked_submit {job : DbJob} (database : DbDispatcher) (quiet : job.notifyClient = false) :
    Unasked database (database.submit job) := by
  refine ⟨rfl, rfl, ?_⟩
  cases closed : database.jobs.closed with
  | true =>
      refine ⟨[], ?_, fun other listed => by cases listed⟩
      simp [DbDispatcher.submit, BlockingQueue.push, closed]
  | false =>
      refine ⟨[job], ?_, fun other listed => by rw [List.mem_singleton.mp listed, quiet]⟩
      simp [DbDispatcher.submit, BlockingQueue.push, closed]

theorem unasked_leave_world (system : System) (order : SectorWorld.CallOrder) (ref : SessionRef) :
    Unasked system.database (system.leaveWorld order ref).database := by
  rw [leave_world_eq]
  have delivered := unasked_same (deliver_database
    (system.setWorld (system.world.call order (.leave ref)).1)
    (system.world.call order (.leave ref)).2)
  refine delivered.trans ?_
  unfold saveSnapshot
  split
  · exact unasked_same rfl
  · exact unasked_submit _ rfl

theorem unasked_maybe_close (system : System) (order : SectorWorld.CallOrder) (fd : Int) :
    Unasked system.database (system.maybeCloseAfterFlush order fd).database := by
  unfold System.maybeCloseAfterFlush System.closeSession
  split
  · exact unasked_same rfl
  · split
    · split
      · exact unasked_same rfl
      · exact unasked_leave_world system order _
    · exact unasked_same rfl

section

variable {first system next : System} {order : SectorWorld.CallOrder}

theorem collects_one {completion : DbCompletion} {rest : List DbCompletion}
    (completions : system.database.completions = completion :: rest) :
    Unasked system.database (system.handleCompletion order).database ∧
      (completion.notifyClient = false →
        (system.handleCompletion order).database.jobs = system.database.jobs) := by
  have popped : Unasked system.database (ServerActs.popCompletion system completion rest).database :=
    ⟨rfl, rfl, [], (List.append_nil _).symm, fun job listed => by cases listed⟩
  unfold System.handleCompletion
  rw [completions]
  simp only
  split_ifs with notify
  · refine ⟨popped.trans ?_, fun quiet => absurd (quiet.symm.trans notify) Bool.false_ne_true⟩
    split
    · exact unasked_same rfl
    · rename_i session alive
      refine Unasked.trans (unasked_same ?_) (unasked_maybe_close _ order completion.client.fd)
      rw [queue_response_database]
      split_ifs <;> rfl
  · exact ⟨popped, fun _ => rfl⟩

/-- Where the loop stands between the poll that woke it and its wait. -/
inductive Stage (system : System) : Prop
  | fired (cqe : Cqe) (position : system.position = .submitting ∨ system.position = .draining)
      (completed : system.completed = [cqe]) (token : cqe.operation.token = .databaseEvent)
  | collecting (position : system.position = .completing) (completed : system.completed = [])
  | collected (position : system.position = .draining ∨ system.position = .submitting)
      (completed : system.completed = []) (empty : system.database.completions = [])

structure Collecting (first system : System) : Prop where
  stage : Stage system
  unasked : Unasked first.database system.database
  fewer : ∀ completion ∈ system.database.completions, completion ∈ first.database.completions
  quiet : (∀ completion ∈ first.database.completions, completion.notifyClient = false) →
    system.database.jobs.items = first.database.jobs.items

theorem Collecting.on (collecting : Collecting first system) (stage : Stage next)
    (held : next.database.held = system.database.held)
    (unsignalled : next.database.unsignalled = system.database.unsignalled)
    (jobs : next.database.jobs = system.database.jobs)
    (completions : next.database.completions = system.database.completions) :
    Collecting first next := by
  refine ⟨stage, collecting.unasked.trans ⟨held, unsignalled, [], ?_, ?_⟩, ?_, ?_⟩
  · rw [jobs, List.append_nil]
  · intro job listed
    cases listed
  · rw [completions]
    exact collecting.fewer
  · rw [jobs]
    exact collecting.quiet

theorem collecting_step (collecting : Collecting first system) (busy : ¬Waits system)
    (taken : system.serverStep order = some next) : Collecting first next := by
  cases server_step_cases taken with
  | submitting position =>
      have filled : system.completed ≠ [] := fun empty => busy ⟨position, empty⟩
      cases collecting.stage with
      | fired cqe _ completed token =>
          exact collecting.on (.fired cqe (Or.inr rfl) completed token) rfl rfl rfl rfl
      | collecting _ completed => exact absurd completed filled
      | collected _ completed => exact absurd completed filled
  | drained position completed =>
      cases collecting.stage with
      | fired cqe _ there => cases completed.symm.trans there
      | collecting there => cases position.symm.trans there
      | collected _ _ empty =>
          exact collecting.on (.collected (Or.inr rfl) completed empty) rfl rfl rfl rfl
  | draining cqe rest position completed =>
      cases collecting.stage with
      | fired other _ there token =>
          rcases List.cons.inj (completed.symm.trans there) with ⟨rfl, rfl⟩
          simp only [System.handleCqe, token]
          exact collecting.on (.collecting rfl rfl) rfl rfl rfl rfl
      | collecting there => cases position.symm.trans there
      | collected _ there => cases completed.symm.trans there
  | completing position =>
      have empty : system.completed = [] := by
        cases collecting.stage with
        | fired cqe there =>
            rcases there with submitting | draining
            · cases position.symm.trans submitting
            · cases position.symm.trans draining
        | collecting _ completed => exact completed
        | collected _ completed => exact completed
      cases completions : system.database.completions with
      | nil =>
          have parked : system.handleCompletion order =
              { system.postEventfdPoll with position := .draining } := by
            simp only [System.handleCompletion, completions]
          have room := aside_get_sqe system
          have same : system.getSqe.database = system.database := get_sqe_database system
          rw [parked]
          refine collecting.on (.collected (Or.inl rfl) (room.completed.trans empty) ?_) ?_ ?_ ?_ ?_
          · exact room.completions.trans completions
          · exact congrArg DbDispatcher.held same
          · exact congrArg DbDispatcher.unsignalled same
          · exact congrArg DbDispatcher.jobs same
          · exact room.completions
      | cons completion rest =>
          have aside : Aside _ (system.handleCompletion order) := aside_completion completions
          have stands : (system.handleCompletion order).completed = [] := aside.completed.trans empty
          have left : (system.handleCompletion order).database.completions = rest :=
            aside.completions
          rcases @collects_one system order completion rest completions with ⟨asks, quietly⟩
          have member : completion ∈ first.database.completions := by
            apply collecting.fewer
            rw [completions]
            exact List.mem_cons_self
          refine ⟨.collecting (aside.position.trans position) stands,
            collecting.unasked.trans asks, ?_, ?_⟩
          · intro other listed
            apply collecting.fewer
            rw [completions]
            exact List.mem_cons_of_mem _ (left ▸ listed)
          · intro quiet
            rw [quietly (quiet completion member)]
            exact collecting.quiet quiet
  | opened ref position | reaccepting position | framing ref position | framed ref position =>
      cases collecting.stage with
      | fired cqe there =>
          rcases there with submitting | draining
          · cases position.symm.trans submitting
          · cases position.symm.trans draining
      | collecting there => cases position.symm.trans there
      | collected there =>
          rcases there with draining | submitting
          · cases position.symm.trans draining
          · cases position.symm.trans submitting

end

def Alone : Server.Label → Prop
  | .server _ | .poll _ => True
  | .accept _ _ | .recv _ _ | .send _ _ | .fail _ _ | .take | .finish _ _ _ | .signal => False

abbrev LoopLeads : System → System → Prop := Leads System.step fun _ label => Alone label

theorem loop_next {system middle last : System} {label : Server.Label}
    (leads : LoopLeads system middle) (taken : middle.step label = some last)
    (alone : Alone label) : LoopLeads system last :=
  Leads.next leads alone taken

/-- The loop has submitted what was prepared and has found nothing. -/
def lookedAgain (system : System) : System := { system.submit with position := .submitting }

section

variable {config : ServerConfig} {poolSize : Nat} {system : System}

theorem reachable_of_leads {last : System}
    (reached : Reachable System.step (System.start config poolSize) system)
    (leads : LoopLeads system last) : Reachable System.step (System.start config poolSize) last :=
  leads.invariant reached fun _ _ _ before _ taken => before.next taken

theorem rearmed (reached : Reachable System.step (System.start config poolSize) system)
    (waits : Waits system) :
    LoopLeads system (lookedAgain system) ∧ pollsArmed (lookedAgain system) ≠ 0 := by
  have order : SectorWorld.CallOrder := fun _ => .ascending
  have look : system.step (.server order) = some { system.submit with position := .draining } := by
    rw [step_server]
    simp only [System.serverStep, waits.1]
  have empty : system.submit.completed = [] := waits.2
  have back : ({ system.submit with position := .draining } : System).step (.server order) =
      some (lookedAgain system) := by
    rw [step_server]
    simp only [System.serverStep, lookedAgain, empty]
  have leads := loop_next (loop_next (leads_refl system) look trivial) back trivial
  refine ⟨leads, fun unarmed => ?_⟩
  have watched := (wired_reachable (reachable_of_leads reached leads)).watched
  have unfired : pollsFired (lookedAgain system) = 0 := by
    rw [pollsFired, show (lookedAgain system).completed = [] from empty]
    rfl
  have unprepared : pollsPrepared (lookedAgain system) = 0 := rfl
  unfold Watched at watched
  rw [unfired, unprepared, unarmed] at watched
  cases watched

/-- Where completions wait and every worker has written, the armed poll fires. -/
theorem poll_fires (reached : Reachable System.step (System.start config poolSize) system)
    (position : system.position = .submitting) (armed : pollsArmed system ≠ 0)
    (told : system.database.unsignalled = 0)
    (filled : system.database.completions ≠ []) : ∃ index cqe, cqe.operation.token = .databaseEvent ∧
      system.step (.poll index) = some (system.complete index cqe) := by
  have wired := wired_reachable reached
  have rung : 0 < system.database.eventCount := by
    apply Nat.pos_of_ne_zero
    intro silent
    apply filled
    apply shelf_empty wired.rung (watch_armed wired.watched armed) _ told
    have zero : min system.database.eventCount eventLimit = 0 := by
      rw [silent]
      exact Nat.zero_min eventLimit
    simp [Library.Doorbell.step, doorbell, zero]
  have listed : CompletionToken.databaseEvent ∈ system.inFlight.map Operation.token :=
    List.count_pos_iff.mp (Nat.pos_of_ne_zero armed)
  rcases List.mem_map.mp listed with ⟨⟨token, connection⟩, flying, rfl⟩
  rcases List.getElem?_of_mem flying with ⟨index, found⟩
  refine ⟨index, ⟨⟨.databaseEvent, connection⟩, 1, []⟩, rfl, ?_⟩
  simp only [System.step, position, System.kernelPoll, found, if_pos rung]

/-- What the loop leaves of the dispatcher when it has collected its completions. -/
structure Collected (first system : System) : Prop where
  waits : Waits system
  empty : system.database.completions = []
  unasked : Unasked first.database system.database
  quiet : (∀ completion ∈ first.database.completions, completion.notifyClient = false) →
    system.database.jobs.items = first.database.jobs.items

theorem collected_of_collecting {first : System} (collecting : Collecting first system)
    (waits : Waits system) : Collected first system := by
  refine ⟨waits, ?_, collecting.unasked, collecting.quiet⟩
  cases collecting.stage with
  | fired cqe _ completed => cases completed.symm.trans waits.2
  | collecting position => cases position.symm.trans waits.1
  | collected _ _ empty => exact empty

theorem collects (reached : Reachable System.step (System.start config poolSize) system)
    (unwrapped : admitted system ≤ 2 ^ 64) {first : System} (collecting : Collecting first system) :
    ∃ last, LoopLeads system last ∧ Collected first last ∧ admitted last ≤ 2 ^ 64 := by
  have order : SectorWorld.CallOrder := fun _ => .ascending
  let invariant := fun state : System =>
    Reachable System.step (System.start config poolSize) state ∧ admitted state ≤ 2 ^ 64 ∧
      Collecting first state
  let chosen := fun (state : System) (label : Server.Label) => label = .server order ∧ ¬Waits state
  have moves : ∀ state, invariant state → ¬Waits state →
      ∃ label next, chosen state label ∧ state.step label = some next := by
    rintro state ⟨_, _, within⟩ busy
    have running : Running state := by
      intro exception raised
      cases within.stage with
      | fired cqe position =>
          rcases position with submitting | draining
          · cases raised.symm.trans submitting
          · cases raised.symm.trans draining
      | collecting position => cases raised.symm.trans position
      | collected position =>
          rcases position with draining | submitting
          · cases raised.symm.trans draining
          · cases raised.symm.trans submitting
    rcases server_goes order running with ⟨next, taken⟩
    exact ⟨.server order, next, ⟨rfl, busy⟩, taken⟩
  have kept : ∀ source label target, invariant source → chosen source label →
      source.step label = some target → invariant target := by
    rintro source _ target ⟨before, small, within⟩ ⟨rfl, busy⟩ taken
    have server := (step_server source order).symm.trans taken
    exact ⟨before.next taken, (admitted_server (coherent_reachable before) server).trans small,
      collecting_step within busy server⟩
  have drops : ∀ source label target before, invariant source → chosen source label →
      work source = before → source.step label = some target →
        ∃ after < before, work target = after := by
    rintro source _ target _ ⟨before, small, _⟩ ⟨rfl, busy⟩ rfl taken
    exact ⟨_, work_step before ((Nat.le_add_right _ _).trans small) busy taken, rfl⟩
  rcases leads_to_rest moves kept drops (⟨reached, unwrapped, collecting⟩ : invariant system) rfl
    with ⟨last, ⟨labels, ran, every⟩, waits, _, small, within⟩
  refine ⟨last, ⟨labels, ran, ?_⟩, collected_of_collecting within waits, small⟩
  intro front label back source target split earlier taken
  rw [(every front label back source target split earlier taken).1]
  trivial

/-- A loop that waits collects what the workers have completed. -/
theorem loop_collects (reached : Reachable System.step (System.start config poolSize) system)
    (unwrapped : admitted system ≤ 2 ^ 64) (waits : Waits system)
    (told : system.database.unsignalled = 0) :
    ∃ last, LoopLeads system last ∧ Collected system last ∧ admitted last ≤ 2 ^ 64 := by
  by_cases empty : system.database.completions = []
  · exact ⟨system, leads_refl system, ⟨waits, empty, unasked_same rfl, fun _ => rfl⟩, unwrapped⟩
  · rcases rearmed reached waits with ⟨looked, armed⟩
    have there := reachable_of_leads reached looked
    rcases poll_fires there rfl armed told empty with ⟨index, cqe, token, taken⟩
    have woken := loop_next looked taken trivial
    have alone : ((lookedAgain system).complete index cqe).completed = [cqe] := by
      change system.completed ++ [cqe] = [cqe]
      rw [waits.2, List.nil_append]
    have small : admitted ((lookedAgain system).complete index cqe) ≤ 2 ^ 64 := by
      have nobody : accepts [cqe] = 0 := by simp [accepts, token]
      rw [admitted, alone, nobody]
      exact (Nat.le_add_right _ _).trans unwrapped
    have begins : Collecting system ((lookedAgain system).complete index cqe) :=
      ⟨.fired cqe (Or.inl rfl) alone token, unasked_same rfl, fun _ listed => listed, fun _ => rfl⟩
    rcases collects (reachable_of_leads reached woken) small begins with ⟨last, more, collected, fits⟩
    exact ⟨last, woken.trans more, collected, fits⟩

end

section

variable {system : System}

/-- All that was asked for has been handled, and who is still there has been told. -/
structure AllAnswered (system : System) : Prop where
  handled : (issued system.history).Perm (handled system.history)
  nobodyWaits : ∀ ref session, system.live ref = some session → session.pendingDb = 0
  told : ∀ ref, system.live ref ≠ none →
    (asked system.history ref).Perm (told system.history ref)

theorem all_answered {config : ServerConfig} {poolSize : Nat}
    (reached : Reachable System.step (System.start config poolSize) system)
    (unwrapped : Unwrapped system) (nothing : pipeline system.database = []) : AllAnswered system := by
  have accounted := Requests.accounted_reachable reached unwrapped
  have settled : (issued system.history).Perm (handled system.history) := by
    have balanced := accounted.balanced
    rw [nothing, Library.Ledger.Balanced, List.append_nil] at balanced
    exact balanced
  refine ⟨settled, ?_, ?_⟩
  · intro ref session alive
    rw [accounted.counted ref session alive, nothing]
    rfl
  · intro ref alive
    rw [asked_of_issued accounted ref,
      (reply_reachable reached unwrapped ref).complete (live_ne_none.mp alive)]
    exact (settled.filter _).map Ticket.address

end

/-- What the process does without its clients: the steps of the loop, the poll, and
the steps of workers that can go on. -/
def Due (process : Process) : Program.Label → Prop
  | .ring label => Alone label
  | .worker index chosen =>
      index < process.pool.poolSize ∧ chosen = proceed (process.pool.workers index)
  | .unwind | .close | .join => False

abbrev ProcessLeads (mysql : Mysql) : Process → Process → Prop := Leads (Program.step mysql) Due

section

variable {mysql : Mysql} {config : ServerConfig} {poolSize : Nat} {tables : Tables}
variable {process : Process}

theorem ring_leads {after : System} (leads : LoopLeads process.system after) :
    ∃ last, ProcessLeads mysql process last ∧ last.system = after := by
  rcases leads with ⟨labels, ran, every⟩
  induction labels using List.reverseRecOn generalizing after with
  | nil => exact ⟨process, leads_refl process, Option.some.inj ran⟩
  | append_singleton labels label ih =>
      obtain ⟨system, earlier, taken⟩ := (run_snoc_eq_some _).mp ran
      rcases every_step_snoc.mp every with ⟨before, last⟩
      rcases ih earlier before with ⟨middle, lead, rfl⟩
      have alone : Alone label := last middle.system after earlier taken
      have own : isWorkers label = false := by
        cases label with
        | server | poll => rfl
        | accept | recv | send | fail | take | finish | signal => exact alone.elim
      have moved : Program.step mysql middle (.ring label) = some { middle with
          system := after, pool := serve middle.pool middle.system after } := by
        simp only [Program.step, own, Bool.false_eq_true, if_false, taken, Option.map_some]
      have due : Due middle (.ring label) := alone
      exact ⟨_, Leads.next lead due moved, rfl⟩

theorem system_reached
    (reached : Reachable (Program.step mysql) (Program.start config poolSize tables) process)
    (running : hasRaised process.system = false) :
    Reachable System.step (System.start config poolSize) process.system := by
  rcases reached with ⟨labels, ran⟩
  rcases loop_run ran with ⟨moves, shadow, followed, loop⟩
  rw [loop.running ((raised_of_loop loop).symm.trans running)]
  exact ⟨moves, followed⟩

theorem not_raised_of_waits (waits : Waits process.system) : hasRaised process.system = false := by
  rw [hasRaised, waits.1]

theorem pool_reached
    (reached : Reachable (Program.step mysql) (Program.start config poolSize tables) process) :
    ∃ moves, run (Workers.step mysql) (Pool.start poolSize tables) moves = some process.pool := by
  rcases reached with ⟨labels, ran⟩
  rcases pool_run (fun _ => True) (fun _ _ => trivial) (fun label _ => by cases label <;> trivial)
    ran with ⟨moves, followed, _⟩
  exact ⟨moves, followed⟩

/-- Nobody waits for what is still in the dispatcher. -/
structure Quiet (database : DbDispatcher) : Prop where
  queued : ∀ job ∈ database.jobs.items, job.notifyClient = false
  held : ∀ job ∈ database.held, job.notifyClient = false
  completions : ∀ completion ∈ database.completions, completion.notifyClient = false

theorem quiet_seen {database later : DbDispatcher} (quiet : Quiet database)
    (seen : Seen database later) : Quiet later := by
  cases seen with
  | unseen same =>
      rw [same]
      exact quiet
  | take taken =>
      unfold DbDispatcher.take at taken
      split at taken
      · cases taken
      · rename_i job rest waiting
        split_ifs at taken
        cases taken
        refine ⟨fun other listed => ?_, fun other listed => ?_, quiet.completions⟩
        · exact quiet.queued other (waiting ▸ List.mem_cons_of_mem _ listed)
        · rcases List.mem_append.mp listed with earlier | now
          · exact quiet.held other earlier
          · rw [List.mem_singleton.mp now]
            exact quiet.queued job (waiting ▸ List.mem_cons_self)
  | finish index ok line finished =>
      unfold DbDispatcher.finish at finished
      split at finished
      · cases finished
      · rename_i job working
        cases finished
        refine ⟨quiet.queued, fun other listed => ?_, fun other listed => ?_⟩
        · exact quiet.held other (List.mem_of_mem_eraseIdx listed)
        · rcases List.mem_append.mp listed with earlier | now
          · exact quiet.completions other earlier
          · rw [List.mem_singleton.mp now]
            exact quiet.held job (List.mem_of_getElem? working)
  | signal signalled =>
      unfold DbDispatcher.signal at signalled
      split_ifs at signalled
      cases signalled
      exact ⟨quiet.queued, quiet.held, quiet.completions⟩

/-- The workers have nothing in hand and nothing to write. -/
structure Rested (database : DbDispatcher) : Prop where
  queue : database.jobs.items = []
  held : database.held = []
  told : database.unsignalled = 0

theorem rested_of_rest {pool : Pool} (working : Working pool) (positive : 0 < pool.poolSize)
    (rest : AtRest pool) : Rested (dispatcherOf pool) := by
  have done := done_of_rest working positive rest
  have nothing : unanswered pool = [] := by
    apply List.eq_nil_iff_forall_not_mem.mpr
    intro popped listed
    rcases (mem_unanswered working.accounted).mp listed with ⟨index, bound, held⟩
    cases (holds_of_rest rest bound).symm.trans held
  refine ⟨done.queue, ?_, ?_⟩
  · rw [dispatcherOf, nothing, List.map_nil]
  · apply List.countP_eq_zero.mpr
    intro index listed
    have told := done.told index (List.mem_range.mp listed)
    unfold owesSignal
    cases phase : (pool.workers index).phase with
    | signalling => exact absurd phase told
    | popping | connecting | executing | exited => exact Bool.false_ne_true

def Works (process : Process) (label : Program.Label) : Prop :=
  ∃ index < process.pool.poolSize, label = .worker index (proceed (process.pool.workers index))

theorem due_of_works (process : Process) (label : Program.Label) (works : Works process label) :
    Due process label := by
  rcases works with ⟨index, bound, rfl⟩
  exact ⟨bound, rfl⟩

/-- What the workers leave behind. -/
structure Worked (process last : Process) : Prop where
  loop : last.system = process.system.setDatabase last.system.database
  rested : Rested last.system.database
  quiet : Quiet process.system.database → Quiet last.system.database

theorem workers_lead (positive : 0 < poolSize)
    (reached : Reachable (Program.step mysql) (Program.start config poolSize tables) process) :
    ∃ last, ProcessLeads mysql process last ∧ Worked process last := by
  let invariant := fun state : Process =>
    Reachable (Program.step mysql) (Program.start config poolSize tables) state ∧
      state.system = process.system.setDatabase state.system.database ∧
        (Quiet process.system.database → Quiet state.system.database)
  have working : ∀ state, invariant state → Working state.pool ∧ 0 < state.pool.poolSize ∧
      state.system.database = dispatcherOf state.pool := by
    rintro state ⟨there, _, _⟩
    rcases pool_reached there with ⟨moves, followed⟩
    rcases there with ⟨labels, ran⟩
    refine ⟨working_run followed, ?_, (standing_run ran).database⟩
    rw [(accepted_run followed).1]
    exact positive
  have moves : ∀ state, invariant state → ¬AtRest state.pool →
      ∃ label next, Works state label ∧ Program.step mysql state label = some next := by
    intro state holds busy
    rcases moves_of_working mysql state.pool (working state holds).1 busy with
      ⟨_, pool, ⟨index, bound, rfl⟩, taken⟩
    refine ⟨.worker index (proceed (state.pool.workers index)), { state with
      system := state.system.setDatabase (dispatcherOf pool), pool }, ⟨index, bound, rfl⟩, ?_⟩
    simp only [Program.step, taken, Option.map_some]
  have kept : ∀ source label target, invariant source → Works source label →
      Program.step mysql source label = some target → invariant target := by
    rintro source _ target holds ⟨index, bound, rfl⟩ taken
    rcases working source holds with ⟨works, _, seen⟩
    rcases holds with ⟨there, loop, quiet⟩
    refine ⟨there.next taken, ?_⟩
    rcases Option.map_eq_some_iff.mp taken with ⟨pool, moved, rfl⟩
    refine ⟨?_, fun before => ?_⟩
    · simp only
      rw [loop]
      rfl
    · have acted := (if_pos bound).symm.trans moved
      exact quiet_seen (seen ▸ quiet before) (seen_worker works.accounted bound acted)
  have drops : ∀ source label target before, invariant source → Works source label →
      Left source.pool before → Program.step mysql source label = some target →
        ∃ less < before, Left target.pool less := by
    rintro source _ target before holds ⟨index, bound, rfl⟩ left taken
    rcases Option.map_eq_some_iff.mp taken with ⟨pool, moved, rfl⟩
    exact proceeding_drops mysql source.pool _ pool before (working source holds).1
      ⟨index, bound, rfl⟩ left moved
  have begins : invariant process := ⟨reached, rfl, id⟩
  rcases pool_reached reached with ⟨before, followed⟩
  rcases run_cost (left_pays mysql) (left_start poolSize tables) followed with ⟨count, left, _⟩
  rcases @leads_to_rest _ _ _ (fun state => Left state.pool) Works invariant _ moves kept drops count
    process begins left with ⟨last, leads, rest, holds⟩
  rcases working last holds with ⟨works, sized, seen⟩
  refine ⟨last, leads.mono due_of_works, holds.2.1, ?_, holds.2.2⟩
  rw [seen]
  exact rested_of_rest works sized rest

/-- The loop waits and has collected everything; nobody waits for what it has asked
for since. -/
structure Round (process last : Process) : Prop where
  waits : Waits last.system
  empty : last.system.database.completions = []
  held : last.system.database.held = []
  told : last.system.database.unsignalled = 0
  quiet : ∀ job ∈ last.system.database.jobs.items, job.notifyClient = false
  last : Quiet process.system.database → last.system.database.jobs.items = []

/-- The workers complete what there is, and the loop collects it. -/
theorem round (positive : 0 < poolSize)
    (reached : Reachable (Program.step mysql) (Program.start config poolSize tables) process)
    (waits : Waits process.system) (unwrapped : admitted process.system ≤ 2 ^ 64) :
    ∃ last, ProcessLeads mysql process last ∧ Round process last ∧
      admitted last.system ≤ 2 ^ 64 := by
  rcases workers_lead positive reached with ⟨middle, worked, done⟩
  have there : Reachable (Program.step mysql) (Program.start config poolSize tables) middle :=
    worked.invariant reached fun _ _ _ before _ taken => before.next taken
  have still : Waits middle.system := by
    rw [done.loop]
    exact waits
  have small : admitted middle.system ≤ 2 ^ 64 := by
    rw [done.loop]
    exact unwrapped
  rcases loop_collects (system_reached there (not_raised_of_waits still)) small still done.rested.told
    with ⟨system, leads, collected, fits⟩
  rcases ring_leads leads with ⟨last, collects, rfl⟩
  rcases collected.unasked with ⟨held, unsignalled, more, queued, quietly⟩
  have none_left := done.rested.queue
  refine ⟨last, worked.trans collects, ⟨collected.waits, collected.empty,
    held.trans done.rested.held, unsignalled.trans done.rested.told, ?_, ?_⟩, fits⟩
  · rw [queued, none_left, List.nil_append]
    exact quietly
  · intro before
    rw [collected.quiet (done.quiet before).completions]
    exact none_left

/-- The loop waits, nothing is left to do, and everything that was asked is answered. -/
structure Settled (process : Process) : Prop where
  waits : Waits process.system
  rested : Rested process.system.database
  empty : process.system.database.completions = []
  answered : Unwrapped process.system → AllAnswered process.system

/-- The loop gets to its wait, unless a line that has arrived raises an exception. -/
theorem loop_leads_to_wait
    (reached : Reachable (Program.step mysql) (Program.start config poolSize tables) process)
    (running : hasRaised process.system = false) (unwrapped : admitted process.system ≤ 2 ^ 64) :
    ∃ last, ProcessLeads mysql process last ∧ admitted last.system ≤ 2 ^ 64 ∧
      (hasRaised last.system = true ∨ Waits last.system) := by
  rcases turn_ends (system_reached reached running) unwrapped fun _ _ => .ascending with
    ⟨count, system, ran, _, ends, _, small⟩
  have loop : LoopLeads process.system system := by
    refine ⟨_, ran, every_step_of_labels fun label listed => ?_⟩
    rcases List.mem_map.mp listed with ⟨index, _, rfl⟩
    trivial
  rcases ring_leads loop with ⟨last, turned, rfl⟩
  refine ⟨last, turned, small, ends.imp_left ?_⟩
  rintro ⟨exception, raised⟩
  rw [hasRaised, raised]

theorem wait_leads_to_settled (positive : 0 < poolSize)
    (reached : Reachable (Program.step mysql) (Program.start config poolSize tables) process)
    (waits : Waits process.system) (unwrapped : admitted process.system ≤ 2 ^ 64) :
    ∃ last, ProcessLeads mysql process last ∧ Settled last := by
  rcases round positive reached waits unwrapped with ⟨second, collects, one, fits⟩
  have later : Reachable (Program.step mysql) (Program.start config poolSize tables) second :=
    collects.invariant reached fun _ _ _ before _ taken => before.next taken
  rcases round positive later one.waits fits with ⟨last, again, two, _⟩
  have quiet : Quiet second.system.database := by
    refine ⟨one.quiet, ?_, ?_⟩
    · rw [one.held]
      exact nothing_new
    · rw [one.empty]
      exact nothing_new
  have nothing := two.last quiet
  have final : Reachable (Program.step mysql) (Program.start config poolSize tables) last :=
    again.invariant later fun _ _ _ before _ taken => before.next taken
  refine ⟨last, collects.trans again, ⟨two.waits, ⟨nothing, two.held, two.told⟩, two.empty,
    fun small => ?_⟩⟩
  refine all_answered (system_reached final (not_raised_of_waits two.waits)) small ?_
  simp [pipeline, nothing, two.held, two.empty]

/-- From every state of the process in which no exception has left `run()`, however
its clients, faults, workers and the kernel were interleaved, its own steps lead to a
state in which everything is answered, unless a line that has arrived raises one. -/
theorem requests_settle (positive : 0 < poolSize)
    (reached : Reachable (Program.step mysql) (Program.start config poolSize tables) process)
    (running : hasRaised process.system = false) (unwrapped : admitted process.system ≤ 2 ^ 64) :
    ∃ last, ProcessLeads mysql process last ∧
      (hasRaised last.system = true ∨ Settled last) := by
  rcases loop_leads_to_wait reached running unwrapped with ⟨first, turned, small, ends⟩
  have there : Reachable (Program.step mysql) (Program.start config poolSize tables) first :=
    turned.invariant reached fun _ _ _ before _ taken => before.next taken
  rcases ends with raised | waits
  · exact ⟨first, turned, Or.inl raised⟩
  · rcases wait_leads_to_settled positive there waits small with ⟨last, settles, settled⟩
    exact ⟨last, turned.trans settles, Or.inr settled⟩

end

/-- A request is with a worker, and two lines wait behind it. -/
def midway : List Program.Label :=
  [.ring .tick, .ring (.accept 0 5), .ring .tick, .ring .tick, .ring .tick, .ring .tick, .ring .tick,
    .ring (.recv 2 (ascii "REGISTER ada Ada\nENTER ada x 0 0\nQUIT\n")), .ring .tick, .ring .tick,
    .ring .tick, .worker 0 .pop]

theorem requests_settle_midway :
    ∃ process, run (Program.step Mysql.binary) (Program.start .default 2 Tables.empty) midway =
        some process ∧ pendings process.system.history = [(⟨5, 1⟩, 1)] ∧
          answers process.system.history = [] ∧
          ∃ last, ProcessLeads Mysql.binary process last ∧
            (hasRaised last.system = true ∨ Settled last) := by
  have ends : (run (Program.step Mysql.binary) (Program.start .default 2 Tables.empty) midway).any
      (fun process => decide (hasRaised process.system = false ∧ admitted process.system ≤ 2 ^ 64 ∧
        pendings process.system.history = [(⟨5, 1⟩, 1)] ∧
        answers process.system.history = [])) = true := by
    decide
  rcases Option.any_eq_true _ _ |>.mp ends with ⟨process, ran, holds⟩
  rcases of_decide_eq_true holds with ⟨running, small, asked, unanswered⟩
  exact ⟨process, ran, asked, unanswered,
    requests_settle (by decide) ⟨midway, ran⟩ running small⟩

end DungeonPortfolio.Settling
