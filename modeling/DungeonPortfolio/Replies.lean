import DungeonPortfolio.LineFraming
import DungeonPortfolio.Program

/-!
# Who is still there has been answered, and in which order

The DONE and FAIL lines of a session are those of its completions, in the order in
which these were handled, and none is missing as long as the session is in the
table. With one worker the completions are handled in the order of the requests.
-/

namespace DungeonPortfolio.Replies

open DungeonPortfolio.Text DungeonPortfolio.World DungeonPortfolio.Dispatcher
open DungeonPortfolio.Server DungeonPortfolio.ServerActs DungeonPortfolio.ServerSteps
open DungeonPortfolio.Sessions DungeonPortfolio.Requests DungeonPortfolio.LineFraming
open DungeonPortfolio.Schema DungeonPortfolio.Statements DungeonPortfolio.Connection
open DungeonPortfolio.Workers DungeonPortfolio.Program
open Library.Execution

set_option autoImplicit false

/-- The PENDING lines that have been queued to a session. -/
def asked (history : List Server.Event) (ref : SessionRef) : List (SessionRef × Nat) :=
  (pendings history).filter fun address => address.1 = ref

/-- The DONE and FAIL lines that have been queued to a session. -/
def told (history : List Server.Event) (ref : SessionRef) : List (SessionRef × Nat) :=
  (answers history).filter fun address => address.1 = ref

def due (history : List Server.Event) (ref : SessionRef) : List (SessionRef × Nat) :=
  (awaited (handled history) ref).map Ticket.address

structure Reply (system : System) (ref : SessionRef) : Prop where
  ordered : told system.history ref <+: due system.history ref
  complete : generationAt system ref.fd = some ref.generation →
    told system.history ref = due system.history ref

theorem asked_of_issued {system : System} (accounted : Requests.Accounted system) (ref : SessionRef) :
    asked system.history ref = (awaited (issued system.history) ref).map Ticket.address := by
  rw [asked, accounted.announced, List.filter_map, List.filter_filter, awaited]
  congr 1
  apply List.filter_congr
  intro ticket _
  rw [Bool.eq_iff_iff]
  simp only [Function.comp, Ticket.address, Bool.and_eq_true, decide_eq_true_eq]
  exact and_congr_left fun _ => decide_eq_true_iff

theorem told_append (first second : List Server.Event) (ref : SessionRef) :
    told (first ++ second) ref = told first ref ++ told second ref := by
  rw [told, answers_append, List.filter_append]
  rfl

theorem due_append (first second : List Server.Event) (ref : SessionRef) :
    due (first ++ second) ref = due first ref ++ due second ref := by
  rw [due, Requests.handled_append, awaited, List.filter_append, List.map_append]
  rfl

section

variable {system next : System} {ref : SessionRef}

/-- Who is in the table is answered what has been handled for it; who is not is not
answered. -/
theorem Reply.grow (reply : Reply system ref) {events : List Server.Event}
    (history : next.history = system.history ++ events)
    (keys : ∀ fd number, generationAt next fd = some number →
      generationAt system fd = some number)
    (answered : generationAt system ref.fd = some ref.generation → told events ref = due events ref)
    (gone : generationAt system ref.fd ≠ some ref.generation → told events ref = []) :
    Reply next ref := by
  have whole : generationAt system ref.fd = some ref.generation →
      told next.history ref = due next.history ref := by
    intro there
    rw [history, told_append, due_append, reply.complete there, answered there]
  refine ⟨?_, fun there => whole (keys _ _ there)⟩
  by_cases there : generationAt system ref.fd = some ref.generation
  · rw [whole there]
  · rw [history, told_append, due_append, gone there, List.append_nil]
    exact reply.ordered.trans (List.prefix_append _ _)

theorem Reply.frame (reply : Reply system ref) {events : List Server.Event}
    (history : next.history = system.history ++ events) (unanswered : answers events = [])
    (unhandled : handled events = [])
    (keys : ∀ fd number, generationAt next fd = some number →
      generationAt system fd = some number) : Reply next ref := by
  have silent : told events ref = [] := by
    rw [told, unanswered]
    rfl
  have still : due events ref = [] := by
    rw [due, unhandled]
    rfl
  exact reply.grow history keys (fun _ => silent.trans still.symm) fun _ => silent

theorem Reply.still (reply : Reply system ref) (history : next.history = system.history)
    (keys : ∀ fd number, generationAt next fd = some number →
      generationAt system fd = some number) : Reply next ref :=
  reply.frame (history.trans (List.append_nil _).symm) rfl rfl keys

theorem Reply.push (reply : Reply system ref) {other : SessionRef} {session found : Session}
    {line : ServerLine} (direct : answers [.queued other line] = [])
    (alive : system.live other = some found) (same : session.generation = other.generation) :
    Reply (pushLine system other session line) ref :=
  reply.frame (push_line_history _ _ _ line) direct rfl
    (keys_of_push_line line (generation_of_live alive) same)

theorem due_completion (completion : DbCompletion) (ref : SessionRef) :
    due [.handled completion] ref =
      if completion.client = ref ∧ completion.notifyClient = true then
        [(completion.client, completion.requestId)] else [] := by
  by_cases counts : completion.client = ref ∧ completion.notifyClient = true
  · simp [due, handled, handledTicket, awaited, ticketOfCompletion, Ticket.address, counts]
  · rw [if_neg counts]
    simpa [due, handled, handledTicket, awaited, ticketOfCompletion] using counts

theorem told_completion (completion : DbCompletion) (ref : SessionRef) :
    told [.queued completion.client
        (.completion completion.ok completion.requestId completion.line)] ref =
      if completion.client = ref then [(completion.client, completion.requestId)] else [] := by
  by_cases self : completion.client = ref
  · simp [told, answers, answerLine, self]
  · simp [told, answers, answerLine, self]

theorem same_ref {other : SessionRef} (fd : ref.fd = other.fd)
    (generation : ref.generation = other.generation) : ref = other := by
  cases ref
  cases other
  simp_all

theorem reply_act (registered : Registered next) (small : Unwrapped next)
    (accounted : Requests.Accounted system) (reply : Reply system ref)
    (act : ServerActs.Act system next) : Reply next ref := by
  have same : ∀ fd number, generationAt system fd = some number →
      generationAt system fd = some number := fun _ _ there => there
  cases act with
  | submitted | waited | drained | dismissed | refused | recvPosted | acceptPosted | framed
  | worldCalled | parked | recvReposted | awoken | pollPosted => exact reply.still rfl same
  | arrived cqe rest other position completed token succeeded fresh =>
      have unknown : other ∉ acceptedRefs system.history := accepted_is_fresh registered small.1 rfl
      have silent : told [Server.Event.accepted other cqe.operation.connection] ref = [] := rfl
      have still : due [Server.Event.accepted other cqe.operation.connection] ref = [] := rfl
      have history : told (system.history ++ [Server.Event.accepted other cqe.operation.connection])
          ref = told system.history ref ∧ due (system.history ++
            [Server.Event.accepted other cqe.operation.connection]) ref = due system.history ref := by
        rw [told_append, due_append, silent, still, List.append_nil, List.append_nil]
        exact ⟨rfl, rfl⟩
      refine ⟨history.1 ▸ history.2 ▸ reply.ordered, fun there => ?_⟩
      refine history.1.trans (Eq.trans ?_ history.2.symm)
      have found : (if ref.fd = other.fd then some other.generation
          else generationAt system ref.fd) = some ref.generation := by
        rw [← generation_at_set_session system other.fd ref.fd
          ⟨other.generation, [], [], false, false, 0⟩]
        exact there
      split_ifs at found with here
      · have self : ref = other := same_ref here (Option.some.inj found).symm
        have nothing : due system.history ref = [] := by
          rw [due, awaited, List.filter_eq_nil_iff.mpr]
          · rfl
          · intro ticket listed own
            have client : ticket.client = ref := (of_decide_eq_true own).1
            have known := accounted.owned ticket (accounted.balanced.settled_issued listed)
            exact unknown (self ▸ client ▸ known)
        have ordered := reply.ordered
        rw [nothing] at ordered ⊢
        exact List.prefix_nil.mp ordered
      · exact reply.complete found
  | answered other session line alive direct =>
      refine reply.push ?_ alive (live_eq_some.mp alive).2
      cases line with
      | pending => cases direct
      | completion => cases direct
      | _ => rfl
  | received cqe rest other session position completed token alive =>
      exact reply.frame rfl rfl rfl (keys_of_replace _ (generation_of_live alive)
        (live_eq_some.mp alive).2)
  | lineTaken other session line rest position alive
  | raised other session line rest exception position alive =>
      exact reply.frame rfl rfl rfl (keys_of_replace _ (generation_of_live alive)
        (live_eq_some.mp alive).2)
  | saved => exact reply.frame rfl rfl rfl same
  | requested other session operation commandName args alive =>
      have pushed : Reply (pushLine system other { session with
          pendingDb := session.pendingDb + 1 }
          (.pending (counterValue system.nextRequestId) commandName)) ref :=
        reply.push rfl alive (live_eq_some.mp alive).2
      exact pushed.frame rfl rfl rfl fun _ _ there => there
  | closing other session position alive =>
      exact reply.still rfl (keys_of_replace _ (generation_of_live alive)
        (live_eq_some.mp alive).2)
  | erased other session cause position alive =>
      refine reply.frame rfl rfl rfl ?_
      intro fd number found
      simp only [generationAt, erase, Function.update_apply] at found ⊢
      split_ifs at found
      · cases found
      · exact found
  | skipped completion rest position completions nobody =>
      refine reply.grow rfl same ?_ fun _ => rfl
      intro there
      rw [due_completion, if_neg]
      · rfl
      · rintro ⟨rfl, notify⟩
        rcases nobody with quiet | gone
        · exact absurd (quiet.symm.trans notify) Bool.false_ne_true
        · exact absurd gone (live_ne_none.mpr there)
  | completed completion rest session position completions notify alive =>
      have recorded : (pushLine (ServerActs.popCompletion system completion rest) completion.client
          { session with pendingDb := session.pendingDb - 1 }
          (.completion completion.ok completion.requestId completion.line)).history =
            system.history ++ ([.handled completion] ++ [.queued completion.client
              (.completion completion.ok completion.requestId completion.line)]) :=
        (push_line_history _ _ _ _).trans (List.append_assoc _ _ _)
      have here := live_eq_some.mp alive
      refine reply.grow recorded (keys_of_push_line _ (generation_of_live alive) here.2) ?_ ?_
      · intro _
        have unhandled : due [.queued completion.client
            (.completion completion.ok completion.requestId completion.line)] ref = [] := rfl
        have unanswered : told [.handled completion] ref = [] := rfl
        rw [told_append, due_append, told_completion, due_completion, unhandled, unanswered,
          List.append_nil, List.nil_append]
        simp only [notify, and_true]
      · intro gone
        rw [told_append, told_completion, if_neg]
        · rfl
        · rintro rfl
          exact gone (generation_of_live alive)

theorem reply_sent {other : SessionRef} (reply : Reply system ref) (sent : Sent system other next) :
    Reply next ref := by
  cases sent with
  | progressed cqe rest _ session payload position completed token alive =>
      have popped : Reply { system with completed := rest } ref :=
        reply.still rfl fun _ _ there => there
      refine popped.frame (progress_history _ other session payload _) rfl rfl ?_
      intro fd number found
      rw [(progress_frame { system with completed := rest } session payload cqe.result.toNat
        (generation_of_live alive) (live_eq_some.mp alive).2).2.1] at found
      exact found

theorem reply_outside {label : Server.Label} (reply : Reply system ref)
    (taken : Outside system label next) : Reply next ref := by
  cases taken with
  | transmits => exact reply.frame rfl rfl rfl fun _ _ there => there
  | _ => exact reply.still rfl fun _ _ there => there

theorem reply_reachable {config : ServerConfig} {poolSize : Nat}
    (reached : Reachable System.step (System.start config poolSize) system)
    (unwrapped : Unwrapped system) (ref : SessionRef) : Reply system ref := by
  have kept : Registered system ∧
      (Unwrapped system → Requests.Accounted system ∧ Reply system ref) := by
    refine @kept_by_run (fun state => Registered state ∧
      (Unwrapped state → Requests.Accounted state ∧ Reply state ref)) config poolSize ?_ ?_ ?_ ?_ _
        reached
    · exact ⟨registered_start config poolSize, fun _ =>
        ⟨Requests.accounted_start config poolSize, List.prefix_refl _, fun _ => rfl⟩⟩
    · rintro source next _ ⟨registered, both⟩ act
      have later := registered_act registered act
      refine ⟨later, fun small => ?_⟩
      have grow := counters_grow act
      rcases both ⟨grow.1.trans small.1, grow.2.trans small.2⟩ with ⟨accounted, reply⟩
      exact ⟨accounted_act registered accounted small act,
        reply_act later small accounted reply act⟩
    · rintro other source next _ ⟨registered, both⟩ sent
      refine ⟨registered_sent registered sent, fun small => ?_⟩
      have stay := counters_of_sent sent
      rcases both ⟨stay.1 ▸ small.1, stay.2 ▸ small.2⟩ with ⟨accounted, reply⟩
      exact ⟨accounted_sent accounted sent, reply_sent reply sent⟩
    · rintro source label next _ ⟨registered, both⟩ taken
      refine ⟨registered_outside registered taken, fun small => ?_⟩
      have stay := counters_stay taken
      rcases both ⟨stay.1 ▸ small.1, stay.2 ▸ small.2⟩ with ⟨accounted, reply⟩
      exact ⟨accounted_outside accounted taken, reply_outside reply taken⟩
  exact (kept.2 unwrapped).2

end

/-- The tickets of a dispatcher with one worker stand in line. -/
structure InLine (system : System) : Prop where
  single : system.database.poolSize = 1
  queueOpen : system.database.jobs.closed = false
  oneHand : system.database.held.length ≤ 1
  line : issued system.history = handled system.history ++
    (system.database.completions.map ticketOfCompletion ++
      (system.database.held.map ticketOfJob ++ system.database.jobs.items.map ticketOfJob))

section

variable {system next : System}

theorem InLine.frame (inLine : InLine system)
    (size : next.database.poolSize = system.database.poolSize)
    (jobs : next.database.jobs = system.database.jobs)
    (held : next.database.held = system.database.held)
    (completions : next.database.completions = system.database.completions)
    {events : List Server.Event} (history : next.history = system.history ++ events)
    (unissued : issued events = []) (unhandled : handled events = []) : InLine next := by
  refine ⟨size.trans inLine.single, jobs ▸ inLine.queueOpen, held ▸ inLine.oneHand, ?_⟩
  rw [history, issued_append, Requests.handled_append, unissued, unhandled, List.append_nil,
    List.append_nil, jobs, held, completions]
  exact inLine.line

theorem InLine.submit (inLine : InLine system) (job : DbJob) : InLine (system.submitJob job) := by
  have queueOpen := inLine.queueOpen
  have pushed : (system.database.submit job).jobs.items = system.database.jobs.items ++ [job] := by
    simp only [DbDispatcher.submit, BlockingQueue.push, queueOpen, Bool.false_eq_true, if_false]
  have open_ : (system.database.submit job).jobs.closed = false := by
    simp only [DbDispatcher.submit, BlockingQueue.push, queueOpen, Bool.false_eq_true, if_false]
  refine ⟨inLine.single, open_, inLine.oneHand, ?_⟩
  have ticket : issued [Server.Event.submitted job] = [ticketOfJob job] := rfl
  have silent : handled [Server.Event.submitted job] = [] := rfl
  change issued (system.history ++ [.submitted job]) = handled (system.history ++ [.submitted job]) ++
    (system.database.completions.map ticketOfCompletion ++ (system.database.held.map ticketOfJob ++
      (system.database.submit job).jobs.items.map ticketOfJob))
  rw [issued_append, Requests.handled_append, ticket, silent, pushed, inLine.line, List.append_nil,
    List.map_append, List.append_assoc, List.append_assoc, List.append_assoc]
  rfl

theorem InLine.pop (inLine : InLine system) {completion : DbCompletion} {rest : List DbCompletion}
    (completions : system.database.completions = completion :: rest) :
    InLine (ServerActs.popCompletion system completion rest) := by
  refine ⟨inLine.single, inLine.queueOpen, inLine.oneHand, ?_⟩
  have silent : issued [Server.Event.handled completion] = [] := rfl
  have ticket : handled [Server.Event.handled completion] = [ticketOfCompletion completion] := rfl
  change issued (system.history ++ [.handled completion]) =
    handled (system.history ++ [.handled completion]) ++ (rest.map ticketOfCompletion ++
      (system.database.held.map ticketOfJob ++ system.database.jobs.items.map ticketOfJob))
  rw [issued_append, Requests.handled_append, ticket, silent, inLine.line, completions,
    List.append_nil, List.append_assoc]
  rfl

theorem InLine.push (inLine : InLine system) (ref : SessionRef) (session : Session)
    (line : ServerLine) : InLine (pushLine system ref session line) := by
  have same := push_line_database system ref session line
  exact inLine.frame (congrArg _ same) (congrArg _ same) (congrArg _ same) (congrArg _ same)
    (push_line_history _ _ _ line) rfl rfl

theorem in_line_act (inLine : InLine system) (act : ServerActs.Act system next) : InLine next := by
  cases act with
  | submitted | waited | drained | dismissed | refused | recvPosted | acceptPosted | framed
  | worldCalled | parked | recvReposted | awoken | pollPosted | closing =>
      exact inLine.frame rfl rfl rfl rfl (List.append_nil _).symm rfl rfl
  | arrived | received | lineTaken | raised | erased =>
      exact inLine.frame rfl rfl rfl rfl rfl rfl rfl
  | answered ref session line => exact inLine.push ref session line
  | saved => exact inLine.submit _
  | requested ref session operation commandName args =>
      exact (inLine.push ref _ _).submit _
  | skipped completion rest position completions => exact inLine.pop completions
  | completed completion rest session position completions =>
      exact (inLine.pop completions).push completion.client _ _

theorem in_line_outside {label : Server.Label} (inLine : InLine system)
    (taken : Outside system label next) : InLine next := by
  cases taken with
  | accepts | receives | fails | polls | signals =>
      exact inLine.frame rfl rfl rfl rfl (List.append_nil _).symm rfl rfl
  | transmits => exact inLine.frame rfl rfl rfl rfl rfl rfl rfl
  | takes job rest waiting idle =>
      have free : system.database.held = [] := by
        rw [inLine.single] at idle
        exact List.length_eq_zero_iff.mp (by omega)
      have line := inLine.line
      refine ⟨inLine.single, inLine.queueOpen, ?_, ?_⟩
      · change (system.database.held ++ [job]).length ≤ 1
        rw [free]
        exact Nat.le_refl 1
      · rw [waiting, free] at line
        change issued system.history = handled system.history ++
          (system.database.completions.map ticketOfCompletion ++
            ((system.database.held ++ [job]).map ticketOfJob ++ rest.map ticketOfJob))
        rw [line, free]
        rfl
  | finishes index job ok line working =>
      have only : index = 0 ∧ system.database.held = [job] := by
        have short := inLine.oneHand
        cases held : system.database.held with
        | nil =>
            rw [held] at working
            cases working
        | cons first others =>
            rw [held, List.length_cons] at short
            obtain rfl : others = [] := List.length_eq_zero_iff.mp (by omega)
            rw [held] at working
            cases index with
            | zero => exact ⟨rfl, by rw [Option.some.inj working]⟩
            | succ index => cases working
      have before := inLine.line
      rcases only with ⟨rfl, held⟩
      refine ⟨inLine.single, inLine.queueOpen, ?_, ?_⟩
      · change (system.database.held.eraseIdx 0).length ≤ 1
        rw [held]
        exact Nat.zero_le 1
      · change issued system.history = handled system.history ++
          ((system.database.completions ++ [completionOf job ok line]).map ticketOfCompletion ++
            ((system.database.held.eraseIdx 0).map ticketOfJob ++
              system.database.jobs.items.map ticketOfJob))
        rw [before, held, List.map_append]
        simp [ticketOfCompletion, ticketOfJob, completionOf]

theorem in_line_reachable {config : ServerConfig}
    (reached : Reachable System.step (System.start config 1) system) : InLine system := by
  refine kept_by_run ?_ (fun _ _ _ inLine act => in_line_act inLine act) ?_
    (fun _ _ _ _ inLine taken => in_line_outside inLine taken) reached
  · exact ⟨rfl, rfl, Nat.zero_le 1, rfl⟩
  · intro ref source target _ inLine sent
    cases sent with
    | progressed cqe rest _ session payload =>
        have same := progress_database { source with completed := rest } ref session payload
          cqe.result.toNat
        exact inLine.frame (congrArg _ same) (congrArg _ same) (congrArg _ same) (congrArg _ same)
          (progress_history _ _ _ _ _) rfl rfl

/-- With one worker every session is answered in the order of its requests, however
its requests, the other sessions and the worker are interleaved: what it has been
answered is an initial part of what it has asked for. -/
theorem one_worker_answers_in_order {config : ServerConfig}
    (reached : Reachable System.step (System.start config 1) system) (unwrapped : Unwrapped system)
    (ref : SessionRef) : told system.history ref <+: asked system.history ref := by
  have settled : handled system.history <+: issued system.history := by
    rw [(in_line_reachable reached).line]
    exact List.prefix_append _ _
  rw [asked_of_issued (Requests.accounted_reachable reached unwrapped) ref]
  refine (reply_reachable reached unwrapped ref).ordered.trans ?_
  exact (settled.filter _).map Ticket.address

/-- Three requests of one session; two have been answered. -/
def threeRequests : List Server.Label :=
  [.tick, .accept 0 5, .tick, .tick, .tick, .tick, .tick,
    .recv 2 (ascii "LOGIN a\nLOAD a\nLOGIN b\n"), .tick, .tick, .tick, .tick, .tick, .take,
    .finish 0 false (ascii "x"), .signal, .take, .finish 0 true (ascii "y"), .signal, .poll 0, .take,
    .tick, .tick, .tick, .tick, .tick, .tick]

theorem one_worker_answers_in_order_three :
    ∃ system, run System.step (System.start .default 1) threeRequests = some system ∧
      told system.history ⟨5, 1⟩ = [(⟨5, 1⟩, 1), (⟨5, 1⟩, 2)] ∧
      told system.history ⟨5, 1⟩ <+: asked system.history ⟨5, 1⟩ := by
  have ends : (run System.step (System.start .default 1) threeRequests).any (fun system =>
      decide (system.nextSessionGeneration ≤ 2 ^ 64 ∧ system.nextRequestId ≤ 2 ^ 64 ∧
        told system.history ⟨5, 1⟩ = [(⟨5, 1⟩, 1), (⟨5, 1⟩, 2)])) = true := by
    decide
  rcases Option.any_eq_true _ _ |>.mp ends with ⟨system, ran, holds⟩
  rcases of_decide_eq_true holds with ⟨generations, requests, answered⟩
  exact ⟨system, ran, answered,
    one_worker_answers_in_order ⟨threeRequests, ran⟩ ⟨generations, requests⟩ ⟨5, 1⟩⟩

end

end DungeonPortfolio.Replies
