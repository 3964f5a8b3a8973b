import DungeonPortfolio.Library.Ledger
import DungeonPortfolio.Library.Trace
import DungeonPortfolio.Sessions

/-!
# Requests and completions

Every job carries a ticket: its session, its number and whether somebody waits
for it. The accounts of the tickets balance: issued is handled plus what is in
the job queue, with a worker or in the completion queue. PENDING lines follow
the tickets issued with a client, DONE and FAIL lines follow the tickets handled,
and the counter of a session is the number of its outstanding tickets.
-/

namespace DungeonPortfolio.Requests

open DungeonPortfolio.Text DungeonPortfolio.World DungeonPortfolio.Dispatcher
open DungeonPortfolio.Server DungeonPortfolio.ServerActs DungeonPortfolio.ServerResponses
open DungeonPortfolio.ServerSteps DungeonPortfolio.Sessions
open Library.Execution Library.Ledger Library.Trace

set_option autoImplicit false

structure Ticket where
  client : SessionRef
  requestId : Nat
  notifyClient : Bool
  deriving DecidableEq, Repr

def ticketOfJob (job : DbJob) : Ticket := ⟨job.client, job.requestId, job.notifyClient⟩

def ticketOfCompletion (completion : DbCompletion) : Ticket :=
  ⟨completion.client, completion.requestId, completion.notifyClient⟩

/-- What the client is told the request by. -/
def Ticket.address (ticket : Ticket) : SessionRef × Nat := (ticket.client, ticket.requestId)

def issuedTicket : Event → Option Ticket
  | .submitted job => some (ticketOfJob job)
  | _ => none

def handledTicket : Event → Option Ticket
  | .handled completion => some (ticketOfCompletion completion)
  | _ => none

def pendingLine : Event → Option (SessionRef × Nat)
  | .queued ref (.pending requestId _) => some (ref, requestId)
  | _ => none

def answerLine : Event → Option (SessionRef × Nat)
  | .queued ref (.completion _ requestId _) => some (ref, requestId)
  | _ => none

def issued (history : List Event) : List Ticket := history.filterMap issuedTicket
def handled (history : List Event) : List Ticket := history.filterMap handledTicket
def pendings (history : List Event) : List (SessionRef × Nat) := history.filterMap pendingLine
def answers (history : List Event) : List (SessionRef × Nat) := history.filterMap answerLine

/-- The tickets between the event loop and the event loop. -/
def pipeline (database : DbDispatcher) : List Ticket :=
  database.jobs.items.map ticketOfJob ++ database.held.map ticketOfJob ++
    database.completions.map ticketOfCompletion

def awaited (tickets : List Ticket) (ref : SessionRef) : List Ticket :=
  tickets.filter fun ticket => ticket.client = ref ∧ ticket.notifyClient = true

@[simp] theorem issued_append (first second : List Event) :
    issued (first ++ second) = issued first ++ issued second := List.filterMap_append

@[simp] theorem handled_append (first second : List Event) :
    handled (first ++ second) = handled first ++ handled second := List.filterMap_append

@[simp] theorem pendings_append (first second : List Event) :
    pendings (first ++ second) = pendings first ++ pendings second := List.filterMap_append

@[simp] theorem answers_append (first second : List Event) :
    answers (first ++ second) = answers first ++ answers second := List.filterMap_append

/-- A DONE or FAIL line comes after a PENDING line of the same session and number
and is the first with its number. -/
def Answers (before : List Event) (event : Event) : Prop :=
  ∀ address, answerLine event = some address →
    address ∈ pendings before ∧ ∀ other ∈ answers before, other.2 ≠ address.2

structure Accounted (system : System) : Prop where
  queueOpen : system.database.jobs.closed = false
  positive : 1 ≤ system.nextRequestId
  numbered : (issued system.history).map Ticket.requestId =
    (List.range' 1 (system.nextRequestId - 1)).map counterValue
  balanced : Balanced (issued system.history) (handled system.history) (pipeline system.database)
  owned : ∀ ticket ∈ issued system.history, ticket.client ∈ acceptedRefs system.history
  announced : pendings system.history =
    ((issued system.history).filter Ticket.notifyClient).map Ticket.address
  answered : ∀ address ∈ answers system.history, ∃ ticket ∈ handled system.history,
    ticket.notifyClient = true ∧ ticket.address = address
  ordered : EveryEvent Answers system.history
  counted : ∀ ref session, system.live ref = some session →
    session.pendingDb = (awaited (pipeline system.database) ref).length

def Silent (event : Event) : Prop :=
  issuedTicket event = none ∧ handledTicket event = none ∧ pendingLine event = none ∧
    answerLine event = none

theorem projections_of_silent {events : List Event} (silent : ∀ event ∈ events, Silent event) :
    issued events = [] ∧ handled events = [] ∧ pendings events = [] ∧ answers events = [] := by
  refine ⟨?_, ?_, ?_, ?_⟩
  · exact List.filterMap_eq_nil_iff.mpr fun event member => (silent event member).1
  · exact List.filterMap_eq_nil_iff.mpr fun event member => (silent event member).2.1
  · exact List.filterMap_eq_nil_iff.mpr fun event member => (silent event member).2.2.1
  · exact List.filterMap_eq_nil_iff.mpr fun event member => (silent event member).2.2.2

theorem awaited_perm {first second : List Ticket} (same : first.Perm second) (ref : SessionRef) :
    (awaited first ref).length = (awaited second ref).length :=
  (same.filter _).length_eq

theorem Accounted.frame {system next : System} {events : List Event}
    (accounted : Accounted system) (requests : next.nextRequestId = system.nextRequestId)
    (closed : next.database.jobs.closed = system.database.jobs.closed)
    (moved : (pipeline system.database).Perm (pipeline next.database))
    (history : next.history = system.history ++ events)
    (silent : ∀ event ∈ events, Silent event)
    (sessions : ∀ ref session, next.live ref = some session →
      session.pendingDb = (awaited (pipeline system.database) ref).length) :
    Accounted next := by
  rcases projections_of_silent silent with ⟨noIssue, noHandled, noPending, noAnswer⟩
  have sameIssued : issued next.history = issued system.history := by
    rw [history, issued_append, noIssue, List.append_nil]
  have sameHandled : handled next.history = handled system.history := by
    rw [history, handled_append, noHandled, List.append_nil]
  have samePendings : pendings next.history = pendings system.history := by
    rw [history, pendings_append, noPending, List.append_nil]
  have sameAnswers : answers next.history = answers system.history := by
    rw [history, answers_append, noAnswer, List.append_nil]
  constructor
  · rw [closed]
    exact accounted.queueOpen
  · rw [requests]
    exact accounted.positive
  · rw [sameIssued, requests]
    exact accounted.numbered
  · rw [sameIssued, sameHandled]
    exact accounted.balanced.reorder moved
  · rw [sameIssued, history, accepted_refs_append]
    intro ticket member
    exact List.mem_append_left _ (accounted.owned ticket member)
  · rw [samePendings, sameIssued]
    exact accounted.announced
  · rw [sameAnswers, sameHandled]
    exact accounted.answered
  · rw [history]
    apply every_event_append accounted.ordered
    intro event member before address answer
    rw [(silent event member).2.2.2] at answer
    cases answer
  · intro ref session alive
    rw [sessions ref session alive]
    exact awaited_perm moved ref

theorem Accounted.unchanged {system next : System} (accounted : Accounted system)
    (requests : next.nextRequestId = system.nextRequestId)
    (database : next.database = system.database) (history : next.history = system.history)
    (sessions : next.sessions = system.sessions) : Accounted next := by
  apply accounted.frame requests (by rw [database]) (by rw [database])
    (history.trans (no_events _)) nothing_new
  intro ref session alive
  simp only [System.live, sessions] at alive
  exact accounted.counted ref session alive

theorem awaited_cons (ticket : Ticket) (tickets : List Ticket) (ref : SessionRef) :
    (awaited (ticket :: tickets) ref).length =
      (awaited tickets ref).length +
        if ticket.client = ref ∧ ticket.notifyClient = true then 1 else 0 := by
  unfold awaited
  rw [List.filter_cons]
  by_cases counts : ticket.client = ref ∧ ticket.notifyClient = true
  · rw [if_pos (by simpa using counts), if_pos counts, List.length_cons]
  · rw [if_neg (by simpa using counts), if_neg counts, Nat.add_zero]

theorem Accounted.issue {system next : System} {events : List Event} (ticket : Ticket)
    (accounted : Accounted system)
    (number : ticket.requestId = counterValue system.nextRequestId)
    (owner : ticket.client ∈ acceptedRefs system.history)
    (requests : next.nextRequestId = system.nextRequestId + 1)
    (closed : next.database.jobs.closed = system.database.jobs.closed)
    (moved : (ticket :: pipeline system.database).Perm (pipeline next.database))
    (history : next.history = system.history ++ events) (issues : issued events = [ticket])
    (handles : handled events = [])
    (announces : pendings events = if ticket.notifyClient then [ticket.address] else [])
    (silent : answers events = [])
    (sessions : ∀ ref session, next.live ref = some session →
      session.pendingDb = (awaited (ticket :: pipeline system.database) ref).length) :
    Accounted next := by
  have sameIssued : issued next.history = issued system.history ++ [ticket] := by
    rw [history, issued_append, issues]
  have sameHandled : handled next.history = handled system.history := by
    rw [history, handled_append, handles, List.append_nil]
  have sameAnswers : answers next.history = answers system.history := by
    rw [history, answers_append, silent, List.append_nil]
  have positive := accounted.positive
  constructor
  · rw [closed]
    exact accounted.queueOpen
  · rw [requests]
    exact Nat.le_add_left 1 _
  · have length : system.nextRequestId + 1 - 1 = (system.nextRequestId - 1) + 1 := by omega
    have last : 1 + 1 * (system.nextRequestId - 1) = system.nextRequestId := by omega
    rw [sameIssued, requests, List.map_append, accounted.numbered, List.map_singleton, number,
      length, List.range'_concat, List.map_append, last, List.map_singleton]
  · rw [sameIssued, sameHandled]
    exact accounted.balanced.issue moved
  · rw [sameIssued, history, accepted_refs_append]
    intro other member
    rcases List.mem_append.mp member with earlier | new
    · exact List.mem_append_left _ (accounted.owned other earlier)
    · rw [List.mem_singleton.mp new]
      exact List.mem_append_left _ owner
  · rw [sameIssued, history, pendings_append, accounted.announced, announces, List.filter_append,
      List.map_append]
    cases notify : ticket.notifyClient with
    | true => simp [notify]
    | false => simp [notify]
  · rw [sameAnswers, sameHandled]
    exact accounted.answered
  · rw [history]
    apply every_event_append accounted.ordered
    intro event member before address answer
    rw [List.filterMap_eq_nil_iff.mp silent event member] at answer
    cases answer
  · intro ref session alive
    rw [sessions ref session alive]
    exact awaited_perm moved ref

theorem Accounted.settle {system next : System} {events : List Event} (ticket : Ticket)
    (accounted : Accounted system) (requests : next.nextRequestId = system.nextRequestId)
    (closed : next.database.jobs.closed = system.database.jobs.closed)
    (moved : (pipeline system.database).Perm (ticket :: pipeline next.database))
    (history : next.history = system.history ++ events) (issues : issued events = [])
    (handles : handled events = [ticket]) (announces : pendings events = [])
    (answering : ∀ address ∈ answers events,
      ticket.notifyClient = true ∧ ticket.address = address)
    (ordered : EveryEvent Answers next.history)
    (sessions : ∀ ref session, next.live ref = some session →
      session.pendingDb = (awaited (pipeline next.database) ref).length) :
    Accounted next := by
  have sameIssued : issued next.history = issued system.history := by
    rw [history, issued_append, issues, List.append_nil]
  have sameHandled : handled next.history = handled system.history ++ [ticket] := by
    rw [history, handled_append, handles]
  have samePendings : pendings next.history = pendings system.history := by
    rw [history, pendings_append, announces, List.append_nil]
  constructor
  · rw [closed]
    exact accounted.queueOpen
  · rw [requests]
    exact accounted.positive
  · rw [sameIssued, requests]
    exact accounted.numbered
  · rw [sameIssued, sameHandled]
    exact accounted.balanced.settle moved
  · rw [sameIssued, history, accepted_refs_append]
    intro other member
    exact List.mem_append_left _ (accounted.owned other member)
  · rw [samePendings, sameIssued]
    exact accounted.announced
  · have sameAnswers : answers next.history = answers system.history ++ answers events := by
      rw [history, answers_append]
    rw [sameAnswers, sameHandled]
    intro address member
    rcases List.mem_append.mp member with earlier | new
    · rcases accounted.answered address earlier with ⟨other, settled, notify, same⟩
      exact ⟨other, List.mem_append_left _ settled, notify, same⟩
    · have own := answering address new
      exact ⟨ticket, List.mem_append_right _ (List.mem_singleton_self ticket), own.1, own.2⟩
  · exact ordered
  · exact sessions

theorem numbers_distinct {system : System} (accounted : Accounted system)
    (unwrapped : system.nextRequestId ≤ 2 ^ 64) :
    ((issued system.history).map Ticket.requestId).Nodup := by
  rw [accounted.numbered]
  apply counter_values_nodup
  have positive := accounted.positive
  omega

/-- The counters after an act that changes the pending jobs of nobody. -/
theorem counts_kept {system next : System} {ref : SessionRef} {session changed : Session}
    (accounted : Accounted system) (alive : system.live ref = some session)
    (stored : next.sessions = Function.update system.sessions ref.fd (some changed))
    (generation : changed.generation = session.generation)
    (pending : changed.pendingDb = session.pendingDb) :
    ∀ other found, next.live other = some found →
      found.pendingDb = (awaited (pipeline system.database) other).length := by
  intro other found there
  have same := generation.trans (live_eq_some.mp alive).2
  rcases live_updated stored same there with ⟨rfl, rfl⟩ | ⟨_, before⟩
  · rw [pending]
    exact accounted.counted other session alive
  · exact accounted.counted other found before

theorem other_of_fd {other ref : SessionRef} (different : other.fd ≠ ref.fd) : ref ≠ other := by
  intro same
  rw [same] at different
  exact different rfl

theorem answer_in_order {system : System} {ticket : Ticket} (accounted : Accounted system)
    (unwrapped : system.nextRequestId ≤ 2 ^ 64)
    (outstanding : ticket ∈ pipeline system.database) (notify : ticket.notifyClient = true) :
    ticket.address ∈ pendings system.history ∧
      ∀ other ∈ answers system.history, other.2 ≠ ticket.requestId := by
  have distinct := numbers_distinct accounted unwrapped
  have issuedToo := accounted.balanced.outstanding_issued outstanding
  constructor
  · rw [accounted.announced]
    apply List.mem_map_of_mem
    exact List.mem_filter.mpr ⟨issuedToo, notify⟩
  · intro other member same
    rcases accounted.answered other member with ⟨earlier, settled, _, address⟩
    apply accounted.balanced.unsettled Ticket.requestId distinct outstanding
    rw [← same, ← address]
    exact List.mem_map_of_mem settled

def Unwrapped (system : System) : Prop :=
  system.nextSessionGeneration ≤ 2 ^ 64 ∧ system.nextRequestId ≤ 2 ^ 64

theorem silent_push {ref : SessionRef} {line : ServerLine} (direct : DirectLine line) :
    Silent (.queued ref line) := by
  cases line with
  | pending => cases direct
  | completion => cases direct
  | _ => exact ⟨rfl, rfl, rfl, rfl⟩

theorem pipeline_submit (database : DbDispatcher) (job : DbJob)
    (queueOpen : database.jobs.closed = false) :
    (ticketOfJob job :: pipeline database).Perm (pipeline (database.submit job)) := by
  have pushed : (database.submit job).jobs.items = database.jobs.items ++ [job] := by
    simp only [DbDispatcher.submit, BlockingQueue.push, queueOpen, Bool.false_eq_true, if_false]
  have regrouped : pipeline (database.submit job) = database.jobs.items.map ticketOfJob ++
      ticketOfJob job :: (database.held.map ticketOfJob ++
        database.completions.map ticketOfCompletion) := by
    simp only [pipeline, pushed, List.map_append, List.map_singleton, List.append_assoc,
      List.singleton_append]
    rfl
  rw [regrouped, pipeline, List.append_assoc]
  exact List.perm_middle.symm

theorem closed_submit (database : DbDispatcher) (job : DbJob) :
    (database.submit job).jobs.closed = database.jobs.closed := by
  simp only [DbDispatcher.submit, BlockingQueue.push]
  split
  · rfl
  · rfl

theorem pipeline_pop {system : System} {completion : DbCompletion} {rest : List DbCompletion}
    (completions : system.database.completions = completion :: rest) :
    (pipeline system.database).Perm
      (ticketOfCompletion completion :: pipeline (popCompletion system completion rest).database) := by
  rw [pipeline, completions, List.map_cons]
  exact List.perm_middle

theorem accounted_arrived {system : System} {cqe : Cqe} {rest : List Cqe} {ref : SessionRef}
    (registered : Registered system) (accounted : Accounted system)
    (unwrapped : system.nextSessionGeneration + 1 ≤ 2 ^ 64)
    (fresh : ref = ⟨cqe.result, counterValue system.nextSessionGeneration⟩) :
    Accounted { system with
      completed := rest
      nextSessionGeneration := system.nextSessionGeneration + 1
      sessions := Function.update system.sessions ref.fd
        (some ⟨ref.generation, [], [], false, false, 0⟩)
      position := .opened ref
      history := system.history ++ [.accepted ref cqe.operation.connection] } := by
  refine accounted.frame rfl rfl (List.Perm.refl _) rfl (one_new ⟨rfl, rfl, rfl, rfl⟩) ?_
  intro other session alive
  rcases live_updated rfl rfl alive with ⟨rfl, rfl⟩ | ⟨_, before⟩
  · have nobody : awaited (pipeline system.database) other = [] := by
      rw [awaited, List.filter_eq_nil_iff]
      intro ticket member
      have owner := accounted.owned ticket (accounted.balanced.outstanding_issued member)
      have different := generation_fresh registered (by omega) owner
      simp only [decide_eq_true_eq, not_and]
      intro same
      rw [same, fresh] at different
      exact absurd rfl different
    rw [nobody]
    rfl
  · exact accounted.counted other session before

theorem accounted_requested {system : System} {ref : SessionRef} {session : Session}
    (registered : Registered system) (accounted : Accounted system) (operation : DbOperation)
    (commandName : Bytes) (args : List Bytes) (alive : system.live ref = some session) :
    Accounted ((pushLine system ref { session with pendingDb := session.pendingDb + 1 }
      (.pending (counterValue system.nextRequestId) commandName)).submitJob
        ⟨ref, counterValue system.nextRequestId, operation, commandName, args, true⟩) := by
  let job : DbJob := ⟨ref, counterValue system.nextRequestId, operation, commandName, args, true⟩
  let pushed := pushLine system ref { session with pendingDb := session.pendingDb + 1 }
    (.pending (counterValue system.nextRequestId) commandName)
  have owner := registered.known ref (generation_of_live alive)
  have same := (live_eq_some.mp alive).2
  have database : (pushed.submitJob job).database = system.database.submit job := by
    simp [System.submitJob, pushed]
  have history : (pushed.submitJob job).history = system.history ++
      [.queued ref (.pending (counterValue system.nextRequestId) commandName), .submitted job] := by
    simp [System.submitJob, pushed, push_line_history]
  have requests : (pushed.submitJob job).nextRequestId = system.nextRequestId + 1 := by
    simp [System.submitJob, pushed]
  apply accounted.issue (ticketOfJob job) rfl owner requests _ _ history rfl rfl rfl rfl
  · intro other found there
    rw [awaited_cons]
    have stored : (pushed.submitJob job).sessions = Function.update system.sessions ref.fd
        (some { session with
          pendingDb := session.pendingDb + 1
          outbox := session.outbox ++ [terminated (ServerLine.text
            (.pending (counterValue system.nextRequestId) commandName))]
          writeInFlight := true }) := push_line_sessions _ _ _ _
    rcases live_updated stored same there with ⟨rfl, rfl⟩ | ⟨elsewhere, before⟩
    · rw [if_pos ⟨rfl, rfl⟩, ← accounted.counted other session alive]
    · rw [if_neg fun counts => other_of_fd elsewhere counts.1, Nat.add_zero]
      exact accounted.counted other found before
  · rw [database]
    exact closed_submit system.database job
  · rw [database]
    exact pipeline_submit system.database job accounted.queueOpen

theorem accounted_skipped {system : System} {completion : DbCompletion}
    {rest : List DbCompletion} (accounted : Accounted system)
    (completions : system.database.completions = completion :: rest)
    (nobody : completion.notifyClient = false ∨ system.live completion.client = none) :
    Accounted (popCompletion system completion rest) := by
  have popped := pipeline_pop completions
  refine accounted.settle (ticketOfCompletion completion) rfl rfl popped rfl rfl rfl rfl ?_ ?_ ?_
  · intro address member
    cases member
  · refine every_event_snoc.mpr ⟨accounted.ordered, ?_⟩
    intro address answer
    cases answer
  · intro other session alive
    have before : session.pendingDb = (awaited (pipeline system.database) other).length :=
      accounted.counted other session alive
    rw [awaited_perm popped, awaited_cons, if_neg, Nat.add_zero] at before
    · exact before
    · intro counts
      rcases nobody with background | dead
      · exact Bool.false_ne_true (background.symm.trans counts.2)
      · have owner : completion.client = other := counts.1
        rw [owner] at dead
        cases dead.symm.trans alive

theorem accounted_completed {system : System} {completion : DbCompletion}
    {rest : List DbCompletion} {session : Session} (accounted : Accounted system)
    (unwrapped : system.nextRequestId ≤ 2 ^ 64)
    (completions : system.database.completions = completion :: rest)
    (notify : completion.notifyClient = true)
    (alive : system.live completion.client = some session) :
    Accounted (pushLine (popCompletion system completion rest) completion.client
      { session with pendingDb := session.pendingDb - 1 }
      (.completion completion.ok completion.requestId completion.line)) := by
  let line : ServerLine := .completion completion.ok completion.requestId completion.line
  have popped := pipeline_pop completions
  have outstanding : ticketOfCompletion completion ∈ pipeline system.database :=
    popped.mem_iff.mpr List.mem_cons_self
  have inOrder := answer_in_order accounted unwrapped outstanding notify
  have same := (live_eq_some.mp alive).2
  have history := push_line_history (popCompletion system completion rest) completion.client
    { session with pendingDb := session.pendingDb - 1 } line
  have flat : (popCompletion system completion rest).history ++ [.queued completion.client line] =
      system.history ++ [.handled completion, .queued completion.client line] := by
    simp [popCompletion]
  apply accounted.settle (ticketOfCompletion completion) (by simp [popCompletion])
    (by simp [popCompletion]) (by simpa using popped) (history.trans flat) rfl rfl rfl
  · intro address member
    rw [show answers [.handled completion, .queued completion.client line] =
      [(completion.client, completion.requestId)] from rfl, List.mem_singleton] at member
    exact ⟨notify, member.symm⟩
  · rw [history]
    refine every_event_snoc.mpr ⟨?_, ?_⟩
    · refine every_event_snoc.mpr ⟨accounted.ordered, ?_⟩
      intro address answer
      cases answer
    · intro address answer
      obtain rfl := Option.some.inj answer
      have silent : pendings [Event.handled completion] = [] ∧
        answers [Event.handled completion] = [] := ⟨rfl, rfl⟩
      simp only [popCompletion, pendings_append, answers_append, silent.1, silent.2,
        List.append_nil]
      exact inOrder
  · intro other found there
    have stored := push_line_sessions (popCompletion system completion rest) completion.client
      { session with pendingDb := session.pendingDb - 1 } line
    rw [push_line_database]
    rcases live_updated stored same there with ⟨rfl, rfl⟩ | ⟨elsewhere, before⟩
    · have counted := accounted.counted completion.client session alive
      rw [awaited_perm popped, awaited_cons, if_pos ⟨rfl, notify⟩] at counted
      simp only
      omega
    · have counted : found.pendingDb = (awaited (pipeline system.database) other).length :=
        accounted.counted other found before
      rw [awaited_perm popped, awaited_cons, if_neg, Nat.add_zero] at counted
      · exact counted
      · intro counts
        exact other_of_fd elsewhere counts.1

theorem accounted_act {system next : System} (registered : Registered system)
    (accounted : Accounted system) (unwrapped : Unwrapped next) (act : Act system next) :
    Accounted next := by
  cases act with
  | submitted => exact accounted.unchanged rfl rfl rfl rfl
  | waited => exact accounted.unchanged rfl rfl rfl rfl
  | drained => exact accounted.unchanged rfl rfl rfl rfl
  | dismissed => exact accounted.unchanged rfl rfl rfl rfl
  | refused => exact accounted.unchanged rfl rfl rfl rfl
  | arrived cqe rest ref position completed token succeeded fresh =>
      exact accounted_arrived registered accounted unwrapped.1 fresh
  | recvPosted => exact accounted.unchanged rfl rfl rfl rfl
  | acceptPosted => exact accounted.unchanged rfl rfl rfl rfl
  | answered ref session line alive direct =>
      apply accounted.frame (push_line_next_request_id _ _ _ line) (by simp) (by simp)
        (push_line_history _ _ _ line) (one_new (silent_push direct))
      exact counts_kept accounted alive (push_line_sessions _ _ _ line) rfl rfl
  | received cqe rest ref session position completed token alive =>
      exact accounted.frame rfl rfl (List.Perm.refl _) rfl (one_new ⟨rfl, rfl, rfl, rfl⟩)
        (counts_kept accounted alive rfl rfl rfl)
  | lineTaken ref session line rest position alive =>
      exact accounted.frame rfl rfl (List.Perm.refl _) rfl (one_new ⟨rfl, rfl, rfl, rfl⟩)
        (counts_kept accounted alive rfl rfl rfl)
  | raised ref session line rest exception position alive =>
      exact accounted.frame rfl rfl (List.Perm.refl _) rfl (one_new ⟨rfl, rfl, rfl, rfl⟩)
        (counts_kept accounted alive rfl rfl rfl)
  | framed => exact accounted.unchanged rfl rfl rfl rfl
  | worldCalled => exact accounted.unchanged rfl rfl rfl rfl
  | saved ref account character x y alive =>
      let job := System.positionJob (counterValue system.nextRequestId) ref account character x y
      have owner := registered.known ref (live_ne_none.mp alive)
      refine accounted.issue (ticketOfJob job) rfl owner rfl
        (closed_submit system.database job)
        (pipeline_submit system.database job accounted.queueOpen) rfl rfl rfl rfl rfl ?_
      intro other session there
      rw [awaited_cons, if_neg (by simp [ticketOfJob, job, System.positionJob]), Nat.add_zero]
      exact accounted.counted other session there
  | requested ref session operation commandName args alive =>
      exact accounted_requested registered accounted operation commandName args alive
  | closing ref session position alive =>
      exact accounted.frame rfl rfl (List.Perm.refl _) (no_events _) nothing_new
        (counts_kept accounted alive rfl rfl rfl)
  | parked => exact accounted.unchanged rfl rfl rfl rfl
  | recvReposted => exact accounted.unchanged rfl rfl rfl rfl
  | erased ref session cause position alive =>
      refine accounted.frame rfl rfl (List.Perm.refl _) rfl (one_new ⟨rfl, rfl, rfl, rfl⟩) ?_
      intro other found there
      rcases live_eq_some.mp there with ⟨lookup, generation⟩
      simp only [erase, Function.update_apply] at lookup
      split at lookup
      · cases lookup
      · exact accounted.counted other found (live_eq_some.mpr ⟨lookup, generation⟩)
  | awoken =>
      exact accounted.frame rfl rfl (List.Perm.refl _) (no_events _) nothing_new accounted.counted
  | skipped completion rest position completions nobody =>
      exact accounted_skipped accounted completions nobody
  | completed completion rest session position completions notify alive =>
      have numbers : system.nextRequestId ≤ 2 ^ 64 := by
        have bound := unwrapped.2
        rw [push_line_next_request_id] at bound
        exact bound
      exact accounted_completed accounted numbers completions notify alive
  | pollPosted => exact accounted.unchanged rfl rfl rfl rfl

theorem accounted_sent {system next : System} {ref : SessionRef} (accounted : Accounted system)
    (sent : Sent system ref next) : Accounted next := by
  cases sent with
  | progressed cqe rest _ session payload position completed token alive =>
      have popped : Accounted { system with completed := rest } :=
        accounted.unchanged rfl rfl rfl rfl
      have found : System.live { system with completed := rest } ref = some session := alive
      apply popped.frame (progress_next_request_id _ _ _ payload _) (by simp) (by simp)
        (progress_history _ _ _ payload _) (one_new ⟨rfl, rfl, rfl, rfl⟩)
      exact counts_kept popped found (progress_sessions _ _ _ payload _) rfl rfl

theorem pipeline_take {database : DbDispatcher} {job : DbJob} {rest : List DbJob}
    (waiting : database.jobs.items = job :: rest) :
    (pipeline database).Perm (pipeline { database with
      jobs := { database.jobs with items := rest }
      held := database.held ++ [job] }) := by
  simp only [pipeline, waiting, List.map_cons, List.map_append, List.map_nil]
  apply List.Perm.append_right
  rw [← List.append_assoc]
  exact (List.perm_append_singleton _ _).symm

theorem pipeline_finish {database : DbDispatcher} {index : Nat} {job : DbJob} (ok : Bool)
    (line : Bytes) (working : database.held[index]? = some job) :
    (pipeline database).Perm (pipeline { database with
      held := database.held.eraseIdx index
      completions := database.completions ++ [completionOf job ok line]
      unsignalled := database.unsignalled + 1 }) := by
  rcases List.getElem?_eq_some_iff.mp working with ⟨bound, here⟩
  have taken : database.held.Perm (job :: database.held.eraseIdx index) := by
    rw [← here]
    exact (List.getElem_cons_eraseIdx_perm bound).symm
  have passed : (database.held.map ticketOfJob).Perm
      (ticketOfJob job :: (database.held.eraseIdx index).map ticketOfJob) := by
    rw [← List.map_cons]
    exact taken.map _
  have same : ticketOfCompletion (completionOf job ok line) = ticketOfJob job := rfl
  simp only [pipeline, List.map_append, List.map_singleton, same, List.append_assoc]
  apply List.Perm.append_left
  rw [← List.append_assoc]
  refine (passed.append_right _).trans ?_
  rw [List.cons_append, List.append_assoc]
  exact (List.perm_append_singleton _ _).symm.trans (by rw [List.append_assoc])

theorem accounted_outside {system next : System} {label : Label}
    (accounted : Accounted system) (taken : Outside system label next) : Accounted next := by
  cases taken with
  | transmits =>
      exact accounted.frame rfl rfl (List.Perm.refl _) rfl (one_new ⟨rfl, rfl, rfl, rfl⟩)
        accounted.counted
  | takes job rest waiting =>
      exact accounted.frame rfl rfl (pipeline_take waiting) (no_events _) nothing_new
        accounted.counted
  | finishes index job ok line working =>
      exact accounted.frame rfl rfl (pipeline_finish ok line working) (no_events _) nothing_new
        accounted.counted
  | signals =>
      exact accounted.frame rfl rfl (List.Perm.refl _) (no_events _) nothing_new
        accounted.counted
  | _ => exact accounted.unchanged rfl rfl rfl rfl

theorem counters_grow {system next : System} (act : Act system next) :
    system.nextSessionGeneration ≤ next.nextSessionGeneration ∧
      system.nextRequestId ≤ next.nextRequestId := by
  cases act with
  | arrived => exact ⟨Nat.le_add_right _ 1, Nat.le_refl _⟩
  | saved => exact ⟨Nat.le_refl _, Nat.le_add_right _ 1⟩
  | requested => simp [System.submitJob]
  | answered => simp
  | completed => simp [popCompletion]
  | _ => exact ⟨Nat.le_refl _, Nat.le_refl _⟩

theorem counters_of_sent {system next : System} {ref : SessionRef}
    (sent : Sent system ref next) :
    next.nextSessionGeneration = system.nextSessionGeneration ∧
      next.nextRequestId = system.nextRequestId := by
  cases sent with
  | progressed => simp

theorem counters_stay {system next : System} {label : Label}
    (taken : Outside system label next) :
    next.nextSessionGeneration = system.nextSessionGeneration ∧
      next.nextRequestId = system.nextRequestId := by
  cases taken with
  | _ => exact ⟨rfl, rfl⟩

def Grown (earlier later : System) : Prop :=
  earlier.nextSessionGeneration ≤ later.nextSessionGeneration ∧
    earlier.nextRequestId ≤ later.nextRequestId

theorem grown_step {source target : System} {label : Label} (coherent : Coherent source)
    (taken : source.step label = some target) : Grown source target := by
  refine kept_by_step ?_ ?_ ?_ coherent ⟨Nat.le_refl _, Nat.le_refl _⟩ taken
  · intro state next _ before act
    have more := counters_grow act
    exact ⟨before.1.trans more.1, before.2.trans more.2⟩
  · intro ref state next _ before sent
    have stay := counters_of_sent sent
    exact ⟨before.1.trans (Nat.le_of_eq stay.1.symm), before.2.trans (Nat.le_of_eq stay.2.symm)⟩
  · intro state other next _ before outside
    have stay := counters_stay outside
    exact ⟨before.1.trans (Nat.le_of_eq stay.1.symm), before.2.trans (Nat.le_of_eq stay.2.symm)⟩

theorem unwrapped_step {source target : System} {label : Label} (coherent : Coherent source)
    (small : Unwrapped target) (taken : source.step label = some target) : Unwrapped source := by
  have grown := grown_step coherent taken
  exact ⟨grown.1.trans small.1, grown.2.trans small.2⟩

theorem accounted_start (config : ServerConfig) (poolSize : Nat) :
    Accounted (System.start config poolSize) where
  queueOpen := rfl
  positive := Nat.le_refl 1
  numbered := rfl
  balanced := balanced_nil
  owned := nothing_new
  announced := rfl
  answered := nothing_new
  ordered := every_event_nil _
  counted := by
    intro ref session alive
    cases alive

/-- What a run keeps without a bound on the counters. -/
def Booked (system : System) : Prop :=
  Registered system ∧ (Unwrapped system → Accounted system)

theorem accounted_reachable {config : ServerConfig} {poolSize : Nat} {system : System}
    (reached : Reachable System.step (System.start config poolSize) system)
    (unwrapped : Unwrapped system) : Accounted system := by
  have kept : Booked system := by
    refine kept_by_run ?_ ?_ ?_ ?_ reached
    · exact ⟨registered_start config poolSize, fun _ => accounted_start config poolSize⟩
    · intro source next _ before act
      refine ⟨registered_act before.1 act, fun small => ?_⟩
      have grow := counters_grow act
      have earlier : Unwrapped source := ⟨grow.1.trans small.1, grow.2.trans small.2⟩
      exact accounted_act before.1 (before.2 earlier) small act
    · intro ref source next _ before sent
      refine ⟨registered_sent before.1 sent, fun small => ?_⟩
      have stay := counters_of_sent sent
      have earlier : Unwrapped source := ⟨stay.1 ▸ small.1, stay.2 ▸ small.2⟩
      exact accounted_sent (before.2 earlier) sent
    · intro source label next _ before taken
      refine ⟨registered_outside before.1 taken, fun small => ?_⟩
      have stay := counters_stay taken
      have earlier : Unwrapped source := ⟨stay.1 ▸ small.1, stay.2 ▸ small.2⟩
      exact accounted_outside (before.2 earlier) taken
  exact kept.2 unwrapped

/-- The jobs nobody waits for are the saves of positions. -/
def Background (event : Event) : Prop :=
  ∀ job, event = .submitted job → (job.notifyClient = false ↔ job.operation = .savePosition)

theorem background_of_silent {event : Event} (silent : issuedTicket event = none) :
    Background event := by
  intro job same
  rw [same] at silent
  cases silent

theorem background_grows {before after events : List Event}
    (all : ∀ event ∈ before, Background event) (history : after = before ++ events)
    (new : ∀ event ∈ events, Background event) : ∀ event ∈ after, Background event := by
  intro event member
  rw [history] at member
  rcases List.mem_append.mp member with earlier | added
  · exact all event earlier
  · exact new event added

theorem background_act {system next : System}
    (all : ∀ event ∈ system.history, Background event) (act : Act system next) :
    ∀ event ∈ next.history, Background event := by
  have other : ∀ {event : Event}, issuedTicket event = none → ∀ item ∈ [event],
      Background item := fun silent => one_new (background_of_silent silent)
  cases act with
  | arrived => exact background_grows all rfl (other rfl)
  | answered => exact background_grows all (push_line_history _ _ _ _) (other rfl)
  | received => exact background_grows all rfl (other rfl)
  | lineTaken => exact background_grows all rfl (other rfl)
  | raised => exact background_grows all rfl (other rfl)
  | saved =>
      refine background_grows all rfl (one_new ?_)
      intro job same
      rw [← Event.submitted.inj same]
      exact iff_of_true rfl rfl
  | requested ref session operation commandName args alive foreground =>
      have pushed := background_grows all (push_line_history system ref { session with
        pendingDb := session.pendingDb + 1 }
        (.pending (counterValue system.nextRequestId) commandName)) (other rfl)
      refine background_grows pushed rfl (one_new ?_)
      intro job same
      rw [← Event.submitted.inj same]
      exact iff_of_false (Ne.symm Bool.false_ne_true) foreground
  | erased => exact background_grows all rfl (other rfl)
  | skipped => exact background_grows all rfl (other rfl)
  | completed completion rest =>
      have popped : ∀ event ∈ (popCompletion system completion rest).history, Background event :=
        background_grows all rfl (other rfl)
      exact background_grows popped (push_line_history _ _ _ _) (other rfl)
  | _ => exact all

theorem background_reachable {config : ServerConfig} {poolSize : Nat} {system : System}
    (reached : Reachable System.step (System.start config poolSize) system) :
    ∀ event ∈ system.history, Background event := by
  refine kept_by_run nothing_new (fun _ _ _ all act => background_act all act) ?_ ?_ reached
  · intro ref source next _ all sent
    cases sent with
    | progressed =>
        exact background_grows all (progress_history _ _ _ _ _)
          (one_new (background_of_silent rfl))
  · intro source label next _ all taken
    cases taken with
    | transmits => exact background_grows all rfl (one_new (background_of_silent rfl))
    | _ => exact all

/-- The client's jobs whose completion has not been handled. -/
def unanswered (history : List Event) (ref : SessionRef) : List Ticket :=
  awaited ((issued history).filter fun ticket =>
    ticket.requestId ∉ (handled history).map Ticket.requestId) ref

/-- How requests, their lines and the counters go together. -/
structure Matched (system : System) : Prop where
  idsDistinct : ((issued system.history).map Ticket.requestId).Nodup
  answersFollow : EveryEvent Answers system.history
  onePending : ∀ first ∈ pendings system.history, ∀ second ∈ pendings system.history,
    first.2 = second.2 → first = second
  savesSilent : ∀ job, Event.submitted job ∈ system.history → job.operation = .savePosition →
    ∀ address ∈ pendings system.history ++ answers system.history, address.2 ≠ job.requestId
  countsOutstanding : ∀ ref session, system.live ref = some session →
    session.pendingDb = (unanswered system.history ref).length
  guardPasses : ∀ completion rest session, system.position = .completing →
    system.database.completions = completion :: rest → completion.notifyClient = true →
    system.live completion.client = some session → 0 < session.pendingDb

theorem answers_announced {system : System} (accounted : Accounted system) :
    ∀ address ∈ answers system.history, address ∈ pendings system.history := by
  intro address member
  rcases accounted.answered address member with ⟨ticket, settled, notify, rfl⟩
  rw [accounted.announced]
  apply List.mem_map_of_mem
  exact List.mem_filter.mpr ⟨accounted.balanced.settled_issued settled, notify⟩

/-- Two issued tickets with one number are one ticket. -/
theorem ticket_of_number {system : System} (accounted : Accounted system)
    (unwrapped : Unwrapped system) {first second : Ticket}
    (one : first ∈ issued system.history) (other : second ∈ issued system.history)
    (same : first.requestId = second.requestId) : first = second :=
  same_of_key Ticket.requestId (numbers_distinct accounted unwrapped.2) one other same

theorem ticket_of_pending {system : System} (accounted : Accounted system)
    {address : SessionRef × Nat} (member : address ∈ pendings system.history) :
    ∃ ticket ∈ issued system.history, ticket.notifyClient = true ∧ ticket.address = address := by
  rw [accounted.announced] at member
  rcases List.mem_map.mp member with ⟨ticket, kept, same⟩
  rcases List.mem_filter.mp kept with ⟨listed, notify⟩
  exact ⟨ticket, listed, notify, same⟩

theorem requests_and_completions_match {config : ServerConfig} {poolSize : Nat}
    {system : System} (reached : Reachable System.step (System.start config poolSize) system)
    (unwrapped : Unwrapped system) : Matched system := by
  have accounted := accounted_reachable reached unwrapped
  have distinct := numbers_distinct accounted unwrapped.2
  constructor
  · exact distinct
  · exact accounted.ordered
  · intro first one second other same
    rcases ticket_of_pending accounted one with ⟨ticket, listed, _, rfl⟩
    rcases ticket_of_pending accounted other with ⟨twin, listedToo, _, rfl⟩
    rw [ticket_of_number accounted unwrapped listed listedToo same]
  · intro job submitted save address member same
    have background := (background_reachable reached _ submitted job rfl).mpr save
    have told : address ∈ pendings system.history := by
      rcases List.mem_append.mp member with pending | answer
      · exact pending
      · exact answers_announced accounted address answer
    rcases ticket_of_pending accounted told with ⟨ticket, listed, notify, rfl⟩
    have jobListed : ticketOfJob job ∈ issued system.history :=
      List.mem_filterMap.mpr ⟨_, submitted, rfl⟩
    have one := ticket_of_number accounted unwrapped listed jobListed same
    rw [one] at notify
    exact Bool.false_ne_true (background.symm.trans notify)
  · intro ref session alive
    rw [accounted.counted ref session alive]
    exact awaited_perm (accounted.balanced.outstanding_perm Ticket.requestId distinct) ref
  · intro completion rest session _ completions notify alive
    rw [accounted.counted completion.client session alive,
      awaited_perm (pipeline_pop completions), awaited_cons, if_pos ⟨rfl, notify⟩]
    exact Nat.succ_pos _

/-- Two pipelined commands of one client, answered in the other order. -/
def twoCommands : List Label :=
  [.tick, .accept 0 5, .tick, .tick, .tick, .tick, .tick,
    .recv 2 (ascii "LOGIN a\nLOAD a\n"), .tick, .tick, .tick, .tick, .tick, .take, .take,
    .finish 1 true (ascii "x"), .finish 0 false (ascii "y"), .signal, .signal, .poll 0, .tick,
    .tick, .tick]

theorem requests_and_completions_match_two :
    ∃ system, run System.step (System.start .default 2) twoCommands = some system ∧
      answers system.history = [(⟨5, 1⟩, 2), (⟨5, 1⟩, 1)] ∧ Matched system := by
  have ends : (run System.step (System.start .default 2) twoCommands).any (fun system =>
      answers system.history = [(⟨5, 1⟩, 2), (⟨5, 1⟩, 1)] && (system.nextSessionGeneration = 2 &&
        system.nextRequestId = 3)) = true := by
    decide
  rcases Option.any_eq_true _ _ |>.mp ends with ⟨system, ran, facts⟩
  simp only [Bool.and_eq_true, decide_eq_true_eq] at facts
  refine ⟨system, ran, facts.1, ?_⟩
  apply requests_and_completions_match ⟨twoCommands, ran⟩
  constructor
  · rw [facts.2.1]
    decide
  · rw [facts.2.2]
    decide

end DungeonPortfolio.Requests
