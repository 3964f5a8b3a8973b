import DungeonPortfolio.Streams

/-!
# Closing after the last response

`maybe_close_after_flush` waits for the outbox to be empty and not for the jobs
of the session. A session marked for closing has something in its outbox between
two steps, so only the send that empties it can close the session, and what the
close abandons are the jobs the dispatcher still has at that moment.
-/

namespace DungeonPortfolio.GracefulClose

open DungeonPortfolio.Text DungeonPortfolio.Protocol DungeonPortfolio.World
open DungeonPortfolio.Dispatcher DungeonPortfolio.Server DungeonPortfolio.ServerActs
open DungeonPortfolio.ServerResponses DungeonPortfolio.ServerSteps DungeonPortfolio.Sessions
open DungeonPortfolio.Requests DungeonPortfolio.Streams
open Library.Execution Library.Ledger Library.Trace Library.Stream

set_option autoImplicit false

def isQuit (line : Bytes) : Bool :=
  match parseLine line with
  | .ok request => request.type = .quit
  | .error _ => false

def quits (ref : SessionRef) : Event → Bool
  | .lineHandled other line => other = ref && isQuit line
  | _ => false

def sentQuit (history : List Event) (ref : SessionRef) : Bool := history.any (quits ref)

/-- The line was queued for the session and everything up to its end was sent. -/
def LineSent (history : List Event) (ref : SessionRef) (line : ServerLine) : Prop :=
  ∃ front rest, history = front ++ .queued ref line :: rest ∧
    queuedBytes (front ++ [.queued ref line]) ref <+: sentBytes history ref

/-- DONE or FAIL of the request was queued and completely sent. -/
def Answered (history : List Event) (ref : SessionRef) (requestId : Nat) : Prop :=
  ∃ ok line, LineSent history ref (.completion ok requestId line)

/-- A session that sent QUIT is closed after its last response only when every
request acknowledged to it has been answered. -/
def ClosesAnswered (before : List Event) (event : Event) : Prop :=
  ∀ ref, event = .closed ref .flushed → sentQuit before ref = true →
    ∀ requestId, (ref, requestId) ∈ pendings before → Answered before ref requestId

/-- The session whose outbox, marked for closing, is emptied by the completion
that is handled next. -/
def lastSend (system : System) : Option SessionRef :=
  match system.position, system.completed with
  | .draining, cqe :: _ =>
      match cqe.operation.token with
      | .send ref _ =>
          match system.live ref with
          | some session =>
              if session.closeAfterFlush = true ∧ 0 < cqe.result ∧ session.outbox ≠ [] ∧
                advance session.outbox cqe.result.toNat = [] then some ref
              else none
          | none => none
      | _ => none
  | _, _ => none

/-- When the last send of a session that sent QUIT is handled, no job of its
client is in the queue, with a worker or among the completions. -/
def JobsServed (system : System) : Label → Prop
  | .server _ => ∀ ref ∈ lastSend system, sentQuit system.history ref = true →
      awaited (pipeline system.database) ref = []
  | _ => True

instance (system : System) (label : Label) : Decidable (JobsServed system label) :=
  match label with
  | .server _ => inferInstanceAs (Decidable (∀ ref ∈ lastSend system,
      sentQuit system.history ref = true → awaited (pipeline system.database) ref = []))
  | .accept _ _ | .recv _ _ | .send _ _ | .fail _ _ | .poll _ | .take | .finish _ _ _ | .signal =>
      isTrue trivial

/-- A session that is marked for closing and has an empty outbox is the exempt
one. -/
def Unflushed (exempt : Option SessionRef) (system : System) : Prop :=
  ∀ ref session, system.live ref = some session → session.closeAfterFlush = true →
    session.outbox = [] → exempt = some ref

theorem Unflushed.same {exempt : Option SessionRef} {system next : System}
    (unflushed : Unflushed exempt system) (sessions : next.sessions = system.sessions) :
    Unflushed exempt next := by
  intro ref session alive
  simp only [System.live, sessions] at alive
  exact unflushed ref session alive

theorem Unflushed.replaced {exempt : Option SessionRef} {system next : System} {ref : SessionRef}
    {changed : Session} (unflushed : Unflushed exempt system)
    (stored : next.sessions = Function.update system.sessions ref.fd (some changed))
    (generation : changed.generation = ref.generation)
    (own : changed.closeAfterFlush = true → changed.outbox = [] → exempt = some ref) :
    Unflushed exempt next := by
  intro other found there
  rcases live_updated stored generation there with ⟨rfl, rfl⟩ | ⟨_, before⟩
  · exact own
  · exact unflushed other found before

theorem Unflushed.pushed {exempt : Option SessionRef} {system : System} {ref : SessionRef}
    (unflushed : Unflushed exempt system) (changed : Session) (line : ServerLine)
    (generation : changed.generation = ref.generation) :
    Unflushed exempt (pushLine system ref changed line) := by
  apply unflushed.replaced (push_line_sessions _ _ _ _) generation
  intro _ empty
  simp at empty

theorem unflushed_act {exempt : Option SessionRef} {system next : System}
    (unflushed : Unflushed exempt system) (act : Act system next) : Unflushed exempt next := by
  cases act with
  | arrived =>
      apply unflushed.replaced rfl rfl
      intro marked
      cases marked
  | answered ref session line alive => exact unflushed.pushed session line (live_eq_some.mp alive).2
  | received cqe rest ref session position completed token alive =>
      exact unflushed.replaced rfl (live_eq_some.mp alive).2 (unflushed ref session alive)
  | lineTaken ref session line rest position alive =>
      exact unflushed.replaced rfl (live_eq_some.mp alive).2 (unflushed ref session alive)
  | raised ref session line rest exception position alive =>
      exact unflushed.replaced rfl (live_eq_some.mp alive).2 (unflushed ref session alive)
  | requested ref session operation commandName args alive =>
      have pushed := unflushed.pushed { session with pendingDb := session.pendingDb + 1 }
        (.pending (counterValue system.nextRequestId) commandName) (live_eq_some.mp alive).2
      exact pushed.same rfl
  | closing ref session position alive queued =>
      have same : ({ session with closeAfterFlush := true } : Session).generation =
          ref.generation := (live_eq_some.mp alive).2
      refine unflushed.replaced rfl same ?_
      intro _ empty
      exact absurd empty queued
  | erased ref session cause =>
      intro other found there
      exact unflushed other found (live_erased there).2
  | completed completion rest session position completions notify alive =>
      have popped : Unflushed exempt (popCompletion system completion rest) := unflushed.same rfl
      exact popped.pushed { session with pendingDb := session.pendingDb - 1 } _
        (live_eq_some.mp alive).2
  | _ => exact unflushed.same rfl

theorem unflushed_sent {system next : System} {ref : SessionRef}
    (unflushed : Unflushed none system) (sent : Sent system ref next) :
    Unflushed (some ref) next := by
  cases sent with
  | progressed cqe rest _ session payload position completed token alive =>
      have popped : Unflushed (some ref) { system with completed := rest } := by
        intro other found there marked empty
        cases unflushed other found there marked empty
      exact popped.replaced (progress_sessions _ _ _ _ _) (live_eq_some.mp alive).2
        (fun _ _ => rfl)

theorem unflushed_outside {system next : System} {label : Label}
    (unflushed : Unflushed none system) (taken : Outside system label next) :
    Unflushed none next := by
  cases taken with
  | _ => exact unflushed.same rfl

/-- After the check nobody is exempt. -/
theorem unflushed_checked {system : System} {ref : SessionRef} {order : SectorWorld.CallOrder}
    (unflushed : Unflushed (some ref) (system.maybeCloseAfterFlush order ref.fd))
    (flagged : ∀ session, system.live ref = some session →
      session.writeInFlight = !session.outbox.isEmpty)
    (alive : generationAt system ref.fd = some ref.generation) :
    Unflushed none (system.maybeCloseAfterFlush order ref.fd) := by
  intro other found there marked empty
  obtain rfl := Option.some.inj (unflushed other found there marked empty)
  rcases live_of_generation alive with ⟨session, was⟩
  have lookup := (live_eq_some.mp was).1
  have checked : system.maybeCloseAfterFlush order ref.fd =
      if session.closeAfterFlush && !session.writeInFlight && session.outbox.isEmpty then
        system.closeSession order .flushed ref.fd
      else system := by
    simp only [System.maybeCloseAfterFlush, lookup]
  rw [checked] at there
  split at there
  · rw [close_session_live order .flushed alive] at there
    exact absurd rfl (live_erased there).1
  · rename_i waits
    obtain rfl := Option.some.inj (was.symm.trans there)
    apply absurd _ waits
    rw [flagged session was, marked, empty]
    rfl

theorem sent_session {system next : System} {ref : SessionRef} (sent : Sent system ref next) :
    ∃ session, next.live ref = some session ∧
      session.writeInFlight = !session.outbox.isEmpty := by
  cases sent with
  | progressed cqe rest _ session payload position completed token alive =>
      let after : Session := { session with
        outbox := advance session.outbox cqe.result.toNat
        writeInFlight := !(advance session.outbox cqe.result.toNat).isEmpty }
      refine ⟨after, ?_, rfl⟩
      rw [live_eq_some, progress_sessions]
      exact ⟨Function.update_self _ _ _, (live_eq_some.mp alive).2⟩

theorem unflushed_room {exempt : Option SessionRef} {source room : System}
    (unflushed : Unflushed exempt source) (reclaimed : room = source ∨ room = source.submit) :
    Unflushed exempt room := by
  rcases reclaimed with rfl | rfl
  · exact unflushed
  · exact unflushed.same rfl

theorem coherent_room {source room : System} (coherent : Coherent source)
    (reclaimed : room = source ∨ room = source.submit) : Coherent room := by
  rcases reclaimed with rfl | rfl
  · exact coherent
  · exact coherent_act coherent (Act.submitted source)

theorem unflushed_step {source target : System} {label : Label} (coherent : Coherent source)
    (unflushed : Unflushed none source) (taken : source.step label = some target) :
    Unflushed none target := by
  rcases step_cases taken with ⟨order, _, server⟩ | outside
  · cases server_step_turn coherent server with
    | plain chain =>
        exact (kept_by_acts (fun _ _ _ before act => unflushed_act before act) coherent unflushed
          chain).2
    | sends room middle ref order reclaimed sent checked chain =>
        have begun := unflushed_sent (unflushed_room unflushed reclaimed) sent
        have known := coherent_sent (coherent_room coherent reclaimed) sent
        have ended := (kept_by_acts (fun _ _ _ before act => unflushed_act before act) known begun
          chain).2
        rcases sent_session sent with ⟨session, alive, flagged⟩
        rw [checked] at ended ⊢
        apply unflushed_checked ended _ (generation_of_live alive)
        intro found there
        rw [← Option.some.inj (alive.symm.trans there)]
        exact flagged
  · exact unflushed_outside unflushed outside

/-- Between two steps every session marked for closing has something to send. -/
theorem unflushed_reachable {config : ServerConfig} {poolSize : Nat} {system : System}
    (reached : Reachable System.step (System.start config poolSize) system) :
    Unflushed none system := by
  have both : Coherent system ∧ Unflushed none system := by
    apply reached.invariant
    · refine ⟨coherent_start config poolSize, ?_⟩
      intro ref session alive
      cases alive
    · intro source label next before taken
      exact ⟨coherent_step before.1 taken, unflushed_step before.1 before.2 taken⟩
  exact both.2

/-- A completion that was handled while its session is live was answered. -/
def Prompt (system : System) : Prop :=
  ∀ ref, generationAt system ref.fd = some ref.generation →
    ∀ ticket ∈ handled system.history, ticket.client = ref → ticket.notifyClient = true →
      ticket.address ∈ answers system.history

theorem Prompt.frame {system next : System} {events : List Event} (prompt : Prompt system)
    (history : next.history = system.history ++ events) (nothing : handled events = [])
    (keys : ∀ fd number, generationAt next fd = some number →
      generationAt system fd = some number) : Prompt next := by
  intro ref alive ticket settled client notify
  rw [history, handled_append, nothing, List.append_nil] at settled
  rw [history, answers_append]
  exact List.mem_append_left _
    (prompt ref (keys ref.fd ref.generation alive) ticket settled client notify)

theorem Prompt.same {system next : System} {events : List Event} (prompt : Prompt system)
    (history : next.history = system.history ++ events) (nothing : handled events = [])
    (sessions : next.sessions = system.sessions) : Prompt next := by
  apply prompt.frame history nothing
  intro fd number found
  simp only [generationAt, sessions] at found
  exact found

theorem prompt_arrived {system next : System} {ref : SessionRef} {session : Session}
    {events : List Event} (prompt : Prompt system) (accounted : Accounted system)
    (fresh : ∀ other ∈ acceptedRefs system.history, other.generation ≠ ref.generation)
    (same : session.generation = ref.generation)
    (history : next.history = system.history ++ events) (nothing : handled events = [])
    (stored : next.sessions = Function.update system.sessions ref.fd (some session)) :
    Prompt next := by
  intro other alive ticket settled client notify
  rw [history, handled_append, nothing, List.append_nil] at settled
  rw [history, answers_append]
  apply List.mem_append_left
  rcases live_of_generation alive with ⟨found, there⟩
  rcases live_updated stored same there with ⟨rfl, _⟩ | ⟨_, before⟩
  · have owner := accounted.owned ticket (accounted.balanced.settled_issued settled)
    rw [client] at owner
    exact absurd rfl (fresh other owner)
  · exact prompt other (generation_of_live before) ticket settled client notify

theorem prompt_act {system next : System} (registered : Registered system)
    (accounted : Accounted system) (unwrapped : Unwrapped next) (prompt : Prompt system)
    (act : Act system next) : Prompt next := by
  cases act with
  | arrived cqe rest ref position completed token succeeded fresh =>
      have small : system.nextSessionGeneration + 1 ≤ 2 ^ 64 := unwrapped.1
      refine prompt_arrived prompt accounted ?_ rfl rfl rfl rfl
      intro other member
      rw [fresh]
      exact generation_fresh registered (by omega) member
  | answered ref session line alive =>
      exact prompt.frame (push_line_history _ _ _ line) rfl
        (keys_of_push_line line (generation_of_live alive) (live_eq_some.mp alive).2)
  | received cqe rest ref session position completed token alive =>
      exact prompt.frame rfl rfl (keys_of_replace
        { session with input := session.input ++ cqe.buffer.take cqe.result.toNat }
        (generation_of_live alive) (live_eq_some.mp alive).2)
  | lineTaken ref session line rest position alive =>
      exact prompt.frame rfl rfl (keys_of_replace { session with input := rest }
        (generation_of_live alive) (live_eq_some.mp alive).2)
  | raised ref session line rest exception position alive =>
      exact prompt.frame rfl rfl (keys_of_replace { session with input := rest }
        (generation_of_live alive) (live_eq_some.mp alive).2)
  | saved => exact prompt.same rfl rfl rfl
  | requested ref session operation commandName args alive =>
      have pushed : Prompt (pushLine system ref { session with pendingDb := session.pendingDb + 1 }
          (.pending (counterValue system.nextRequestId) commandName)) :=
        prompt.frame (push_line_history _ _ _ _) rfl
          (keys_of_push_line _ (generation_of_live alive) (live_eq_some.mp alive).2)
      exact pushed.same rfl rfl rfl
  | closing ref session position alive =>
      exact prompt.frame (no_events _) rfl (keys_of_replace
        { session with closeAfterFlush := true } (generation_of_live alive)
        (live_eq_some.mp alive).2)
  | erased ref session cause =>
      apply prompt.frame rfl rfl
      intro fd number found
      simp only [generationAt, erase, Function.update_apply] at found ⊢
      split at found
      · cases found
      · exact found
  | skipped completion rest position completions nobody =>
      intro ref alive ticket settled client notify
      have flat : answers (popCompletion system completion rest).history =
          answers system.history := by
        rw [popCompletion, answers_append]
        exact List.append_nil _
      rw [flat]
      rw [popCompletion, handled_append] at settled
      rcases List.mem_append.mp settled with earlier | new
      · exact prompt ref alive ticket earlier client notify
      · have same : ticket = ticketOfCompletion completion := List.mem_singleton.mp new
        rw [same] at client notify
        rcases nobody with background | dead
        · exact absurd (background.symm.trans notify) Bool.false_ne_true
        · have owner : completion.client = ref := client
          rw [owner] at dead
          exact absurd dead (live_ne_none.mpr alive)
  | completed completion rest session position completions notify alive =>
      have keys : ∀ fd number, generationAt (pushLine (popCompletion system completion rest)
          completion.client { session with pendingDb := session.pendingDb - 1 }
          (.completion completion.ok completion.requestId completion.line)) fd = some number →
            generationAt (popCompletion system completion rest) fd = some number :=
        keys_of_push_line _ (generation_of_live alive) (live_eq_some.mp alive).2
      have history := push_line_history (popCompletion system completion rest) completion.client
        { session with pendingDb := session.pendingDb - 1 }
        (.completion completion.ok completion.requestId completion.line)
      intro ref there ticket settled client noted
      rw [history, popCompletion, handled_append, handled_append] at settled
      rw [history, popCompletion, answers_append, answers_append]
      rcases List.mem_append.mp settled with before | none_
      · rcases List.mem_append.mp before with earlier | new
        · apply List.mem_append_left
          apply List.mem_append_left
          exact prompt ref (keys _ _ there) ticket earlier client noted
        · have same : ticket = ticketOfCompletion completion := List.mem_singleton.mp new
          rw [same]
          exact List.mem_append_right _ (List.mem_singleton_self _)
      · cases none_
  | _ => exact prompt.same (no_events _) rfl rfl

theorem prompt_sent {system next : System} {ref : SessionRef} (prompt : Prompt system)
    (sent : Sent system ref next) : Prompt next := by
  cases sent with
  | progressed cqe rest _ session payload position completed token alive =>
      have popped : Prompt { system with completed := rest } := prompt.same (no_events _) rfl rfl
      apply popped.frame (progress_history _ _ _ _ _) rfl
      intro fd number found
      rw [(progress_frame { system with completed := rest } session payload
        cqe.result.toNat (generation_of_live alive) (live_eq_some.mp alive).2).2.1] at found
      exact found

theorem prompt_outside {system next : System} {label : Label} (prompt : Prompt system)
    (taken : Outside system label next) : Prompt next := by
  cases taken with
  | transmits => exact prompt.same rfl rfl rfl
  | _ => exact prompt.same (no_events _) rfl rfl

/-- What every run keeps as long as the counters have not wrapped. -/
structure Served (system : System) : Prop where
  registered : Registered system
  accounted : Unwrapped system → Accounted system
  prompt : Unwrapped system → Prompt system

theorem prompt_reachable {config : ServerConfig} {poolSize : Nat} {system : System}
    (reached : Reachable System.step (System.start config poolSize) system)
    (unwrapped : Unwrapped system) : Prompt system := by
  have kept : Served system := by
    refine kept_by_run ?_ ?_ ?_ ?_ reached
    · refine ⟨registered_start config poolSize, fun _ => accounted_start config poolSize, ?_⟩
      intro _ ref alive
      cases alive
    · intro source next _ before act
      have earlier : Unwrapped next → Unwrapped source := fun small =>
        ⟨(counters_grow act).1.trans small.1, (counters_grow act).2.trans small.2⟩
      refine ⟨registered_act before.registered act, fun small => ?_, fun small => ?_⟩
      · exact accounted_act before.registered (before.accounted (earlier small)) small act
      · exact prompt_act before.registered (before.accounted (earlier small)) small
          (before.prompt (earlier small)) act
    · intro ref source next _ before sent
      have stay := counters_of_sent sent
      have earlier : Unwrapped next → Unwrapped source := fun small =>
        ⟨stay.1 ▸ small.1, stay.2 ▸ small.2⟩
      refine ⟨registered_sent before.registered sent, fun small => ?_, fun small => ?_⟩
      · exact accounted_sent (before.accounted (earlier small)) sent
      · exact prompt_sent (before.prompt (earlier small)) sent
    · intro source label next _ before taken
      have stay := counters_stay taken
      have earlier : Unwrapped next → Unwrapped source := fun small =>
        ⟨stay.1 ▸ small.1, stay.2 ▸ small.2⟩
      refine ⟨registered_outside before.registered taken, fun small => ?_, fun small => ?_⟩
      · exact accounted_outside (before.accounted (earlier small)) taken
      · exact prompt_outside (before.prompt (earlier small)) taken
  exact kept.prompt unwrapped

theorem request_answered {system : System} {ref : SessionRef} {requestId : Nat}
    (accounted : Accounted system) (prompt : Prompt system)
    (alive : generationAt system ref.fd = some ref.generation)
    (served : awaited (pipeline system.database) ref = [])
    (pending : (ref, requestId) ∈ pendings system.history) :
    (ref, requestId) ∈ answers system.history := by
  rcases ticket_of_pending accounted pending with ⟨ticket, listed, notify, address⟩
  have client : ticket.client = ref := congrArg Prod.fst address
  rcases List.mem_append.mp (accounted.balanced.mem_iff.mp listed) with settled | outstanding
  · rw [← address]
    exact prompt ref alive ticket settled client notify
  · have waiting : ticket ∈ awaited (pipeline system.database) ref := by
      apply List.mem_filter.mpr
      exact ⟨outstanding, by simpa using ⟨client, notify⟩⟩
    rw [served] at waiting
    cases waiting

/-- A queued line is sent once everything queued has been sent. -/
theorem line_sent_of_drained {history : List Event} {ref : SessionRef} {line : ServerLine}
    (queued : Event.queued ref line ∈ history)
    (drained : queuedBytes history ref = sentBytes history ref) : LineSent history ref line := by
  rcases List.append_of_mem queued with ⟨front, rest, split⟩
  refine ⟨front, rest, split, queuedBytes rest ref, ?_⟩
  rw [← drained, ← queued_bytes_append, split, List.append_assoc, List.singleton_append]

theorem answer_queued {history : List Event} {ref : SessionRef} {requestId : Nat}
    (answer : (ref, requestId) ∈ answers history) :
    ∃ ok line, Event.queued ref (.completion ok requestId line) ∈ history := by
  rcases List.mem_filterMap.mp answer with ⟨event, member, same⟩
  cases event with
  | queued other line =>
      cases line with
      | completion ok number text =>
          obtain ⟨rfl, rfl⟩ := Prod.mk.inj (Option.some.inj same)
          exact ⟨ok, text, member⟩
      | _ => cases same
  | _ => cases same

theorem last_send_of_sent {source room middle : System} {ref : SessionRef} {session : Session}
    (reclaimed : room = source ∨ room = source.submit) (sent : Sent room ref middle)
    (alive : middle.live ref = some session) (marked : session.closeAfterFlush = true)
    (empty : session.outbox = []) : lastSend source = some ref := by
  have same : room.position = source.position ∧ room.completed = source.completed ∧
      room.sessions = source.sessions := by
    rcases reclaimed with rfl | rfl
    · exact ⟨rfl, rfl, rfl⟩
    · exact ⟨rfl, rfl, rfl⟩
  cases sent with
  | progressed cqe rest _ before payload position completed token was queued succeeded =>
      rw [live_eq_some, progress_sessions, Function.update_self] at alive
      have after := Option.some.inj alive.1
      have there : source.live ref = some before := by
        rw [← was]
        simp only [System.live, same.2.2]
      rw [← after] at marked empty
      rw [same.1] at position
      rw [same.2.1] at completed
      simp only [lastSend, position, completed, token, there]
      exact if_pos ⟨marked, succeeded, queued, empty⟩

/-- What a departure leaves in the history before the session is closed. -/
def Farewell (ref : SessionRef) (event : Event) : Prop :=
  (∃ other line, other ≠ ref ∧ event = .queued other (.world line)) ∨ ∃ job, event = .submitted job

theorem farewells {system : System} {ref : SessionRef} (coherent : Coherent system)
    (order : SectorWorld.CallOrder)
    (alive : generationAt system ref.fd = some ref.generation) :
    ∀ event ∈ (system.world.call order (.leave ref)).2.map delivery ++
      snapshotEvents system ref (system.world.leave order ref PlayerSnapshot.empty).2.2,
        Farewell ref event := by
  intro event member
  rcases List.mem_append.mp member with delivered | saved
  · rcases List.mem_map.mp delivered with ⟨told, listed, rfl⟩
    have elsewhere := leave_receivers_elsewhere coherent order alive told listed
    exact Or.inl ⟨told.receiver, told.line, fun same => elsewhere (by rw [same]), rfl⟩
  · unfold snapshotEvents at saved
    split at saved
    · cases saved
    · exact Or.inr ⟨_, List.mem_singleton.mp saved⟩

theorem silent_farewells {ref : SessionRef} {events : List Event}
    (farewell : ∀ event ∈ events, Farewell ref event) :
    pendings events = [] ∧ sentBytes events ref = [] ∧ queuedBytes events ref = [] ∧
      events.any (quits ref) = false := by
  have noPending : pendings events = [] := by
    apply List.filterMap_eq_nil_iff.mpr
    intro event member
    rcases farewell event member with ⟨other, line, _, rfl⟩ | ⟨job, rfl⟩
    · rfl
    · rfl
  have noSent : events.filterMap (sentPart ref) = [] := by
    apply List.filterMap_eq_nil_iff.mpr
    intro event member
    rcases farewell event member with ⟨other, line, _, rfl⟩ | ⟨job, rfl⟩
    · rfl
    · rfl
  have noQueued : events.filterMap (queuedPart ref) = [] := by
    apply List.filterMap_eq_nil_iff.mpr
    intro event member
    rcases farewell event member with ⟨other, line, different, rfl⟩ | ⟨job, rfl⟩
    · exact if_neg different
    · rfl
  have noQuit : events.any (quits ref) = false := by
    rw [List.any_eq_false]
    intro event member
    rcases farewell event member with ⟨other, line, _, rfl⟩ | ⟨job, rfl⟩
    · exact Bool.false_ne_true
    · exact Bool.false_ne_true
  simp only [sentBytes, queuedBytes, noPending, noSent, noQueued, noQuit, List.flatten_nil,
    and_self]

theorem closes_answered_other {event : Event} (other : ∀ ref, event ≠ .closed ref .flushed)
    (before : List Event) : ClosesAnswered before event := by
  intro ref same
  exact absurd same (other ref)

/-- The check after a send, in a state where nothing is left to be answered. -/
theorem closes_answered_checked {system : System} {ref : SessionRef} {session : Session}
    (coherent : Coherent system) (order : SectorWorld.CallOrder)
    (alive : system.live ref = some session)
    (every : EveryEvent ClosesAnswered system.history)
    (drained : session.outbox = [] → queuedBytes system.history ref = sentBytes system.history ref)
    (answered : session.closeAfterFlush = true → session.outbox = [] →
      sentQuit system.history ref = true →
        ∀ requestId, (ref, requestId) ∈ pendings system.history →
          (ref, requestId) ∈ answers system.history) :
    EveryEvent ClosesAnswered (system.maybeCloseAfterFlush order ref.fd).history := by
  have key := generation_of_live alive
  simp only [System.maybeCloseAfterFlush, (live_eq_some.mp alive).1]
  split
  · rename_i ready
    simp only [Bool.and_eq_true, Bool.not_eq_true', List.isEmpty_iff] at ready
    let events := (system.world.call order (.leave ref)).2.map delivery ++
      snapshotEvents system ref (system.world.leave order ref PlayerSnapshot.empty).2.2
    have farewell : ∀ event ∈ events, Farewell ref event := farewells coherent order key
    have silent := silent_farewells farewell
    have left : (system.leaveWorld order ref).history = system.history ++ events :=
      leave_world_history coherent order key
    rw [close_session_live order .flushed key]
    simp only [erase, left]
    rw [every_event_snoc]
    constructor
    · apply every_event_append every
      intro event member
      apply closes_answered_other
      intro other same
      rcases farewell event member with ⟨_, _, _, rfl⟩ | ⟨_, rfl⟩
      · cases same
      · cases same
    · intro other same quit requestId pending
      obtain rfl := (Event.closed.inj same).1
      have asked : sentQuit system.history ref = true := by
        rw [sentQuit, List.any_append, silent.2.2.2, Bool.or_false] at quit
        exact quit
      rw [pendings_append, silent.1, List.append_nil] at pending
      have answer := answered ready.1.1 ready.2 asked requestId pending
      rcases answer_queued answer with ⟨ok, line, queued⟩
      refine ⟨ok, line, line_sent_of_drained (List.mem_append_left _ queued) ?_⟩
      rw [queued_bytes_append, sent_bytes_append, silent.2.1, silent.2.2.1, List.append_nil,
        List.append_nil]
      exact drained ready.2
  · exact every

theorem closes_answered_act {system next : System} (unflushed : Unflushed none system)
    (every : EveryEvent ClosesAnswered system.history) (act : Act system next) :
    EveryEvent ClosesAnswered next.history := by
  have one : ∀ {state : System} {event : Event}, EveryEvent ClosesAnswered state.history →
      (∀ ref, event ≠ .closed ref .flushed) →
        EveryEvent ClosesAnswered (state.history ++ [event]) := by
    intro state event before other
    exact every_event_snoc.mpr ⟨before, closes_answered_other other _⟩
  cases act with
  | arrived => exact one every (by simp)
  | answered =>
      rw [push_line_history]
      exact one every (by simp)
  | received => exact one every (by simp)
  | lineTaken => exact one every (by simp)
  | raised => exact one every (by simp)
  | saved => exact one every (by simp)
  | requested ref session operation commandName args =>
      have pushed : EveryEvent ClosesAnswered (pushLine system ref { session with
          pendingDb := session.pendingDb + 1 }
          (.pending (counterValue system.nextRequestId) commandName)).history := by
        rw [push_line_history]
        exact one every (by simp)
      exact one pushed (by simp)
  | erased ref session cause position alive absent flushed =>
      apply one every
      intro other same
      have final := flushed (Event.closed.inj same).2
      cases unflushed ref session alive final.1 final.2.2
  | skipped => exact one every (by simp)
  | completed completion rest =>
      have popped : EveryEvent ClosesAnswered (popCompletion system completion rest).history :=
        one every (by simp)
      rw [push_line_history]
      exact one popped (by simp)
  | _ => exact every

theorem closes_answered_acts {system next : System} (unflushed : Unflushed none system)
    (every : EveryEvent ClosesAnswered system.history) (chain : Acts system next) :
    EveryEvent ClosesAnswered next.history := by
  have both : Unflushed none next ∧ EveryEvent ClosesAnswered next.history := by
    induction chain with
    | refl => exact ⟨unflushed, every⟩
    | tail _ act ih => exact ⟨unflushed_act ih.1 act, closes_answered_act ih.1 ih.2 act⟩
  exact both.2

theorem sent_history {system next : System} {ref : SessionRef} (sent : Sent system ref next) :
    ∃ bytes, next.history = system.history ++ [.sent ref bytes] := by
  cases sent with
  | progressed => exact ⟨_, progress_history _ _ _ _ _⟩

theorem closes_answered_sent {source room middle : System} {ref : SessionRef}
    {order : SectorWorld.CallOrder} (coherent : Coherent source) (registered : Registered source)
    (accounted : Accounted source) (streaming : Streaming source) (prompt : Prompt source)
    (every : EveryEvent ClosesAnswered source.history)
    (served : ∀ quitter ∈ lastSend source, sentQuit source.history quitter = true →
      awaited (pipeline source.database) quitter = [])
    (reclaimed : room = source ∨ room = source.submit) (sent : Sent room ref middle)
    (small : source.nextSessionGeneration ≤ 2 ^ 64) :
    EveryEvent ClosesAnswered (middle.maybeCloseAfterFlush order ref.fd).history := by
  have roomy : Coherent room ∧ Streaming room ∧ Registered room ∧ room.history = source.history ∧
      generationAt room = generationAt source := by
    rcases reclaimed with rfl | rfl
    · exact ⟨coherent, streaming, registered, rfl, rfl⟩
    · have act := Act.submitted source
      exact ⟨coherent_act coherent act, streaming_act registered streaming small act,
        registered_act registered act, rfl, rfl⟩
  rcases sent_session sent with ⟨session, alive, _⟩
  rcases sent_history sent with ⟨bytes, history⟩
  rw [roomy.2.2.2.1] at history
  have flowing := streaming_sent roomy.2.2.1 roomy.2.1 sent
  have there : generationAt source ref.fd = some ref.generation := by
    cases sent with
    | progressed cqe rest _ before payload position completed token was =>
        rw [← roomy.2.2.2.2]
        exact generation_of_live was
  apply closes_answered_checked (coherent_sent roomy.1 sent) order alive
  · rw [history, every_event_snoc]
    refine ⟨every, closes_answered_other ?_ _⟩
    intro other same
    cases same
  · intro empty
    have faithful := flowing.faithful ref session alive
    rw [empty] at faithful
    exact faithful.drained
  · intro marked empty quit requestId pending
    have last := last_send_of_sent reclaimed sent alive marked empty
    have asked : sentQuit source.history ref = true := by
      have silent : [Event.sent ref bytes].any (quits ref) = false := rfl
      rw [history, sentQuit, List.any_append, silent, Bool.or_false] at quit
      exact quit
    have nothing : pendings [Event.sent ref bytes] = [] := rfl
    rw [history, pendings_append, nothing, List.append_nil] at pending
    rw [history, answers_append]
    apply List.mem_append_left
    exact request_answered accounted prompt there (served ref last asked) pending

theorem closes_answered_step {config : ServerConfig} {poolSize : Nat} {source target : System}
    {label : Label}
    (reached : Reachable System.step (System.start config poolSize) source)
    (small : Unwrapped source) (served : JobsServed source label)
    (every : EveryEvent ClosesAnswered source.history)
    (taken : source.step label = some target) : EveryEvent ClosesAnswered target.history := by
  have coherent := coherent_reachable reached
  have unflushed := unflushed_reachable reached
  rcases step_cases taken with ⟨order, rfl, server⟩ | outside
  · cases server_step_turn coherent server with
    | plain chain =>
        exact closes_answered_acts unflushed every chain
    | sends room middle ref order reclaimed sent checked chain =>
        rw [checked]
        exact closes_answered_sent coherent (registered_reachable reached)
          (accounted_reachable reached small) (streaming_reachable reached small.1)
          (prompt_reachable reached small) every served reclaimed sent small.1
  · cases outside with
    | transmits =>
        refine every_event_snoc.mpr ⟨every, closes_answered_other ?_ _⟩
        intro other same
        cases same
    | _ => exact every

def Keeps (config : ServerConfig) (poolSize : Nat) (system : System) : Prop :=
  Reachable System.step (System.start config poolSize) system ∧
    (Unwrapped system → EveryEvent ClosesAnswered system.history)

theorem graceful_close_answers {config : ServerConfig} {poolSize : Nat} {labels : List Label}
    {system : System} (ran : run System.step (System.start config poolSize) labels = some system)
    (met : EveryStep System.step (fun source label _ => JobsServed source label)
      (System.start config poolSize) labels)
    (unwrapped : Unwrapped system) : EveryEvent ClosesAnswered system.history := by
  have kept : Keeps config poolSize system := by
    refine guarded_invariant ?_ ?_ met ran
    · exact ⟨reachable_refl System.step _, fun _ => every_event_nil _⟩
    · intro source label next before served taken
      refine ⟨before.1.next taken, fun small => ?_⟩
      have earlier := unwrapped_step (coherent_reachable before.1) small taken
      exact closes_answered_step before.1 earlier served (before.2 earlier) taken
  exact kept.2 unwrapped

/-- A client sends a command and QUIT in one piece; the worker is quick. -/
def quickWorker : List Label :=
  [.tick, .accept 0 5, .tick, .tick, .tick, .tick, .tick, .recv 2 (ascii "LOGIN a\nQUIT\n"),
    .tick, .tick, .tick, .tick, .tick, .take, .finish 0 true (ascii "x"), .signal, .poll 0, .tick,
    .tick, .tick, .send 0 88, .tick, .tick, .tick, .tick, .send 2 16, .tick, .tick, .tick,
    .send 2 4, .tick, .tick, .tick, .send 2 9, .tick]

theorem graceful_close_answers_quick :
    ∃ system, run System.step (System.start .default 1) quickWorker = some system ∧
      Event.closed ⟨5, 1⟩ .flushed ∈ system.history ∧
      EveryEvent ClosesAnswered system.history := by
  have ends : (run System.step (System.start .default 1) quickWorker).any (fun system =>
      decide (Event.closed ⟨5, 1⟩ .flushed ∈ system.history) &&
        (system.nextSessionGeneration = 2 && system.nextRequestId = 2)) = true := by
    decide
  have met : meets System.step JobsServed (System.start .default 1) quickWorker = true := by
    decide
  rcases (Option.any_eq_true _ _).mp ends with ⟨system, ran, facts⟩
  simp only [Bool.and_eq_true, decide_eq_true_eq] at facts
  refine ⟨system, ran, facts.1, ?_⟩
  apply graceful_close_answers ran (every_step_of_meets met)
  constructor
  · rw [facts.2.1]
    decide
  · rw [facts.2.2]
    decide

def slowWorker : List Label :=
  [.tick, .accept 0 5, .tick, .tick, .tick, .tick, .tick, .recv 2 (ascii "LOGIN a\nQUIT\n"),
    .tick, .tick, .tick, .tick, .tick, .send 1 88, .tick, .tick, .tick, .tick, .send 2 16, .tick,
    .tick, .tick, .send 2 4, .tick]

theorem quit_abandons_acknowledged_request :
    ∃ system before, run System.step (System.start .default 1) slowWorker = some system ∧
      system.history = before ++ [.closed ⟨5, 1⟩ .flushed] ∧ sentQuit before ⟨5, 1⟩ = true ∧
      Event.queued ⟨5, 1⟩ (.pending 1 (ascii "LOGIN")) ∈ before ∧ answers before = [] ∧
      ¬EveryEvent ClosesAnswered system.history := by
  have ends : (run System.step (System.start .default 1) slowWorker).any (fun system =>
      decide (system.history = system.history.dropLast ++ [.closed ⟨5, 1⟩ .flushed]) &&
      sentQuit system.history.dropLast ⟨5, 1⟩ &&
      decide (Event.queued ⟨5, 1⟩ (.pending 1 (ascii "LOGIN")) ∈ system.history.dropLast) &&
      decide (answers system.history.dropLast = [])) = true := by
    decide
  rcases (Option.any_eq_true _ _).mp ends with ⟨system, ran, facts⟩
  simp only [Bool.and_eq_true, decide_eq_true_eq] at facts
  rcases facts with ⟨⟨⟨history, quit⟩, pending⟩, nothing⟩
  refine ⟨system, system.history.dropLast, ran, history, quit, pending, nothing, ?_⟩
  intro every
  have listed : (⟨5, 1⟩, 1) ∈ pendings system.history.dropLast :=
    List.mem_filterMap.mpr ⟨_, pending, rfl⟩
  rcases every _ _ [] history ⟨5, 1⟩ rfl quit 1 listed with ⟨ok, line, front, rest, split, _⟩
  have answer : (⟨5, 1⟩, 1) ∈ answers system.history.dropLast := by
    rw [split]
    exact List.mem_filterMap.mpr ⟨_, List.mem_append_right _ List.mem_cons_self, rfl⟩
  rw [nothing] at answer
  cases answer

end DungeonPortfolio.GracefulClose
