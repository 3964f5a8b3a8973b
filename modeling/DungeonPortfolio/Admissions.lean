import DungeonPortfolio.Turns

/-!
# The door stays open

`run()` posts an accept before its loop and the next one at the end of every accept's
handler, a failed one's too, so one is always on its way; and an fd is open for a
session or for an accept that the loop has yet to handle. Whatever has come in before,
the loop gets back to where it greets the next client.
-/

namespace DungeonPortfolio.Admissions

open DungeonPortfolio.World DungeonPortfolio.Server DungeonPortfolio.ServerActs
open DungeonPortfolio.ServerResponses DungeonPortfolio.ServerSteps DungeonPortfolio.Streams
open DungeonPortfolio.NoStall DungeonPortfolio.Turns
open Library.Execution

set_option autoImplicit false

/-- The accepts from their preparation until the server handles their end. -/
def acceptsPosted (system : System) : Nat := (tokens system).count .accept

/-- The accepts that a handler has yet to prepare. -/
def acceptsDue : Position → Nat
  | .opened _ | .reaccepting => 1
  | _ => 0

structure Tended (system : System) : Prop where
  posted : acceptsPosted system + acceptsDue system.position = 1
  owned : ∀ fd, system.connections fd ≠ none →
    generationAt system fd ≠ none ∨ fd ∈ arrivals system

section

variable {system next : System}

theorem Tended.frame (tended : Tended system)
    (posted : acceptsPosted next + acceptsDue next.position =
      acceptsPosted system + acceptsDue system.position)
    (connections : next.connections = system.connections)
    (keys : generationAt next = generationAt system) (arrived : arrivals next = arrivals system) :
    Tended next where
  posted := posted.trans tended.posted
  owned := by
    rw [connections, keys, arrived]
    exact tended.owned

theorem Tended.posts (tended : Tended system) (more : List CompletionToken)
    (prepared : next.prepared = system.prepared ++ more) (inFlight : next.inFlight = system.inFlight)
    (completed : next.completed = system.completed)
    (due : more.count .accept + acceptsDue next.position = acceptsDue system.position)
    (connections : next.connections = system.connections)
    (keys : generationAt next = generationAt system) : Tended next := by
  refine tended.frame ?_ connections keys ?_
  · have counted := count_prepare more prepared inFlight completed .accept
    rw [acceptsPosted, counted, Nat.add_assoc, due, acceptsPosted]
  · rw [arrivals, completed, arrivals]

theorem arrival_other {cqe : Cqe} (other : cqe.operation.token ≠ .accept) : arrival cqe = none :=
  if_neg fun both => other both.1

theorem Tended.pops {cqe : Cqe} {rest : List Cqe} (tended : Tended system)
    (completed : system.completed = cqe :: rest) (other : cqe.operation.token ≠ .accept)
    (prepared : next.prepared = system.prepared) (inFlight : next.inFlight = system.inFlight)
    (popped : next.completed = rest) (due : acceptsDue next.position = acceptsDue system.position)
    (connections : next.connections = system.connections)
    (keys : generationAt next = generationAt system) : Tended next := by
  refine tended.frame ?_ connections keys ?_
  · have counted := count_pop completed prepared inFlight popped .accept
    rw [if_neg other, Nat.add_zero] at counted
    rw [acceptsPosted, acceptsPosted, due, counted]
  · rw [arrivals, popped, arrivals, completed, List.filterMap_cons_none (arrival_other other)]

theorem tended_push (tended : Tended system) {ref : SessionRef} (session : Session)
    (line : ServerLine) (alive : generationAt system ref.fd = some ref.generation)
    (same : session.generation = ref.generation) : Tended (pushLine system ref session line) := by
  rcases push_line_frame system session line alive same with
    ⟨_, keys, connections, _, position, completed⟩
  refine tended.posts _ (push_line_prepared _ _ _ _) (push_line_in_flight _ _ _ _) completed ?_
    connections keys
  rw [position]
  split
  · exact Nat.zero_add _
  · exact Nat.zero_add _

theorem tended_arrived {cqe : Cqe} {rest : List Cqe} {ref : SessionRef} (tended : Tended system)
    (position : system.position = .draining) (completed : system.completed = cqe :: rest)
    (token : cqe.operation.token = .accept) (fd : ref.fd = cqe.result) (session : Session)
    (popped : next.completed = rest) (prepared : next.prepared = system.prepared)
    (inFlight : next.inFlight = system.inFlight) (opened : next.position = .opened ref)
    (connections : next.connections = system.connections)
    (stored : next.sessions = Function.update system.sessions ref.fd (some session)) :
    Tended next := by
  constructor
  · have before := tended.posted
    have counted := count_pop completed prepared inFlight popped .accept
    rw [acceptsPosted, counted, if_pos token, position] at before
    rw [opened]
    exact before
  · intro other open_
    rw [connections] at open_
    by_cases here : other = ref.fd
    · left
      rw [here, generationAt, stored, Function.update_self]
      exact Option.some_ne_none _
    · rcases tended.owned other open_ with alive | waiting
      · left
        rw [generationAt, stored, Function.update_of_ne here]
        exact alive
      · right
        rw [arrivals, completed, List.mem_filterMap] at waiting
        rcases waiting with ⟨entry, listed, found⟩
        rw [arrivals, popped, List.mem_filterMap]
        rcases List.mem_cons.mp listed with rfl | behind
        · unfold arrival at found
          split_ifs at found
          · exact absurd ((Option.some.inj found).symm.trans fd.symm) here
        · exact ⟨entry, behind, found⟩

theorem tended_erased {ref : SessionRef} (tended : Tended system) (cause : CloseCause) :
    Tended (erase system ref cause) := by
  refine ⟨tended.posted, ?_⟩
  intro fd open_
  by_cases here : fd = ref.fd
  · rw [here] at open_
    exact absurd (Function.update_self _ _ _) open_
  · simp only [erase, Function.update_of_ne here] at open_
    rcases tended.owned fd open_ with alive | waiting
    · left
      simp only [generationAt, erase, Function.update_of_ne here]
      exact alive
    · exact Or.inr waiting

theorem tended_act (tended : Tended system) (act : Act system next) : Tended next := by
  cases act with
  | submitted =>
      refine tended.frame ?_ rfl rfl rfl
      rw [acceptsPosted, (tokens_submit system).count_eq]
      rfl
  | waited position =>
      refine tended.frame ?_ rfl rfl rfl
      rw [position]
      rfl
  | drained position =>
      refine tended.frame ?_ rfl rfl rfl
      rw [position]
      rfl
  | dismissed cqe rest ref position completed token =>
      refine tended.pops completed ?_ rfl rfl rfl rfl rfl rfl
      rcases token with received | ⟨payload, sent⟩
      · rw [received]
        exact CompletionToken.noConfusion
      · rw [sent]
        exact CompletionToken.noConfusion
  | refused cqe rest position completed token failed =>
      refine tended.frame ?_ rfl rfl ?_
      · let popped : System := { system with completed := rest, position := .reaccepting }
        have counted := @count_pop system popped _ _ completed rfl rfl rfl .accept
        rw [if_pos token] at counted
        rw [position]
        exact counted.symm
      · have nobody : arrival cqe = none := if_neg fun both => absurd both.2 (by omega)
        rw [arrivals, arrivals, completed, List.filterMap_cons_none nobody]
  | arrived cqe rest ref position completed token succeeded fresh =>
      exact tended_arrived tended position completed token (congrArg SessionRef.fd fresh) _ rfl rfl
        rfl rfl rfl rfl
  | recvPosted ref position =>
      refine tended.posts [.recv ref] rfl rfl rfl ?_ rfl rfl
      rw [position]
      rfl
  | acceptPosted position =>
      refine tended.posts [.accept] rfl rfl rfl ?_ rfl rfl
      rw [position]
      rfl
  | answered ref session line alive =>
      exact tended_push tended session line (generation_of_live alive) (live_eq_some.mp alive).2
  | received cqe rest ref session position completed token alive =>
      refine tended.pops completed ?_ rfl rfl rfl ?_ rfl
        (generation_at_replace (generation_of_live alive) (live_eq_some.mp alive).2)
      · rw [token]
        exact CompletionToken.noConfusion
      · rw [position]
        rfl
  | lineTaken ref session line rest position alive =>
      exact tended.frame rfl rfl
        (generation_at_replace (generation_of_live alive) (live_eq_some.mp alive).2) rfl
  | raised ref session line rest exception position alive =>
      refine tended.frame ?_ rfl
        (generation_at_replace (generation_of_live alive) (live_eq_some.mp alive).2) rfl
      rw [position]
      rfl
  | framed ref session position =>
      refine tended.frame ?_ rfl rfl rfl
      rw [position]
      rfl
  | worldCalled => exact tended.frame rfl rfl rfl rfl
  | saved => exact tended.frame rfl rfl rfl rfl
  | requested ref session operation commandName args alive =>
      have pushed := tended_push tended { session with pendingDb := session.pendingDb + 1 }
        (.pending (counterValue system.nextRequestId) commandName) (generation_of_live alive)
        (live_eq_some.mp alive).2
      exact pushed.frame rfl rfl rfl rfl
  | closing ref session position alive =>
      exact tended.frame rfl rfl
        (generation_at_replace (generation_of_live alive) (live_eq_some.mp alive).2) rfl
  | parked ref session position =>
      refine tended.frame ?_ rfl rfl rfl
      rw [position]
      rfl
  | recvReposted ref session position =>
      refine tended.posts [.recv ref] rfl rfl rfl ?_ rfl rfl
      rw [position]
      rfl
  | erased ref session cause => exact tended_erased tended cause
  | awoken cqe rest position completed token =>
      refine tended.pops completed ?_ rfl rfl rfl ?_ rfl rfl
      · rw [token]
        exact CompletionToken.noConfusion
      · rw [position]
        rfl
  | skipped => exact tended.frame rfl rfl rfl rfl
  | completed completion rest session position completions notify alive =>
      have popped : Tended (popCompletion system completion rest) := tended.frame rfl rfl rfl rfl
      exact tended_push popped _ _ (generation_of_live alive) (live_eq_some.mp alive).2
  | pollPosted position =>
      refine tended.posts [.databaseEvent] rfl rfl rfl ?_ rfl rfl
      rw [position]
      rfl

theorem tended_sent {ref : SessionRef} (tended : Tended system) (sent : Sent system ref next) :
    Tended next := by
  cases sent with
  | progressed cqe rest _ session payload position completed token alive =>
      have other : cqe.operation.token ≠ .accept := by
        rw [token]
        exact CompletionToken.noConfusion
      have popped : Tended { system with completed := rest } :=
        tended.pops completed other rfl rfl rfl rfl rfl rfl
      rcases progress_frame { system with completed := rest } session payload cqe.result.toNat
        (generation_of_live alive) (live_eq_some.mp alive).2 with ⟨_, keys, connections, _, same⟩
      refine popped.posts _ (progress_prepared _ _ _ _ _) (progress_in_flight _ _ _ _ _)
        (progress_completed _ _ _ _ _) ?_ connections keys
      rw [same]
      split
      · exact Nat.zero_add _
      · exact Nat.zero_add _

theorem tended_complete (tended : Tended system) {index : Nat} {operation : Operation} {cqe : Cqe}
    (found : system.inFlight[index]? = some operation)
    (same : cqe.operation.token = operation.token) (nobody : arrival cqe = none) :
    Tended (system.complete index cqe) := by
  refine tended.frame ?_ rfl rfl ?_
  · rw [acceptsPosted, (tokens_complete found same).count_eq]
    rfl
  · rw [arrivals_complete, nobody]
    exact List.append_nil _

theorem tended_outside {label : Label} (tended : Tended system) (taken : Outside system label next) :
    Tended next := by
  cases taken with
  | accepts index fd connection found vacant =>
      let cqe : Cqe := ⟨⟨.accept, some system.nextConnection⟩, fd, []⟩
      have counted : acceptsPosted (system.complete index cqe) = acceptsPosted system :=
        (tokens_complete found (by rfl)).count_eq _
      have listed : arrivals (system.complete index cqe) = arrivals system ++ [(fd : Int)] := by
        have found : arrival cqe = some (fd : Int) := if_pos ⟨rfl, Int.natCast_nonneg fd⟩
        rw [arrivals_complete, found]
        rfl
      constructor
      · exact (congrArg (· + acceptsDue system.position) counted).trans tended.posted
      · intro other open_
        change _ ∨ other ∈ arrivals (system.complete index cqe)
        rw [listed]
        by_cases here : other = fd
        · exact Or.inr (List.mem_append_right _ (List.mem_singleton.mpr here))
        · simp only [Function.update_of_ne here] at open_
          exact (tended.owned other open_).imp_right (List.mem_append_left _)
  | receives index bytes ref connection found =>
      exact tended_complete tended found rfl (arrival_other CompletionToken.noConfusion)
  | transmits index count ref payload connection found =>
      have ended := @tended_complete _ tended _ _
        ⟨⟨.send ref payload, some connection⟩, count, []⟩ found rfl
        (arrival_other CompletionToken.noConfusion)
      exact ended.frame rfl rfl rfl rfl
  | fails index operation result found negative =>
      refine tended_complete tended found rfl (if_neg ?_)
      rintro ⟨token, succeeded⟩
      exact absurd (negative token) (Int.not_lt.mpr succeeded)
  | polls index connection found =>
      exact tended_complete tended found rfl (arrival_other CompletionToken.noConfusion)
  | _ => exact tended.frame rfl rfl rfl rfl

end

theorem tended_reachable {config : ServerConfig} {poolSize : Nat} {system : System}
    (reached : Reachable System.step (System.start config poolSize) system) : Tended system := by
  refine kept_by_run ⟨rfl, fun _ open_ => absurd rfl open_⟩ ?_ ?_ ?_ reached
  · intro source next _ tended act
    exact tended_act tended act
  · intro ref source next _ tended sent
    exact tended_sent tended sent
  · intro source label next _ tended taken
    exact tended_outside tended taken

def newcomer (system : System) (fd : Nat) : SessionRef :=
  ⟨fd, counterValue system.nextSessionGeneration⟩

/-- The loop waits, only sessions hold fds, and whoever is accepted next is greeted. -/
structure Welcomes (order : SectorWorld.CallOrder) (system : System) : Prop where
  waits : Waits system
  owned : ∀ fd, system.connections fd ≠ none ↔ system.sessions fd ≠ none
  greets : ∀ fd : Nat, system.connections fd = none → ∃ index last session,
    run System.step system [.server order, .accept index fd, .server order] = some last ∧
      last.live (newcomer system fd) = some session ∧
      session.outbox = [terminated ServerLine.hello.text] ∧
      last.history = system.history ++
        [.accepted (newcomer system fd) (some system.nextConnection),
          .queued (newcomer system fd) .hello]

section

variable {config : ServerConfig} {poolSize : Nat} {system : System}

theorem open_fds (coherent : Coherent system) (tended : Tended system) (fd : Int) :
    system.connections fd ≠ none ↔ system.sessions fd ≠ none ∨ fd ∈ arrivals system := by
  have stored : generationAt system fd ≠ none ↔ system.sessions fd ≠ none := by
    rw [generationAt, ne_eq, Option.map_eq_none_iff]
  rw [← stored]
  constructor
  · exact tended.owned fd
  · rintro (alive | waiting)
    · exact coherent.opened fd alive
    · exact (coherent.arriving fd waiting).1

/-- Where the loop waits, its accept is in flight once it has submitted. -/
theorem accept_in_flight (tended : Tended system) (waits : Waits system) :
    ∃ (index : Nat) (connection : Option Nat),
      system.submit.inFlight[index]? = some ⟨.accept, connection⟩ := by
  have posted := tended.posted
  rw [waits.1, acceptsPosted, ← (tokens_submit system).count_eq] at posted
  have there : CompletionToken.accept ∈ tokens system.submit := by
    rw [← List.count_pos_iff]
    exact Nat.lt_of_lt_of_eq Nat.zero_lt_one posted.symm
  have empty : system.submit.completed = [] := waits.2
  have unprepared : system.submit.prepared = [] := rfl
  rw [tokens, empty, unprepared, List.nil_append, List.map_nil, List.append_nil] at there
  rcases List.mem_map.mp there with ⟨⟨token, connection⟩, flying, rfl⟩
  rcases List.mem_iff_getElem?.mp flying with ⟨index, found⟩
  exact ⟨index, connection, found⟩

theorem handle_accept_greets {cqe : Cqe} {fd : Nat} (result : cqe.result = fd)
    (vacant : system.sessions fd = none) :
    ∃ session, (system.handleAccept cqe).live (newcomer system fd) = some session ∧
      session.outbox = [terminated ServerLine.hello.text] ∧
      (system.handleAccept cqe).history = system.history ++
        [.accepted (newcomer system fd) cqe.operation.connection,
          .queued (newcomer system fd) .hello] := by
  let ref := newcomer system fd
  let session : Session := ⟨ref.generation, [], [], false, false, 0⟩
  let opened : System := { system with
    nextSessionGeneration := system.nextSessionGeneration + 1
    sessions := Function.update system.sessions ref.fd (some session)
    position := .opened ref
    history := system.history ++ [.accepted ref cqe.operation.connection] }
  have handled : system.handleAccept cqe = opened.queueResponse ref .hello := by
    have succeeded : 0 ≤ cqe.result := by
      rw [result]
      exact Int.natCast_nonneg fd
    rw [System.handleAccept, if_pos succeeded]
    simp only [result, vacant]
    rfl
  have alive : opened.live ref = some session :=
    live_eq_some.mpr ⟨Function.update_self _ _ _, rfl⟩
  refine ⟨{ session with outbox := [terminated ServerLine.hello.text], writeInFlight := true },
    ?_, rfl, ?_⟩
  · rw [handled, queue_response_live _ alive]
    apply live_eq_some.mpr
    rw [push_line_sessions]
    exact ⟨Function.update_self _ _ _, rfl⟩
  · rw [handled, queue_response_history _ (generation_of_live alive)]
    exact List.append_assoc _ _ _

/-- A client is accepted on a closed fd. -/
theorem newcomer_greeted (order : SectorWorld.CallOrder) (coherent : Coherent system)
    (tended : Tended system) (waits : Waits system) {fd : Nat}
    (closed : system.connections fd = none) : ∃ index last session,
    run System.step system [.server order, .accept index fd, .server order] = some last ∧
      last.live (newcomer system fd) = some session ∧
      session.outbox = [terminated ServerLine.hello.text] ∧
      last.history = system.history ++
        [.accepted (newcomer system fd) (some system.nextConnection),
          .queued (newcomer system fd) .hello] := by
  have vacant : system.sessions fd = none := by
    by_contra there
    exact (open_fds coherent tended fd).mpr (Or.inl there) closed
  rcases accept_in_flight tended waits with ⟨index, connection, found⟩
  let submitted : System := { system.submit with position := .draining }
  let cqe : Cqe := ⟨⟨.accept, some system.nextConnection⟩, fd, []⟩
  let accepted : System := { submitted.complete index cqe with
    connections := Function.update system.connections fd (some system.nextConnection)
    nextConnection := system.nextConnection + 1 }
  have first : system.step (.server order) = some submitted := by
    rw [step_server, System.serverStep, waits.1]
  have second : submitted.step (.accept index fd) = some accepted := by
    have taken : submitted.kernelAccept index fd = some accepted := by
      have flying : submitted.inFlight[index]? = some ⟨.accept, connection⟩ := found
      have free : submitted.connections fd = none := closed
      simp only [System.kernelAccept, flying, free]
      rfl
    exact taken
  have queue : accepted.completed = [cqe] := by
    change system.completed ++ [cqe] = [cqe]
    rw [waits.2]
    rfl
  have third : accepted.step (.server order) =
      some ((setCompleted accepted []).handleAccept cqe) := by
    rw [step_server, server_step_cqe order (by rfl) queue]
    rfl
  rcases @handle_accept_greets (setCompleted accepted []) cqe fd rfl vacant with
    ⟨session, alive, greeting, history⟩
  refine ⟨index, _, session, ?_, alive, greeting, history⟩
  rw [run, first, Option.bind_some, run, second, Option.bind_some, run, third]
  rfl

structure DoorOpen (system : System) : Prop where
  posted : acceptsPosted system + acceptsDue system.position = 1
  owned : ∀ fd, system.connections fd ≠ none ↔ system.sessions fd ≠ none ∨ fd ∈ arrivals system
  returns : ∀ orders, ∃ count last, run System.step system (loopSteps orders count) = some last ∧
    count ≤ work system ∧
      ((∃ exception, last.position = .raised exception) ∨ ∀ order, Welcomes order last)

/-- From every state that the server can reach, the loop gets back to where the next
client is greeted, and no fd is lost on the way. -/
theorem door_stays_open (reached : Reachable System.step (System.start config poolSize) system)
    (unwrapped : admitted system ≤ 2 ^ 64) : DoorOpen system := by
  have tended := tended_reachable reached
  refine ⟨tended.posted, open_fds (coherent_reachable reached) tended, ?_⟩
  intro orders
  rcases turn_ends reached unwrapped orders with ⟨count, last, ran, short, rests, there, _⟩
  refine ⟨count, last, ran, short, rests.imp_right fun waits order => ?_⟩
  have coherent := coherent_reachable there
  have after := tended_reachable there
  have nobody : arrivals last = [] := by
    rw [arrivals, waits.2]
    rfl
  refine ⟨waits, ?_, fun fd closed => newcomer_greeted order coherent after waits closed⟩
  intro fd
  rw [open_fds coherent after, nobody]
  exact or_iff_left List.not_mem_nil

end

/-- An accept fails for want of an fd, then a client is accepted and begins a line. -/
def afterFailedAccept : List Server.Label :=
  [.tick, .fail 0 (-24), .tick, .tick, .tick, .tick, .accept 1 5, .tick, .tick, .tick, .tick,
    .tick, .recv 2 (Text.ascii "QU"), .tick]

theorem door_stays_open_again :
    ∃ system, run System.step (System.start .default 1) afterFailedAccept = some system ∧
      system.connections 5 ≠ none ∧ DoorOpen system := by
  have ends : (run System.step (System.start .default 1) afterFailedAccept).any (fun system =>
      decide (system.connections 5 ≠ none ∧ admitted system ≤ 2 ^ 64)) = true := by
    decide
  rcases Option.any_eq_true _ _ |>.mp ends with ⟨system, ran, holds⟩
  rcases of_decide_eq_true holds with ⟨open_, small⟩
  exact ⟨system, ran, open_, door_stays_open ⟨afterFailedAccept, ran⟩ small⟩

end DungeonPortfolio.Admissions
