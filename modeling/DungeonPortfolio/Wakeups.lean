import DungeonPortfolio.Library.Doorbell
import DungeonPortfolio.LineLimit

/-!
# Waking the event loop

`push_completion` and the handler of `kDatabaseEvent` ring a doorbell: the lock,
the write with its `EINTR` and `EAGAIN`, the poll, the read loop, the loop over
the completions and the new poll are its moves. Whatever else the server does
leaves it alone.
-/

namespace DungeonPortfolio.Wakeups

open DungeonPortfolio.Text DungeonPortfolio.World DungeonPortfolio.Dispatcher
open DungeonPortfolio.Server DungeonPortfolio.ServerActs DungeonPortfolio.ServerResponses
open DungeonPortfolio.ServerSteps DungeonPortfolio.Streams
open Library.Execution Library.Doorbell

set_option autoImplicit false

/-- The largest value of an eventfd. -/
def eventLimit : Nat := 2 ^ 64 - 2

def pollsPrepared (system : System) : Nat := system.prepared.count .databaseEvent

def pollsArmed (system : System) : Nat :=
  (system.inFlight.map Operation.token).count .databaseEvent

def pollsFired (system : System) : Nat :=
  (system.completed.map fun cqe => cqe.operation.token).count .databaseEvent

/-- The read loop is one step of the server, which is past it when it completes. -/
def watchOf (system : System) : Watch :=
  if system.position = .completing then .collecting
  else if pollsFired system ≠ 0 then .fired
  else if pollsArmed system ≠ 0 then .armed
  else .rearming

/-- `eventCount` counts the writes since the last read; at the limit a write fails. -/
def doorbell (system : System) : Bell DbCompletion where
  shelf := system.database.completions
  owing := system.database.unsignalled
  counter := min system.database.eventCount eventLimit
  watch := watchOf system

/-- There is one poll, from its preparation to the end of its handler. -/
def Watched (system : System) : Prop :=
  pollsPrepared system + pollsArmed system + pollsFired system +
    (if system.position = .completing then 1 else 0) = 1

/-- The server is watched and has rung the bell as it should. -/
structure Wired (system : System) : Prop where
  watched : Watched system
  rung : Reachable (step eventLimit) asleep (doorbell system)

theorem Wired.frame {system next : System} (wired : Wired system)
    (completions : next.database.completions = system.database.completions)
    (unsignalled : next.database.unsignalled = system.database.unsignalled)
    (eventCount : next.database.eventCount = system.database.eventCount)
    (completing : next.position = .completing ↔ system.position = .completing)
    (prepared : pollsPrepared next = pollsPrepared system)
    (armed : pollsArmed next = pollsArmed system) (fired : pollsFired next = pollsFired system) :
    Wired next := by
  have watch : watchOf next = watchOf system := by
    simp only [watchOf, completing, armed, fired]
  have same : doorbell next = doorbell system := by
    simp only [doorbell, completions, unsignalled, eventCount, watch]
  constructor
  · have watched := wired.watched
    simp only [Watched, completing, prepared, armed, fired] at watched ⊢
    exact watched
  · rw [same]
    exact wired.rung

theorem prepared_other {system next : System} {token : CompletionToken}
    (appended : next.prepared = system.prepared ++ [token]) (other : token ≠ .databaseEvent) :
    pollsPrepared next = pollsPrepared system := by
  rw [pollsPrepared, appended, List.count_append, List.count_singleton, if_neg, Nat.add_zero]
  · rfl
  · exact fun same => other (beq_iff_eq.mp same)

theorem fired_pop {system next : System} {cqe : Cqe} {rest : List Cqe}
    (completed : system.completed = cqe :: rest) (popped : next.completed = rest) :
    pollsFired system =
      pollsFired next + if cqe.operation.token = .databaseEvent then 1 else 0 := by
  rw [pollsFired, completed, List.map_cons, List.count_cons, pollsFired, popped]
  by_cases poll : cqe.operation.token = .databaseEvent
  · rw [if_pos poll, if_pos (beq_iff_eq.mpr poll)]
  · rw [if_neg poll, if_neg]
    exact fun same => poll (beq_iff_eq.mp same)

theorem fired_pop_other {system next : System} {cqe : Cqe} {rest : List Cqe}
    (completed : system.completed = cqe :: rest) (popped : next.completed = rest)
    (other : cqe.operation.token ≠ .databaseEvent) : pollsFired next = pollsFired system := by
  rw [fired_pop completed popped, if_neg other, Nat.add_zero]

theorem polls_complete {system : System} {index : Nat} {operation : Operation} {cqe : Cqe}
    (found : system.inFlight[index]? = some operation)
    (same : cqe.operation.token = operation.token) :
    pollsArmed system = pollsArmed (system.complete index cqe) +
        (if operation.token = .databaseEvent then 1 else 0) ∧
      pollsFired (system.complete index cqe) = pollsFired system +
        if operation.token = .databaseEvent then 1 else 0 := by
  rcases List.getElem?_eq_some_iff.mp found with ⟨bound, here⟩
  have taken : (system.inFlight.map Operation.token).Perm
      (operation.token :: (system.inFlight.eraseIdx index).map Operation.token) := by
    rw [← List.map_cons, ← here]
    exact ((List.getElem_cons_eraseIdx_perm bound).symm).map _
  constructor
  · rw [pollsArmed, taken.count_eq, List.count_cons]
    by_cases poll : operation.token = .databaseEvent
    · rw [if_pos poll, if_pos (beq_iff_eq.mpr poll)]
      rfl
    · rw [if_neg poll, if_neg]
      · rfl
      · exact fun equal => poll (beq_iff_eq.mp equal)
  · have appended : (system.complete index cqe).completed = system.completed ++ [cqe] := rfl
    rw [pollsFired, appended, List.map_append, List.count_append, List.map_singleton,
      List.count_singleton, same, pollsFired]
    by_cases poll : operation.token = .databaseEvent
    · rw [if_pos poll, if_pos (beq_iff_eq.mpr poll)]
    · rw [if_neg poll, if_neg]
      exact fun equal => poll (beq_iff_eq.mp equal)

theorem Wired.moves {system next : System} (wired : Wired system) (watched : Watched next)
    {moves : List (Move DbCompletion)}
    (ran : run (step eventLimit) (doorbell system) moves = some (doorbell next)) : Wired next := by
  rcases wired.rung with ⟨earlier, began⟩
  refine ⟨watched, earlier ++ moves, ?_⟩
  rw [run_append, began, Option.bind_some, ran]

theorem watch_collecting {system : System} (completing : system.position = .completing) :
    watchOf system = .collecting := if_pos completing

theorem watch_fired {system : System} (elsewhere : system.position ≠ .completing)
    (fired : pollsFired system ≠ 0) : watchOf system = .fired := by
  rw [watchOf, if_neg elsewhere, if_pos fired]

theorem watch_armed {system : System} (watched : Watched system) (armed : pollsArmed system ≠ 0) :
    watchOf system = .armed := by
  have elsewhere : system.position ≠ .completing := by
    intro completing
    rw [Watched, if_pos completing] at watched
    omega
  rw [Watched, if_neg elsewhere] at watched
  rw [watchOf, if_neg elsewhere, if_neg (by omega), if_pos armed]

theorem watch_rearming {system : System} (watched : Watched system)
    (prepared : pollsPrepared system ≠ 0) : watchOf system = .rearming := by
  have elsewhere : system.position ≠ .completing := by
    intro completing
    rw [Watched, if_pos completing] at watched
    omega
  rw [Watched, if_neg elsewhere] at watched
  rw [watchOf, if_neg elsewhere, if_neg (by omega), if_neg (by omega)]

theorem wired_submitted {system : System} (wired : Wired system) : Wired system.submit := by
  have unbound : (system.prepared.map system.bind).map Operation.token = system.prepared := by
    rw [List.map_map]
    apply List.map_id''
    intro token
    cases token with
    | _ => rfl
  have armed : pollsArmed system.submit = pollsArmed system + pollsPrepared system := by
    rw [pollsArmed, System.submit, List.map_append, List.count_append, unbound]
    rfl
  have prepared : pollsPrepared system.submit = 0 := rfl
  have watched : Watched system.submit := by
    have before := wired.watched
    rw [Watched] at before ⊢
    rw [armed, prepared]
    have fired : pollsFired system.submit = pollsFired system := rfl
    have position : system.submit.position = system.position := rfl
    rw [fired, position]
    omega
  by_cases waiting : pollsPrepared system = 0
  · refine wired.frame rfl rfl rfl Iff.rfl ?_ ?_ rfl
    · rw [prepared, waiting]
    · rw [armed, waiting, Nat.add_zero]
  · have before := watch_rearming wired.watched waiting
    have after : watchOf system.submit = .armed := by
      apply watch_armed watched
      rw [armed]
      omega
    apply @Wired.moves _ _ wired watched [.arm]
    simp only [run, step, doorbell, before, after]
    rfl

theorem wired_awoken {system : System} {cqe : Cqe} {rest : List Cqe} (wired : Wired system)
    (position : system.position = .draining) (completed : system.completed = cqe :: rest)
    (token : cqe.operation.token = .databaseEvent) :
    Wired { system with
      completed := rest, database := system.database.drainEvents, position := .completing } := by
  let next : System := { system with
    completed := rest, database := system.database.drainEvents, position := .completing }
  have popped : pollsFired system = pollsFired next + 1 := by
    rw [fired_pop completed (by rfl : next.completed = rest), if_pos token]
  have elsewhere : system.position ≠ .completing := by
    rw [position]
    exact nofun
  have before : watchOf system = .fired := by
    apply watch_fired elsewhere
    omega
  have watched : Watched next := by
    have once := wired.watched
    rw [Watched, if_neg elsewhere] at once
    have prepared : pollsPrepared next = pollsPrepared system := rfl
    have armed : pollsArmed next = pollsArmed system := rfl
    rw [Watched, if_pos (by rfl : next.position = .completing), prepared, armed]
    omega
  have bell : doorbell next =
      ⟨system.database.completions, system.database.unsignalled, 0, .collecting⟩ := by
    have zero : min next.database.eventCount eventLimit = 0 := Nat.zero_min eventLimit
    rw [doorbell, watch_collecting (by rfl : next.position = .completing), zero]
    rfl
  by_cases empty : min system.database.eventCount eventLimit = 0
  · apply @Wired.moves _ _ wired watched [.wake, .cleared]
    rw [bell]
    simp [run, step, doorbell, before, empty]
  · apply @Wired.moves _ _ wired watched [.wake, .clear, .cleared]
    rw [bell]
    simp [run, step, doorbell, before, empty]

theorem wired_pop {system next : System} {completion : DbCompletion} {rest : List DbCompletion}
    (wired : Wired system) (position : system.position = .completing)
    (completions : system.database.completions = completion :: rest)
    (popped : next.database.completions = rest)
    (unsignalled : next.database.unsignalled = system.database.unsignalled)
    (eventCount : next.database.eventCount = system.database.eventCount)
    (still : next.position = .completing) (prepared : pollsPrepared next = pollsPrepared system)
    (armed : pollsArmed next = pollsArmed system) (fired : pollsFired next = pollsFired system) :
    Wired next := by
  have watched : Watched next := by
    have once := wired.watched
    rw [Watched, if_pos position] at once
    rw [Watched, if_pos still, prepared, armed, fired]
    exact once
  apply @Wired.moves _ _ wired watched [.collect]
  simp [run, step, doorbell, watch_collecting position, watch_collecting still, completions,
    popped, unsignalled, eventCount]

theorem wired_poll_posted {system : System} (wired : Wired system)
    (position : system.position = .completing) (completions : system.database.completions = []) :
    Wired { system.prepare .databaseEvent with position := .draining } := by
  let next : System := { system.prepare .databaseEvent with position := .draining }
  have prepared : pollsPrepared next = pollsPrepared system + 1 := by
    have appended : next.prepared = system.prepared ++ [.databaseEvent] := rfl
    rw [pollsPrepared, appended, List.count_append, List.count_singleton_self]
    rfl
  have watched : Watched next := by
    have once := wired.watched
    rw [Watched, if_pos position] at once
    have armed : pollsArmed next = pollsArmed system := rfl
    have fired : pollsFired next = pollsFired system := rfl
    have elsewhere : next.position ≠ .completing := nofun
    rw [Watched, if_neg elsewhere, prepared, armed, fired]
    omega
  have after : watchOf next = .rearming := by
    apply watch_rearming watched
    omega
  have bell : doorbell next = ⟨[], system.database.unsignalled,
      min system.database.eventCount eventLimit, .rearming⟩ := by
    rw [doorbell, after, show next.database.completions = [] from completions]
    rfl
  apply @Wired.moves _ _ wired watched [.finish]
  rw [bell]
  simp [run, step, doorbell, watch_collecting position, completions]

/-- A response prepares a send at most. -/
theorem push_line_polls (system : System) (ref : SessionRef) (session : Session)
    (line : ServerLine) :
    pollsPrepared (pushLine system ref session line) = pollsPrepared system := by
  have prepared := push_line_prepared system ref session line
  split at prepared
  · rw [pollsPrepared, prepared, List.append_nil]
    rfl
  · exact prepared_other prepared nofun

theorem wired_push {system : System} (wired : Wired system) (ref : SessionRef)
    (session : Session) (line : ServerLine) : Wired (pushLine system ref session line) := by
  refine wired.frame ?_ ?_ ?_ ?_ (push_line_polls system ref session line) ?_ ?_
  · rw [push_line_database]
  · rw [push_line_database]
  · rw [push_line_database]
  · rw [push_line_position]
  · rw [pollsArmed, push_line_in_flight]
    rfl
  · rw [pollsFired, push_line_completed]
    rfl

theorem wired_act {system next : System} (wired : Wired system) (act : Act system next) :
    Wired next := by
  cases act with
  | submitted => exact wired_submitted wired
  | waited position | drained position =>
      exact wired.frame rfl rfl rfl (by simp [position]) rfl rfl rfl
  | dismissed cqe rest ref position completed token =>
      refine wired.frame rfl rfl rfl Iff.rfl rfl rfl (fired_pop_other completed rfl ?_)
      rcases token with recv | ⟨payload, send⟩
      · rw [recv]
        exact nofun
      · rw [send]
        exact nofun
  | refused cqe rest position completed token =>
      refine wired.frame rfl rfl rfl (by simp [position]) rfl rfl (fired_pop_other completed rfl ?_)
      rw [token]
      exact nofun
  | arrived cqe rest ref position completed token =>
      refine wired.frame rfl rfl rfl (by simp [position]) rfl rfl (fired_pop_other completed rfl ?_)
      rw [token]
      exact nofun
  | recvPosted ref position =>
      exact wired.frame rfl rfl rfl (by simp [position]) (prepared_other rfl nofun) rfl rfl
  | acceptPosted position =>
      exact wired.frame rfl rfl rfl (by simp [position]) (prepared_other rfl nofun) rfl rfl
  | answered ref session line => exact wired_push wired ref session line
  | received cqe rest ref session position completed token =>
      refine wired.frame rfl rfl rfl (by simp [position]) rfl rfl (fired_pop_other completed rfl ?_)
      rw [token]
      exact nofun
  | lineTaken | worldCalled | closing => exact wired.frame rfl rfl rfl Iff.rfl rfl rfl rfl
  | erased => exact wired.frame rfl rfl rfl Iff.rfl rfl rfl rfl
  | raised ref session line rest exception position =>
      exact wired.frame rfl rfl rfl (by simp [position]) rfl rfl rfl
  | framed ref session position => exact wired.frame rfl rfl rfl (by simp [position]) rfl rfl rfl
  | parked ref session position => exact wired.frame rfl rfl rfl (by simp [position]) rfl rfl rfl
  | recvReposted ref session position =>
      exact wired.frame rfl rfl rfl (by simp [position]) (prepared_other rfl nofun) rfl rfl
  | saved => exact wired.frame rfl rfl rfl Iff.rfl rfl rfl rfl
  | requested ref session operation commandName args =>
      have pushed := wired_push wired ref { session with pendingDb := session.pendingDb + 1 }
        (.pending (counterValue system.nextRequestId) commandName)
      exact pushed.frame rfl rfl rfl Iff.rfl rfl rfl rfl
  | awoken cqe rest position completed token => exact wired_awoken wired position completed token
  | skipped completion rest position completions =>
      exact wired_pop wired position completions rfl rfl rfl position rfl rfl rfl
  | completed completion rest session position completions =>
      have popped : Wired (popCompletion system completion rest) :=
        wired_pop wired position completions rfl rfl rfl position rfl rfl rfl
      exact wired_push popped _ _ _
  | pollPosted position completions => exact wired_poll_posted wired position completions

theorem wired_sent {system next : System} {ref : SessionRef} (wired : Wired system)
    (sent : Sent system ref next) : Wired next := by
  cases sent with
  | progressed cqe rest ref session payload position completed token =>
      have other : cqe.operation.token ≠ .databaseEvent := by
        rw [token]
        exact nofun
      refine wired.frame ?_ ?_ ?_ ?_ ?_ ?_ ?_
      · rw [progress_database]
      · rw [progress_database]
      · rw [progress_database]
      · rw [progress_position]
      · have prepared := progress_prepared { system with completed := rest } ref session payload
          cqe.result.toNat
        split at prepared
        · rw [pollsPrepared, prepared, List.append_nil]
          rfl
        · exact prepared_other prepared nofun
      · rw [pollsArmed, progress_in_flight]
        rfl
      · exact fired_pop_other completed (progress_completed _ _ _ _ _) other

theorem wired_complete {system : System} {index : Nat} {operation : Operation} {cqe : Cqe}
    (wired : Wired system) (found : system.inFlight[index]? = some operation)
    (same : cqe.operation.token = operation.token) (other : operation.token ≠ .databaseEvent) :
    Wired (system.complete index cqe) := by
  have counts := polls_complete found same
  rw [if_neg other] at counts
  exact wired.frame rfl rfl rfl Iff.rfl rfl counts.1.symm counts.2

theorem wired_fires {system : System} {index : Nat} {connection : Option Nat} (wired : Wired system)
    (found : system.inFlight[index]? = some ⟨.databaseEvent, connection⟩)
    (ready : 0 < system.database.eventCount) :
    Wired (system.complete index ⟨⟨.databaseEvent, connection⟩, 1, []⟩) := by
  let next := system.complete index ⟨⟨.databaseEvent, connection⟩, 1, []⟩
  have counts : pollsArmed system = pollsArmed next + 1 ∧
      pollsFired next = pollsFired system + 1 := by
    have both := @polls_complete _ _ _ ⟨⟨.databaseEvent, connection⟩, 1, []⟩ found rfl
    rw [if_pos rfl] at both
    exact both
  have before : watchOf system = .armed := by
    apply watch_armed wired.watched
    omega
  have elsewhere : system.position ≠ .completing := by
    intro completing
    rw [watch_collecting completing] at before
    cases before
  have watched : Watched next := by
    have once := wired.watched
    have prepared : pollsPrepared next = pollsPrepared system := rfl
    have position : next.position = system.position := rfl
    rw [Watched] at once ⊢
    rw [prepared, position]
    omega
  have after : watchOf next = .fired := by
    have still : next.position ≠ .completing := elsewhere
    apply watch_fired still
    omega
  have nonzero : min system.database.eventCount eventLimit ≠ 0 := by
    have limited : 0 < eventLimit := by decide
    omega
  have bell : doorbell next = ⟨system.database.completions, system.database.unsignalled,
      min system.database.eventCount eventLimit, .fired⟩ := by
    rw [doorbell, after]
    rfl
  apply @Wired.moves _ _ wired watched [.fire]
  rw [bell]
  simp [run, step, doorbell, before, nonzero]

theorem wired_database {system : System} {database : DbDispatcher} (wired : Wired system)
    {moves : List (Move DbCompletion)}
    (ran : run (step eventLimit) (doorbell system) moves =
      some ⟨database.completions, database.unsignalled, min database.eventCount eventLimit,
        watchOf system⟩) : Wired (system.setDatabase database) :=
  wired.moves wired.watched ran

theorem wired_signals {system : System} (wired : Wired system)
    (owed : system.database.unsignalled ≠ 0) :
    Wired (system.setDatabase { system.database with
      unsignalled := system.database.unsignalled - 1
      eventCount := system.database.eventCount + 1 }) := by
  have limited : 0 < eventLimit := by decide
  by_cases room : system.database.eventCount < eventLimit
  · have counts : min (system.database.eventCount + 1) eventLimit =
        min system.database.eventCount eventLimit + 1 := by omega
    have below : min system.database.eventCount eventLimit < eventLimit := by omega
    apply @wired_database _ _ wired [.ring]
    simp only [run, step, doorbell, below, counts]
    simp [owed]
  · have counts : min (system.database.eventCount + 1) eventLimit =
        min system.database.eventCount eventLimit := by omega
    have nonzero : min system.database.eventCount eventLimit ≠ 0 := by omega
    apply @wired_database _ _ wired [.refused]
    simp only [run, step, doorbell, counts]
    simp [owed, nonzero]

theorem failed_is_no_poll {system next : System} {index : Nat} {result : Int}
    {operation : Operation} (found : system.inFlight[index]? = some operation)
    (taken : system.step (.fail index result) = some next) :
    operation.token ≠ .databaseEvent := by
  intro poll
  unfold System.step at taken
  split at taken
  · cases taken
  all_goals simp_all [System.kernelFail]

theorem wired_outside {system next : System} {label : Label} (wired : Wired system)
    (taken : system.step label = some next) (outside : Outside system label next) :
    Wired next := by
  cases outside with
  | accepts index fd connection found =>
      have completed := @wired_complete _ _ _ ⟨⟨.accept, some system.nextConnection⟩, fd, []⟩
        wired found rfl nofun
      exact completed.frame rfl rfl rfl Iff.rfl rfl rfl rfl
  | receives index bytes ref connection found => exact wired_complete wired found rfl nofun
  | transmits index count ref payload connection found =>
      have completed := @wired_complete _ _ _ ⟨⟨.send ref payload, some connection⟩, count, []⟩
        wired found rfl nofun
      exact completed.frame rfl rfl rfl Iff.rfl rfl rfl rfl
  | fails index operation result found =>
      exact wired_complete wired found rfl (failed_is_no_poll found taken)
  | polls index connection found ready => exact wired_fires wired found ready
  | takes => exact wired.frame rfl rfl rfl Iff.rfl rfl rfl rfl
  | finishes index job ok line =>
      apply @wired_database _ _ wired [.put (completionOf job ok line)]
      rfl
  | signals owed => exact wired_signals wired owed

theorem wired_step {system next : System} {label : Label} (coherent : Coherent system)
    (wired : Wired system) (taken : system.step label = some next) : Wired next := by
  rcases step_cases taken with ⟨order, _, server⟩ | outside
  · exact (kept_by_turn (fun _ _ _ before act => wired_act before act)
      (fun _ _ _ _ _ before sent => wired_sent before sent) coherent wired
      (server_step_turn coherent server)).2
  · exact wired_outside wired taken outside

theorem wired_start (config : ServerConfig) (poolSize : Nat) :
    Wired (System.start config poolSize) :=
  ⟨rfl, reachable_refl _ asleep⟩

theorem wired_reachable {config : ServerConfig} {poolSize : Nat} {system : System}
    (reached : Reachable System.step (System.start config poolSize) system) : Wired system := by
  have both : Coherent system ∧ Wired system := by
    apply reached.invariant ⟨coherent_start config poolSize, wired_start config poolSize⟩
    intro source label next before taken
    exact ⟨coherent_step before.1 taken, wired_step before.1 before.2 taken⟩
  exact both.2

/-- The poll is armed and the kernel has nothing to report. -/
def Waiting (system : System) : Prop :=
  (∃ operation ∈ system.inFlight, operation.token = .databaseEvent) ∧
    ∀ index, system.kernelPoll index = none

/-- An armed poll fires as soon as the counter is not zero. -/
theorem counter_of_waiting {system : System} (waiting : Waiting system) :
    pollsArmed system ≠ 0 ∧ system.database.eventCount = 0 := by
  rcases waiting with ⟨⟨operation, flying, poll⟩, still⟩
  rcases operation with ⟨token, connection⟩
  obtain rfl : token = .databaseEvent := poll
  constructor
  · have listed : CompletionToken.databaseEvent ∈ system.inFlight.map Operation.token :=
      List.mem_map.mpr ⟨_, flying, rfl⟩
    exact (List.count_pos_iff.mpr listed).ne'
  · rcases List.getElem?_of_mem flying with ⟨index, found⟩
    have quiet := still index
    simp only [System.kernelPoll, found] at quiet
    by_contra counted
    rw [if_pos (Nat.pos_of_ne_zero counted)] at quiet
    cases quiet

theorem waiting_of_counter {system : System}
    (armed : ∃ operation ∈ system.inFlight, operation.token = .databaseEvent)
    (empty : system.database.eventCount = 0) : Waiting system := by
  refine ⟨armed, ?_⟩
  intro index
  unfold System.kernelPoll
  split
  · rw [if_neg (by omega)]
  · rfl

/-- Whatever the workers, the kernel and the event loop do and however a write
fails, the server only goes on waiting when all completions have been popped. -/
theorem no_wakeup_lost :
    (∀ bell : Bell DbCompletion, Reachable (step eventLimit) asleep bell →
      bell.watch = .armed → step eventLimit bell .fire = none → bell.owing = 0 →
        bell.shelf = []) ∧
    ∀ config poolSize system,
      Reachable System.step (System.start config poolSize) system →
        Reachable (step eventLimit) asleep (doorbell system) ∧
        (Waiting system → system.database.unsignalled = 0 → system.database.completions = []) := by
  refine ⟨fun _ reached armed still rung => shelf_empty reached armed still rung, ?_⟩
  intro config poolSize system reached
  have wired := wired_reachable reached
  refine ⟨wired.rung, ?_⟩
  intro waiting written
  rcases counter_of_waiting waiting with ⟨armed, empty⟩
  have watch := watch_armed wired.watched armed
  apply shelf_empty wired.rung watch _ written
  have zero : min system.database.eventCount eventLimit = 0 := by
    rw [empty]
    exact Nat.zero_min eventLimit
  simp [step, doorbell, zero]

/-- A worker answers a request, and the poll is armed again. -/
def wokenOnce : List Label :=
  [.tick, .accept 0 5, .tick, .tick, .tick, .tick, .tick, .recv 2 (ascii "LOGIN a\n"),
    .tick, .tick, .tick, .tick, .tick, .take, .finish 0 true (ascii "x"), .signal, .poll 0, .tick,
    .tick, .tick, .tick, .tick, .tick]

/-- Two completions; the write for the second one fails. -/
def secondRefused : List (Move DbCompletion) :=
  [.arm, .put ⟨⟨5, 1⟩, 1, true, [], true⟩, .ring, .put ⟨⟨5, 1⟩, 2, true, [], true⟩, .fire,
    .retry, .refused, .wake, .clear, .cleared, .collect, .collect, .finish, .arm]

theorem no_wakeup_lost_once :
    (∃ system, run System.step (System.start .default 1) wokenOnce = some system ∧
      Waiting system ∧ system.database.completions = []) ∧
    ∃ bell, run (step eventLimit) asleep secondRefused = some bell ∧ bell.shelf = [] := by
  constructor
  · have ends : (run System.step (System.start .default 1) wokenOnce).any (fun system =>
        decide (∃ operation ∈ system.inFlight, operation.token = .databaseEvent) &&
        decide (system.database.eventCount = 0) &&
        decide (system.database.unsignalled = 0)) = true := by
      decide
    rcases (Option.any_eq_true _ _).mp ends with ⟨system, ran, facts⟩
    simp only [Bool.and_eq_true, decide_eq_true_eq] at facts
    have waiting := waiting_of_counter facts.1.1 facts.1.2
    exact ⟨system, ran, waiting,
      (no_wakeup_lost.2 .default 1 system ⟨wokenOnce, ran⟩).2 waiting facts.2⟩
  · have ends : (run (step eventLimit) asleep secondRefused).any (fun bell =>
        decide (bell.watch = .armed) && decide (step eventLimit bell .fire = none) &&
        decide (bell.owing = 0)) = true := by
      decide
    rcases (Option.any_eq_true _ _).mp ends with ⟨bell, ran, facts⟩
    simp only [Bool.and_eq_true, decide_eq_true_eq] at facts
    exact ⟨bell, ran,
      no_wakeup_lost.1 bell ⟨secondRefused, ran⟩ facts.1.1 facts.1.2 facts.2⟩

end DungeonPortfolio.Wakeups
