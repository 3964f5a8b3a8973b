import DungeonPortfolio.Program
import DungeonPortfolio.ReadBack

/-!
# What clients can rely on

The order in which jobs act, seen from the other end: from the commands that the
loop has taken from its clients to the answers that it has queued to them. The
loop and the pool have recorded their exchanges in the same order, so what real
time says on one side it says on the other.
-/

namespace DungeonPortfolio.EndToEnd

open DungeonPortfolio.Text DungeonPortfolio.World DungeonPortfolio.Dispatcher
open DungeonPortfolio.Schema DungeonPortfolio.Statements DungeonPortfolio.Connection
open DungeonPortfolio.Commands DungeonPortfolio.Executions
open DungeonPortfolio.Server DungeonPortfolio.ServerActs DungeonPortfolio.ServerSteps
open DungeonPortfolio.Workers DungeonPortfolio.ExactlyOnce DungeonPortfolio.Linearized
open DungeonPortfolio.Program DungeonPortfolio.ReadBack
open Library.Execution Library.Simulation Library.Linearization

set_option autoImplicit false

def submittedIn (events : List Server.Event) : List DbJob :=
  (events.filterMap exchangeOf).filterMap Exchange.submitted?

def handledIn (events : List Server.Event) : List DbCompletion :=
  (events.filterMap exchangeOf).filterMap Exchange.handled?

/-- A DONE or FAIL line says what a completion handled before it says. -/
def Backed (history : List Server.Event) : Prop :=
  ∀ front ref ok requestId line back,
    history = front ++ .queued ref (.completion ok requestId line) :: back →
      ⟨ref, requestId, ok, line, true⟩ ∈ handledIn front

theorem handled_append (first second : List Server.Event) :
    handledIn (first ++ second) = handledIn first ++ handledIn second := by
  rw [handledIn, List.filterMap_append, List.filterMap_append]
  rfl

theorem Backed.append {history : List Server.Event} {event : Server.Event} (backed : Backed history)
    (fine : ∀ ref ok requestId line, event = .queued ref (.completion ok requestId line) →
      ⟨ref, requestId, ok, line, true⟩ ∈ handledIn history) : Backed (history ++ [event]) := by
  intro front ref ok requestId line back split
  rcases List.eq_nil_or_concat back with rfl | ⟨rest, last, rfl⟩
  · rcases List.append_inj' split rfl with ⟨rfl, same⟩
    exact fine ref ok requestId line (List.singleton_inj.mp same)
  · rw [List.concat_eq_append, ← List.cons_append, ← List.append_assoc] at split
    rcases List.append_inj' split rfl with ⟨earlier, _⟩
    exact backed front ref ok requestId line rest earlier

theorem Backed.other {history : List Server.Event} (backed : Backed history) {event : Server.Event}
    (silent : ∀ ref line, event ≠ .queued ref line) : Backed (history ++ [event]) :=
  backed.append fun ref _ _ _ same => absurd same (silent ref _)

theorem backed_push {system : System} {ref : SessionRef} {session : Session} {line : ServerLine}
    (backed : Backed system.history)
    (fine : ∀ ok requestId text, line = .completion ok requestId text →
      ⟨ref, requestId, ok, text, true⟩ ∈ handledIn system.history) :
    Backed (pushLine system ref session line).history := by
  rw [push_line_history]
  apply backed.append
  intro other ok requestId text same
  cases same
  exact fine ok requestId text rfl

theorem backed_act {system next : System} (backed : Backed system.history)
    (act : ServerActs.Act system next) : Backed next.history := by
  cases act with
  | submitted | waited | drained | dismissed | refused | recvPosted | acceptPosted | framed
  | worldCalled | closing | parked | recvReposted | awoken | pollPosted => exact backed
  | arrived | received | lineTaken | raised | saved | erased | skipped => exact backed.other nofun
  | answered ref session line alive direct =>
      apply backed_push backed
      rintro ok requestId text rfl
      cases direct
  | requested =>
      refine Backed.other (backed_push backed ?_) nofun
      intro ok requestId text same
      cases same
  | completed completion rest session position completions notify alive =>
      have handled : Backed (ServerActs.popCompletion system completion rest).history :=
        backed.other nofun
      apply backed_push handled
      intro ok requestId text same
      cases same
      have listed : completion ∈ handledIn (system.history ++ [.handled completion]) := by
        rw [handled_append]
        exact List.mem_append_right _ (List.mem_singleton_self completion)
      rw [← notify]
      exact listed

theorem backed_reachable {config : ServerConfig} {poolSize : Nat} {system : System}
    (reached : Reachable System.step (System.start config poolSize) system) :
    Backed system.history := by
  refine @kept_by_run (fun system => Backed system.history) config poolSize ?_ ?_ ?_ ?_ system reached
  · intro front ref ok requestId line back split
    exact absurd split.symm (List.append_ne_nil_of_right_ne_nil _ (List.cons_ne_nil _ _))
  · exact fun _ _ _ backed act => backed_act backed act
  · intro ref system next _ backed sent
    cases sent with
    | progressed cqe rest ref session payload =>
        rw [progress_history]
        exact backed.other nofun
  · intro system label next _ backed outside
    cases outside with
    | accepts | receives | fails | polls | takes | finishes | signals => exact backed
    | transmits => exact backed.other nofun

theorem pool_records {mysql : Mysql} {pool after : Pool} {label : Workers.Label}
    (taken : Workers.step mysql pool label = some after) :
    ∃ event : Option Workers.Event, after.history = pool.history ++ event.toList := by
  have silent : ∀ {other : Pool}, other.history = pool.history →
      ∃ event : Option Workers.Event, other.history = pool.history ++ event.toList :=
    fun same => ⟨none, same.trans (List.append_nil _).symm⟩
  cases label with
  | submit job =>
      cases taken
      exact ⟨some _, rfl⟩
  | close | drainEvents =>
      cases taken
      exact silent rfl
  | join =>
      rcases Pool.join_cases taken with ⟨_, rfl⟩
      exact silent rfl
  | popCompletion =>
      cases taken
      unfold Pool.popCompletion
      cases pool.completions with
      | nil => exact silent rfl
      | cons completion rest => exact ⟨some (.delivered completion), rfl⟩
  | worker index chosen =>
      simp only [Workers.step] at taken
      split_ifs at taken
      cases chosen with
      | pop =>
          rcases Pool.pop_cases taken with ⟨_, ⟨_, _, rfl⟩ | ⟨job, rest, phase, _, _, rfl⟩⟩ <;>
            exact ⟨some _, rfl⟩
      | connect outcome =>
          rcases Pool.connect_cases taken with ⟨popped, _, ⟨_, rfl⟩ | ⟨error, _, rfl⟩⟩ <;>
            exact silent rfl
      | execute choice =>
          rcases Pool.execute_cases taken with
            ⟨popped, statement, next, link, answer, store, later, _, _, _, rfl⟩
          exact ⟨some _, rfl⟩
      | push =>
          rcases Pool.push_cases taken with ⟨popped, script, result, _, _, rfl⟩
          exact ⟨some _, rfl⟩
      | signal =>
          rcases Pool.signal_cases taken with ⟨_, rfl⟩
          exact silent rfl
      | lose =>
          rcases Pool.lose_cases taken with ⟨link, _, rfl⟩
          exact silent rfl

theorem accepted_at {pool : Pool} (accounted : Accounted pool) {ticket : Nat} {job : DbJob}
    (listed : (ticket, job) ∈ pool.accepted) :
    (pool.accepted.map Prod.snd)[ticket]? = some job ∧ ticket < pool.accepted.length := by
  rcases List.mem_iff_getElem.mp listed with ⟨place, bound, there⟩
  have number : pool.accepted[place].1 = place := by
    have numbers := congrArg (fun tickets => tickets[place]?) accounted.numbered
    simpa [bound] using numbers
  rw [there] at number
  obtain rfl : ticket = place := number
  refine ⟨?_, bound⟩
  rw [List.getElem?_map, List.getElem?_eq_getElem bound, there]
  rfl

/-- The pool as it was when the loop had recorded the front of its history. -/
theorem pool_before {mysql : Mysql} {poolSize : Nat} {tables : Tables} {pool : Pool}
    {labels : List Workers.Label} {front back : List Server.Event}
    (ran : run (Workers.step mysql) (Pool.start poolSize tables) labels = some pool)
    (exchanged : exchanges pool = (front ++ back).filterMap exchangeOf) :
    ∃ middle later, pool.history = middle.history ++ later ∧ Accounted middle ∧
      middle.accepted.map Prod.snd = submittedIn front ∧ middle.delivered = handledIn front := by
  rw [List.filterMap_append] at exchanged
  rcases List.filterMap_eq_append_iff.mp exchanged with ⟨earlier, later, split, same, _⟩
  rcases recorded_before Pool.history (fun _ _ _ taken => pool_records taken) rfl ran
    split with ⟨before, after, middle, _, reached, rfl⟩
  refine ⟨middle, later, split, accounted_run reached, ?_, ?_⟩
  · rw [accepted_of_exchanges, exchanges, same]
    rfl
  · rw [delivered_of_exchanges, exchanges, same]
    rfl

/-- The jobs in the order `turns` explain what clients have been answered: executed
one after another they give the answers, and what was answered before a command
was taken from a client comes before it. -/
structure Explained (mysql : Mysql) (tables : Tables) (process : Process) (turns : List Turn) :
    Prop where
  distinct : (turns.map Turn.ticket).Nodup
  submitted : ∀ turn ∈ turns,
    (submittedIn process.system.history)[turn.ticket]? = some turn.job
  executed : History mysql false tables (turns.map Turn.entry) process.pool.store.tables
  answers : ∀ front ref ok requestId line back,
    process.system.history = front ++ .queued ref (.completion ok requestId line) :: back →
      ∃ turn ∈ turns, turn.completion = ⟨ref, requestId, ok, line, true⟩ ∧
        turn.ticket < (submittedIn front).length ∧
        ∀ later ∈ turns, (submittedIn front).length ≤ later.ticket →
          Precedes (turns.map Turn.ticket) turn.ticket later.ticket

theorem explained_of_sequential {mysql : Mysql} {poolSize : Nat} {tables : Tables}
    {process : Process} {labels : List Workers.Label} {turns : List Turn}
    (standing : Standing process) (backed : Backed process.system.history)
    (ran : run (Workers.step mysql) (Pool.start poolSize tables) labels = some process.pool)
    (sequential : Sequential mysql tables process.pool turns) :
    Explained mysql tables process turns := by
  refine ⟨sequential.distinct, ?_, sequential.history, ?_⟩
  · intro turn listed
    have there := (accepted_at standing.accounted (sequential.accepted turn listed)).1
    rw [accepted_of_exchanges, standing.exchanged] at there
    exact there
  · intro front ref ok requestId line back split
    have exchanged := standing.exchanged
    rw [split] at exchanged
    rcases pool_before ran exchanged with ⟨middle, later, grown, accounted, taken, handled⟩
    have delivered := backed front ref ok requestId line back split
    rw [← handled] at delivered
    have answered : ⟨ref, requestId, ok, line, true⟩ ∈ middle.pushed.map fun entry => entry.2.2 := by
      rw [accounted.deliveries]
      exact List.mem_append_left _ delivered
    rcases List.mem_map.mp answered with ⟨⟨index, ticket, completion⟩, pushed, same⟩
    have still : (index, ticket, completion) ∈ process.pool.pushed := by
      rw [Pool.pushed, grown, List.filterMap_append]
      exact List.mem_append_left _ pushed
    rcases sequential.completions index ticket completion still with ⟨job, turn⟩
    have count : middle.accepted.length = (submittedIn front).length := by
      rw [← taken, List.length_map]
    have early : ticket < middle.accepted.length := by
      rcases accounted.answered index ticket completion pushed with ⟨other, popped, _⟩
      exact (accepted_at accounted (popped_accepted accounted popped)).2
    refine ⟨⟨ticket, job, completion⟩, turn, same, count ▸ early, ?_⟩
    intro other listed late
    have invoked_late : other.ticket ∈ later.filterMap invoked := by
      have accepted := sequential.accepted other listed
      rw [Pool.accepted, grown, List.filterMap_append, List.mem_append] at accepted
      rcases accepted with before | behind
      · have small := (accepted_at accounted before).2
        omega
      · rcases List.mem_filterMap.mp behind with ⟨event, there, accepts⟩
        exact List.mem_filterMap.mpr ⟨event, there, by rw [invoked, accepts]; rfl⟩
    have responded_early : ticket ∈ middle.history.filterMap responded := by
      rcases List.mem_filterMap.mp pushed with ⟨event, there, pushes⟩
      exact List.mem_filterMap.mpr ⟨event, there, by rw [responded, pushes]; rfl⟩
    exact sequential.realTime middle.history later ticket other.ticket grown responded_early
      invoked_late (List.mem_map.mpr ⟨other, listed, rfl⟩)

theorem backed_run {mysql : Mysql} {config : ServerConfig} {poolSize : Nat} {tables : Tables}
    {process : Process} {labels : List Program.Label}
    (ran : run (Program.step mysql) (Program.start config poolSize tables) labels = some process) :
    Backed process.system.history := by
  rcases loop_run ran with ⟨moves, shadow, followed, loop⟩
  rw [history_of_loop loop]
  exact backed_reachable ⟨moves, followed⟩

/-- The order in which the jobs of a run of the process act. -/
theorem process_sequential {mysql : Mysql} {config : ServerConfig} {poolSize : Nat} {tables : Tables}
    {process : Process} {labels : List Program.Label} (sound : Sound mysql tables)
    (healthy : ∀ label ∈ labels, WorkersAre Linearized.Healthy label)
    (ran : run (Program.step mysql) (Program.start config poolSize tables) labels = some process) :
    ∃ moves turns, run (Workers.step mysql) (Pool.start poolSize tables) moves = some process.pool ∧
      Sequential mysql tables process.pool turns := by
  have free : ∀ label, isWorker label = false → Linearized.Healthy label := by
    intro label other
    cases label with
    | submit | close | join | popCompletion | drainEvents => trivial
    | worker => cases other
  rcases pool_run Linearized.Healthy free healthy ran with ⟨moves, followed, fit⟩
  rcases orderly_run sound fit followed with ⟨accounted, turns, linear⟩
  exact ⟨moves, turns, followed, sequential_of_linear accounted linear⟩

/-- However many clients send what they like, however workers interleave their
statements and however the kernel completes operations: one order of the jobs
explains every answer that has been queued to anybody. -/
theorem answers_explained {mysql : Mysql} {config : ServerConfig} {poolSize : Nat} {tables : Tables}
    {process : Process} {labels : List Program.Label} (sound : Sound mysql tables)
    (healthy : ∀ label ∈ labels, WorkersAre Linearized.Healthy label)
    (ran : run (Program.step mysql) (Program.start config poolSize tables) labels = some process) :
    ∃ turns, Explained mysql tables process turns := by
  rcases process_sequential sound healthy ran with ⟨moves, turns, followed, sequential⟩
  exact ⟨turns, explained_of_sequential (standing_run ran) (backed_run ran) followed sequential⟩

theorem answers_explained_one :
    ∃ process, run (Program.step Mysql.binary) (Program.start .default 2 Tables.empty) oneClient =
      some process ∧ (handledIn process.system.history).length = 2 ∧
        ∃ turns, Explained Mysql.binary Tables.empty process turns := by
  have ends : (run (Program.step Mysql.binary) (Program.start .default 2 Tables.empty)
      oneClient).any (fun process => (handledIn process.system.history).length = 2) = true := by
    decide
  rcases Option.any_eq_true _ _ |>.mp ends with ⟨process, ran, answered⟩
  exact ⟨process, ran, of_decide_eq_true answered,
    answers_explained (sound_empty Mysql.binary) (by decide) ran⟩

section

variable {mysql : Mysql} {faulty : Bool} {first last : Tables} {entries : List (DbJob × DbCompletion)}

theorem history_at {front back : List (DbJob × DbCompletion)} {job : DbJob}
    {completion : DbCompletion}
    (history : History mysql faulty first (front ++ (job, completion) :: back) last) :
    ∃ before order after, History mysql faulty first front before ∧
      Executes mysql faulty order before job completion after ∧
      History mysql faulty after back last := by
  induction back using List.reverseRecOn generalizing last with
  | nil =>
      generalize same : front ++ [(job, completion)] = entries at history
      cases history with
      | start => exact absurd same (List.append_ne_nil_of_right_ne_nil _ (List.cons_ne_nil _ _))
      | next earlier executes =>
          rcases List.append_inj' same rfl with ⟨rfl, here⟩
          cases here
          exact ⟨_, _, _, earlier, executes, History.start _⟩
  | append_singleton back final ih =>
      generalize same : front ++ (job, completion) :: (back ++ [final]) = entries at history
      cases history with
      | start => exact absurd same (List.append_ne_nil_of_right_ne_nil _ (List.cons_ne_nil _ _))
      | next earlier executes =>
          rw [← List.cons_append, ← List.append_assoc] at same
          rcases List.append_inj' same rfl with ⟨rfl, here⟩
          cases here
          rcases ih earlier with ⟨before, order, after, ahead, runs, behind⟩
          exact ⟨before, order, after, ahead, runs, History.next behind executes⟩

theorem history_players (sound : Sound mysql first)
    (history : History mysql faulty first entries last) : first.players <+: last.players := by
  induction history with
  | start => exact List.prefix_refl _
  | next earlier executes ih =>
      have before := sound_history sound earlier
      exact @executes_keeps _ _ _ _ (fun tables => first.players <+: tables.players) _ _ _ before
        executes ih (ih.trans (players_atomically _ _))

theorem registered_row {order : RowOrder} {before after : Tables} {job : DbJob}
    {completion : DbCompletion} {account displayName : Bytes} (sound : Sound mysql before)
    (executes : Executes mysql faulty order before job completion after)
    (register : commandOf job = .ok (.register account displayName)) (ok : completion.ok = true) :
    ∃ row ∈ after.players, row.account = account ∧ row.displayName = displayName ∧
      before.player mysql account = none := by
  rcases executes_all_or_nothing sound executes with ⟨failed, _⟩ | ⟨line, _, outcome⟩
  · cases failed.symm.trans ok
  · rcases atomically_ok outcome with ⟨command, meant, ⟨written, writes, rfl⟩ | ⟨reads, _⟩⟩
    · cases register.symm.trans meant
      rcases writes with ⟨error, failed, _⟩ | ⟨_, absent, rfl⟩
      · cases failed
      · exact ⟨⟨before.nextPlayerId, account, displayName⟩,
          List.mem_append_right _ (List.mem_singleton_self _), rfl, rfl, absent⟩
    · cases register.symm.trans meant
      cases reads

end

def loginAnswer (job : DbJob) (row : PlayerRow) (account : Bytes) : DbCompletion :=
  if nameBuffer < row.displayName.length then
    errorCompletion job (.runtimeError (ascii "invalid player row for account: " ++ account))
  else completed job (loginLine row.id account row.displayName)

/-- An account lasts as long as the process: whoever registers the name again is
refused, and every LOGIN finds the one row, whose display name it cannot fetch when
that is longer than its buffer. -/
structure AccountsLast (mysql : Mysql) (turns : List Turn) : Prop where
  once : ∀ first ∈ turns, ∀ second ∈ turns, ∀ account displayName other otherName,
    Precedes (turns.map Turn.ticket) first.ticket second.ticket →
    commandOf first.job = .ok (.register account displayName) → first.completion.ok = true →
    commandOf second.job = .ok (.register other otherName) → mysql.same account other = true →
      second.completion.ok = false
  found : ∀ registration ∈ turns, ∀ account displayName,
    commandOf registration.job = .ok (.register account displayName) →
    registration.completion.ok = true →
      ∃ row : PlayerRow, row.account = account ∧ row.displayName = displayName ∧
        ∀ login ∈ turns, ∀ asked,
          Precedes (turns.map Turn.ticket) registration.ticket login.ticket →
          commandOf login.job = .ok (.login asked) → mysql.same account asked = true →
            login.completion = loginAnswer login.job row asked

section

variable {mysql : Mysql} {tables last : Tables} {turns : List Turn}

theorem row_later (sound : Sound mysql tables)
    (history : History mysql false tables (turns.map Turn.entry) last)
    (distinct : (turns.map Turn.ticket).Nodup) {registration : Turn} {account displayName : Bytes}
    (there : registration ∈ turns)
    (register : commandOf registration.job = .ok (.register account displayName))
    (ok : registration.completion.ok = true) :
    ∃ row : PlayerRow, row.account = account ∧ row.displayName = displayName ∧
      ∀ later ∈ turns, Precedes (turns.map Turn.ticket) registration.ticket later.ticket →
        ∃ before order after, Sound mysql before ∧ row ∈ before.players ∧
          Executes mysql false order before later.job later.completion after := by
  rcases List.append_of_mem there with ⟨front, rest, parts⟩
  have entries : turns.map Turn.entry = front.map Turn.entry ++
      (registration.job, registration.completion) :: rest.map Turn.entry := by
    rw [parts, List.map_append]
    rfl
  rw [entries] at history
  rcases history_at history with ⟨before, order, after, ahead, executes, behind⟩
  have sound_before := sound_history sound ahead
  have sound_after := (executes_cases sound_before executes).1
  rcases registered_row sound_before executes register ok with ⟨row, listed, named, shown, _⟩
  refine ⟨row, named, shown, ?_⟩
  intro later member precedes
  rcases precedes.behind distinct parts member with ⟨middle, back, rfl⟩
  rw [List.map_append] at behind
  rcases history_at behind with ⟨found, order, left, between, runs, _⟩
  have grown := history_players sound_after between
  exact ⟨found, order, left, sound_history sound_after between, grown.subset listed, runs⟩

theorem accounts_last_of_history (sound : Sound mysql tables)
    (history : History mysql false tables (turns.map Turn.entry) last)
    (distinct : (turns.map Turn.ticket).Nodup) : AccountsLast mysql turns := by
  constructor
  · intro first one second other account displayName asked otherName precedes register ok again same
    rcases row_later sound history distinct one register ok with ⟨row, named, _, later⟩
    rcases later second other precedes with ⟨before, order, after, sound_before, listed, runs⟩
    by_contra succeeded
    rcases registered_row sound_before runs again (Bool.of_not_eq_false succeeded) with
      ⟨_, _, _, _, absent⟩
    have there := player_found sound_before listed (named ▸ same)
    cases absent.symm.trans there
  · intro registration there account displayName register ok
    rcases row_later sound history distinct there register ok with ⟨row, named, shown, later⟩
    refine ⟨row, named, shown, ?_⟩
    intro login listed asked precedes meant same
    rcases later login listed precedes with ⟨before, order, after, sound_before, member, runs⟩
    have outcome := login_outcome order meant (player_found sound_before member (named ▸ same))
    have only := (executes_only sound_before runs).1
    rw [executedAlone, outcome] at only
    rw [only, loginAnswer]
    split_ifs <;> rfl

end

/-- In the order that explains the answers, accounts last. -/
theorem accounts_last {mysql : Mysql} {config : ServerConfig} {poolSize : Nat} {tables : Tables}
    {process : Process} {labels : List Program.Label} (sound : Sound mysql tables)
    (healthy : ∀ label ∈ labels, WorkersAre Linearized.Healthy label)
    (ran : run (Program.step mysql) (Program.start config poolSize tables) labels = some process) :
    ∃ turns, Explained mysql tables process turns ∧ AccountsLast mysql turns := by
  rcases process_sequential sound healthy ran with ⟨moves, turns, followed, sequential⟩
  exact ⟨turns, explained_of_sequential (standing_run ran) (backed_run ran) followed sequential,
    accounts_last_of_history sound sequential.history sequential.distinct⟩

theorem accounts_last_one :
    ∃ process, run (Program.step Mysql.binary) (Program.start .default 2 Tables.empty) oneClient =
      some process ∧ process.pool.store.tables.players = [⟨1, ascii "ada", ascii "Ada"⟩] ∧
        ∃ turns, Explained Mysql.binary Tables.empty process turns ∧
          AccountsLast Mysql.binary turns := by
  have ends : (run (Program.step Mysql.binary) (Program.start .default 2 Tables.empty)
      oneClient).any (fun process =>
        process.pool.store.tables.players = [⟨1, ascii "ada", ascii "Ada"⟩]) = true := by
    decide
  rcases Option.any_eq_true _ _ |>.mp ends with ⟨process, ran, stored⟩
  exact ⟨process, ran, of_decide_eq_true stored,
    accounts_last (sound_empty Mysql.binary) (by decide) ran⟩

end DungeonPortfolio.EndToEnd
