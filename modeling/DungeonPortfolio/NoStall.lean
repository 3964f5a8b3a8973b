import DungeonPortfolio.GracefulClose

/-!
# Sessions neither stall nor double their operations

Besides its send, a live session has one recv outstanding, except while its own
recv handler runs and after it has been marked for closing.
-/

namespace DungeonPortfolio.NoStall

open DungeonPortfolio.Text DungeonPortfolio.World DungeonPortfolio.Dispatcher
open DungeonPortfolio.Server DungeonPortfolio.ServerActs DungeonPortfolio.ServerSteps
open DungeonPortfolio.Sessions DungeonPortfolio.Requests DungeonPortfolio.Streams
open DungeonPortfolio.GracefulClose
open Library.Execution

set_option autoImplicit false

/-- The recvs of a session from their preparation until the server handles their
end. -/
def receives (system : System) (ref : SessionRef) : Nat := (tokens system).count (.recv ref)

def awaitedReceives (position : Position) (ref : SessionRef) (closing : Bool) : Nat :=
  if busyWith position = some ref ∨ closing = true then 0 else 1

structure Receiving (system : System) : Prop where
  unposted : ∀ ref, ref ∉ acceptedRefs system.history → receives system ref = 0
  posted : ∀ ref session, system.live ref = some session →
    receives system ref = awaitedReceives system.position ref session.closeAfterFlush
  opening : ∀ ref session, system.position = .opened ref → system.live ref = some session →
    session.closeAfterFlush = false

def Running (system : System) : Prop := ∀ exception, system.position ≠ .raised exception

theorem count_pop {system next : System} {cqe : Cqe} {rest : List Cqe}
    (completed : system.completed = cqe :: rest) (prepared : next.prepared = system.prepared)
    (inFlight : next.inFlight = system.inFlight) (popped : next.completed = rest)
    (token : CompletionToken) :
    (tokens system).count token =
      (tokens next).count token + if cqe.operation.token = token then 1 else 0 := by
  rw [(tokens_pop completed prepared inFlight popped).count_eq, List.count_cons]
  by_cases here : cqe.operation.token = token
  · rw [if_pos here, if_pos (beq_iff_eq.mpr here)]
  · rw [if_neg here, if_neg]
    intro same
    exact here (beq_iff_eq.mp same)

theorem count_prepare {system next : System} (more : List CompletionToken)
    (prepared : next.prepared = system.prepared ++ more)
    (inFlight : next.inFlight = system.inFlight) (completed : next.completed = system.completed)
    (token : CompletionToken) :
    (tokens next).count token = (tokens system).count token + more.count token := by
  simp only [tokens, prepared, inFlight, completed, List.count_append]
  omega

theorem receives_pop {system next : System} {cqe : Cqe} {rest : List Cqe}
    (completed : system.completed = cqe :: rest) (prepared : next.prepared = system.prepared)
    (inFlight : next.inFlight = system.inFlight) (popped : next.completed = rest)
    (ref : SessionRef) :
    receives system ref = receives next ref + if cqe.operation.token = .recv ref then 1 else 0 :=
  count_pop completed prepared inFlight popped (.recv ref)

theorem receives_prepare {system next : System} (more : List CompletionToken)
    (prepared : next.prepared = system.prepared ++ more)
    (inFlight : next.inFlight = system.inFlight) (completed : next.completed = system.completed)
    (ref : SessionRef) : receives next ref = receives system ref + more.count (.recv ref) :=
  count_prepare more prepared inFlight completed (.recv ref)

theorem receives_submit (system : System) (ref : SessionRef) :
    receives system.submit ref = receives system ref := by
  exact (tokens_submit system).count_eq _

theorem receives_same {system next : System} (same : tokens next = tokens system)
    (ref : SessionRef) : receives next ref = receives system ref := by
  rw [receives, same, receives]

/-- The sessions that are live afterwards were live before, with the same mark. -/
def SameMarks (system next : System) : Prop :=
  ∀ ref session, next.live ref = some session → ∃ before, system.live ref = some before ∧
    session.closeAfterFlush = before.closeAfterFlush

theorem same_marks_of_sessions {system next : System}
    (sessions : next.sessions = system.sessions) : SameMarks system next := by
  intro ref session alive
  simp only [System.live, sessions] at alive
  exact ⟨session, alive, rfl⟩

theorem same_marks_of_replace {system next : System} {ref : SessionRef}
    {session changed : Session} (alive : system.live ref = some session)
    (stored : next.sessions = Function.update system.sessions ref.fd (some changed))
    (generation : changed.generation = session.generation)
    (mark : changed.closeAfterFlush = session.closeAfterFlush) : SameMarks system next := by
  intro other found there
  have same := generation.trans (live_eq_some.mp alive).2
  rcases live_updated stored same there with ⟨rfl, rfl⟩ | ⟨_, before⟩
  · exact ⟨session, alive, mark⟩
  · exact ⟨found, before, rfl⟩

theorem same_marks_of_push {system next : System} {ref : SessionRef} {session : Session}
    (alive : system.live ref = some session) (changed : Session) (line : ServerLine)
    (generation : changed.generation = session.generation)
    (mark : changed.closeAfterFlush = session.closeAfterFlush)
    (sessions : next.sessions = (pushLine system ref changed line).sessions) :
    SameMarks system next :=
  same_marks_of_replace alive (sessions.trans (push_line_sessions _ _ _ _)) generation mark

theorem Receiving.frame {system next : System} {events : List Event}
    (receiving : Receiving system) (history : next.history = system.history ++ events)
    (fewer : ∀ ref, receives system ref = 0 → receives next ref = 0)
    (posted : ∀ ref session, next.live ref = some session → ∃ before,
      system.live ref = some before ∧
        (receives system ref = awaitedReceives system.position ref before.closeAfterFlush →
          receives next ref = awaitedReceives next.position ref session.closeAfterFlush))
    (opening : ∀ ref session, next.position = .opened ref → next.live ref = some session →
      session.closeAfterFlush = false) : Receiving next := by
  constructor
  · intro ref fresh
    apply fewer
    apply receiving.unposted
    rw [history] at fresh
    exact fresh_before fresh
  · intro ref session alive
    rcases posted ref session alive with ⟨before, was, counts⟩
    exact counts (receiving.posted ref before was)
  · exact opening

theorem Receiving.still {system next : System} {events : List Event}
    (receiving : Receiving system) (history : next.history = system.history ++ events)
    (counts : ∀ ref, receives next ref = receives system ref)
    (busy : busyWith next.position = busyWith system.position)
    (opened : ∀ ref, next.position = .opened ref → system.position = .opened ref)
    (marks : SameMarks system next) : Receiving next := by
  refine receiving.frame history ?_ ?_ ?_
  · intro ref nothing
    rw [counts, nothing]
  · intro ref session alive
    rcases marks ref session alive with ⟨before, was, mark⟩
    refine ⟨before, was, ?_⟩
    intro expected
    rw [counts, expected, awaitedReceives, awaitedReceives, busy, mark]
  · intro ref session position alive
    rcases marks ref session alive with ⟨before, was, mark⟩
    rw [mark]
    exact receiving.opening ref before (opened ref position) was

theorem Receiving.parked {system next : System} {events : List Event}
    (receiving : Receiving system) (history : next.history = system.history ++ events)
    (counts : ∀ ref, receives next ref = receives system ref)
    (position : next.position = system.position) (marks : SameMarks system next) :
    Receiving next := by
  refine receiving.still history counts (congrArg busyWith position) ?_ marks
  intro ref opened
  exact position.symm.trans opened

theorem receives_push (system : System) (ref : SessionRef) (session : Session)
    (line : ServerLine) (other : SessionRef) :
    receives (pushLine system ref session line) other = receives system other := by
  rw [receives_prepare _ (push_line_prepared system ref session line)
    (push_line_in_flight _ _ _ _) (push_line_completed _ _ _ _)]
  split
  · rfl
  · rw [List.count_singleton]
    rfl

theorem receives_pop_other {system next : System} {cqe : Cqe} {rest : List Cqe}
    (completed : system.completed = cqe :: rest) (prepared : next.prepared = system.prepared)
    (inFlight : next.inFlight = system.inFlight) (popped : next.completed = rest)
    {ref : SessionRef} (other : cqe.operation.token ≠ .recv ref) :
    receives next ref = receives system ref := by
  rw [receives_pop completed prepared inFlight popped ref, if_neg other, Nat.add_zero]

theorem running_of_act {system next : System} (act : Act system next) (running : Running next) :
    Running system := by
  intro exception raised
  cases act with
  | submitted => exact running exception raised
  | dismissed => exact running exception raised
  | answered => exact running exception ((push_line_position _ _ _ _).trans raised)
  | lineTaken => exact running exception raised
  | worldCalled => exact running exception raised
  | saved => exact running exception raised
  | requested => exact running exception ((push_line_position _ _ _ _).trans raised)
  | closing => exact running exception raised
  | erased => exact running exception raised
  | skipped => exact running exception raised
  | completed => exact running exception ((push_line_position _ _ _ _).trans raised)
  | _ => simp_all

theorem receiving_arrived {system : System} {cqe : Cqe} {rest : List Cqe} {ref : SessionRef}
    (receiving : Receiving system) (fresh : ref ∉ acceptedRefs system.history)
    (position : system.position = .draining) (completed : system.completed = cqe :: rest)
    (token : cqe.operation.token = .accept) (connection : Option Nat) (count : Nat) :
    Receiving { system with
      completed := rest
      nextSessionGeneration := count
      sessions := Function.update system.sessions ref.fd
        (some ⟨ref.generation, [], [], false, false, 0⟩)
      position := .opened ref
      history := system.history ++ [.accepted ref connection] } := by
  let next : System := { system with
    completed := rest
    nextSessionGeneration := count
    sessions := Function.update system.sessions ref.fd
      (some ⟨ref.generation, [], [], false, false, 0⟩)
    position := .opened ref
    history := system.history ++ [.accepted ref connection] }
  have counts : ∀ other, receives next other = receives system other := by
    intro other
    refine receives_pop_other completed (by rfl) (by rfl) (by rfl) ?_
    rw [token]
    exact CompletionToken.noConfusion
  have stored : next.sessions = Function.update system.sessions ref.fd
    (some ⟨ref.generation, [], [], false, false, 0⟩) := rfl
  constructor
  · intro other unknown
    exact (counts other).trans (receiving.unposted other (fresh_before unknown))
  · intro other found there
    rcases live_updated stored rfl there with ⟨rfl, rfl⟩ | ⟨elsewhere, before⟩
    · have none : awaitedReceives next.position other false = 0 := if_pos (Or.inl rfl)
      exact (counts other).trans ((receiving.unposted other fresh).trans none.symm)
    · have was := receiving.posted other found before
      have different : some ref ≠ some other := by
        intro same
        rw [Option.some.inj same] at elsewhere
        exact elsewhere rfl
      rw [show receives _ other = receives system other from counts other, was, position]
      simp [awaitedReceives, busyWith, different]
  · intro other found opened there
    rcases live_updated stored rfl there with ⟨rfl, rfl⟩ | ⟨elsewhere, _⟩
    · rfl
    · rw [Position.opened.inj opened] at elsewhere
      exact absurd rfl elsewhere

/-- A recv of a live session ends: it was the only one. -/
theorem receiving_received {system next : System} {cqe : Cqe} {rest : List Cqe}
    {ref : SessionRef} {session changed : Session} {events : List Event}
    (receiving : Receiving system) (alive : system.live ref = some session)
    (position : system.position = .draining) (completed : system.completed = cqe :: rest)
    (token : cqe.operation.token = .recv ref) (history : next.history = system.history ++ events)
    (prepared : next.prepared = system.prepared) (inFlight : next.inFlight = system.inFlight)
    (popped : next.completed = rest) (framing : next.position = .framing ref)
    (stored : next.sessions = Function.update system.sessions ref.fd (some changed))
    (generation : changed.generation = session.generation)
    (mark : changed.closeAfterFlush = session.closeAfterFlush) : Receiving next := by
  have counts := receives_pop completed prepared inFlight popped
  have marks : SameMarks system next := same_marks_of_replace alive stored generation mark
  refine receiving.frame history ?_ ?_ ?_
  · intro other nothing
    have moved := counts other
    omega
  · intro other found there
    rcases marks other found there with ⟨before, was, same⟩
    refine ⟨before, was, ?_⟩
    intro expected
    have moved := counts other
    rw [awaitedReceives, position] at expected
    rw [awaitedReceives, framing, same]
    by_cases self : ref = other
    · have own : busyWith (.framing ref) = some other := congrArg some self
      rw [self] at token
      rw [if_pos token] at moved
      rw [if_pos (Or.inl own)]
      split at expected
      · omega
      · omega
    · have apart : cqe.operation.token ≠ .recv other := by
        rw [token]
        intro same
        exact self (CompletionToken.recv.inj same)
      rw [if_neg apart] at moved
      simp only [busyWith, Option.some.injEq, self, false_or, reduceCtorEq] at expected ⊢
      omega
  · intro other found opened
    rw [framing] at opened
    cases opened

theorem receiving_posted {system next : System} {ref : SessionRef} {session : Session}
    (receiving : Receiving system) (registered : Registered system)
    (alive : system.live ref = some session) (open_ : session.closeAfterFlush = false)
    (busy : busyWith system.position = some ref) (history : next.history = system.history)
    (prepared : next.prepared = system.prepared ++ [.recv ref])
    (inFlight : next.inFlight = system.inFlight) (completed : next.completed = system.completed)
    (sessions : next.sessions = system.sessions) (idle : busyWith next.position = none) :
    Receiving next := by
  have counts := receives_prepare [.recv ref] prepared inFlight completed
  have known := registered.known ref (generation_of_live alive)
  have added : ∀ other, ref ≠ other → receives next other = receives system other := by
    intro other different
    rw [counts, List.count_singleton, if_neg]
    · rfl
    · intro same
      exact different (CompletionToken.recv.inj (beq_iff_eq.mp same))
  constructor
  · intro other fresh
    rw [history] at fresh
    have different : ref ≠ other := by
      rintro rfl
      exact fresh known
    rw [added other different]
    exact receiving.unposted other fresh
  · intro other found there
    simp only [System.live, sessions] at there
    have was := receiving.posted other found there
    rw [awaitedReceives, busy] at was
    rw [awaitedReceives, idle]
    by_cases self : ref = other
    · subst self
      rw [if_pos (Or.inl rfl)] at was
      rw [counts, was, List.count_singleton_self, if_neg]
      obtain rfl := Option.some.inj (alive.symm.trans there)
      simp [open_]
    · rw [added other self, was]
      simp [self]
  · intro other found opened
    rw [opened] at idle
    cases idle

theorem receiving_act {system next : System} (coherent : Coherent system)
    (registered : Registered system) (receiving : Receiving system)
    (unwrapped : next.nextSessionGeneration ≤ 2 ^ 64) (running : Running next)
    (act : Act system next) : Receiving next := by
  cases act with
  | submitted =>
      exact receiving.parked (no_events _) (receives_submit system) rfl
        (same_marks_of_sessions rfl)
  | waited position =>
      refine receiving.still (no_events _) (receives_same rfl) ?_ ?_ (same_marks_of_sessions rfl)
      · rw [position]
        rfl
      · intro ref opened
        cases opened
  | drained position =>
      refine receiving.still (no_events _) (receives_same rfl) ?_ ?_ (same_marks_of_sessions rfl)
      · rw [position]
        rfl
      · intro ref opened
        cases opened
  | dismissed cqe rest ref position completed token stale =>
      let next : System := { system with completed := rest }
      have counts : ∀ other, receives system other =
          receives next other + if cqe.operation.token = .recv other then 1 else 0 :=
        receives_pop completed rfl rfl rfl
      refine receiving.frame (no_events _) ?_ ?_ ?_
      · intro other nothing
        have moved := counts other
        rw [nothing] at moved
        exact (Nat.add_eq_zero_iff.mp moved.symm).1
      · intro other found there
        refine ⟨found, there, ?_⟩
        intro expected
        have apart : cqe.operation.token ≠ .recv other := by
          intro same
          have stored : system.live other = some found := there
          rcases token with recv | ⟨payload, send⟩
          · rw [CompletionToken.recv.inj (recv.symm.trans same), stored] at stale
            cases stale
          · rw [send] at same
            cases same
        have moved := counts other
        rw [if_neg apart, expected] at moved
        exact moved.symm
      · intro other found opened
        have here : system.position = .opened other := opened
        rw [position] at here
        cases here
  | refused cqe rest position completed token =>
      refine receiving.still (no_events _) ?_ ?_ ?_ (same_marks_of_sessions rfl)
      · intro ref
        refine receives_pop_other completed (by rfl) (by rfl) (by rfl) ?_
        rw [token]
        exact CompletionToken.noConfusion
      · rw [position]
        rfl
      · intro ref opened
        cases opened
  | arrived cqe rest ref position completed token succeeded fresh =>
      have small : system.nextSessionGeneration + 1 ≤ 2 ^ 64 := unwrapped
      have unknown : ref ∉ acceptedRefs system.history := by
        intro member
        have different := generation_fresh registered (by omega) member
        rw [fresh] at different
        exact different rfl
      exact receiving_arrived receiving unknown position completed token _ _
  | recvPosted ref position =>
      have busy : busyWith system.position = some ref := by
        rw [position]
        rfl
      rcases live_of_generation (coherent.busy ref busy) with ⟨session, alive⟩
      exact receiving_posted receiving registered alive
        (receiving.opening ref session position alive) busy rfl rfl rfl rfl rfl rfl
  | acceptPosted position =>
      refine receiving.still (no_events _) ?_ ?_ ?_ (same_marks_of_sessions rfl)
      · intro ref
        exact receives_prepare [.accept] (by rfl) (by rfl) (by rfl) ref
      · rw [position]
        rfl
      · intro ref opened
        cases opened
  | answered ref session line alive =>
      exact receiving.parked (push_line_history _ _ _ _) (receives_push _ _ _ _)
        (push_line_position _ _ _ _) (same_marks_of_push alive session line rfl rfl rfl)
  | received cqe rest ref session position completed token alive =>
      exact receiving_received receiving alive position completed token rfl rfl rfl rfl rfl rfl rfl
        rfl
  | lineTaken ref session line rest position alive =>
      exact receiving.parked rfl (receives_same rfl) rfl
        (same_marks_of_replace alive rfl rfl rfl)
  | raised ref session line rest exception => exact absurd rfl (running exception)
  | framed ref session position =>
      refine receiving.still (no_events _) (receives_same rfl) ?_ ?_ (same_marks_of_sessions rfl)
      · rw [position]
        rfl
      · intro other opened
        cases opened
  | worldCalled =>
      exact receiving.parked (no_events _) (receives_same rfl) rfl (same_marks_of_sessions rfl)
  | saved => exact receiving.parked rfl (receives_same rfl) rfl (same_marks_of_sessions rfl)
  | requested ref session operation commandName args alive =>
      let changed : Session := { session with pendingDb := session.pendingDb + 1 }
      let line : ServerLine := .pending (counterValue system.nextRequestId) commandName
      have pushed : Receiving (pushLine system ref changed line) :=
        receiving.parked (push_line_history _ _ _ _) (receives_push _ _ _ _)
          (push_line_position _ _ _ _) (same_marks_of_push alive changed line rfl rfl rfl)
      exact pushed.parked rfl (receives_same rfl) rfl (same_marks_of_sessions rfl)
  | closing ref session position alive =>
      have busy : busyWith system.position = some ref := by
        rcases position with framing | framed
        · rw [framing]
          rfl
        · rw [framed]
          rfl
      let changed : Session := { session with closeAfterFlush := true }
      have stored : (system.setSession ref.fd (some changed)).sessions =
          Function.update system.sessions ref.fd (some changed) := rfl
      refine receiving.frame (no_events _) (fun _ nothing => nothing) ?_ ?_
      · intro other found there
        rcases live_updated stored (live_eq_some.mp alive).2 there with ⟨rfl, rfl⟩ | ⟨_, before⟩
        · refine ⟨session, alive, ?_⟩
          intro expected
          have none : awaitedReceives system.position other true = 0 := if_pos (Or.inr rfl)
          rw [awaitedReceives, if_pos (Or.inl busy)] at expected
          exact expected.trans none.symm
        · exact ⟨found, before, fun expected => expected⟩
      · intro other found opened there
        rcases position with framing | framed
        · have here := framing.symm.trans opened
          cases here
        · have here := framed.symm.trans opened
          cases here
  | parked ref session position alive marked =>
      refine receiving.frame (no_events _) (fun _ nothing => nothing) ?_ ?_
      · intro other found there
        refine ⟨found, there, ?_⟩
        intro expected
        rw [awaitedReceives, position] at expected
        by_cases self : ref = other
        · subst self
          have stored : system.live ref = some found := there
          obtain rfl := Option.some.inj (alive.symm.trans stored)
          rw [if_pos (Or.inr marked)] at expected
          rw [awaitedReceives, if_pos (Or.inr marked)]
          exact expected
        · simp only [busyWith, Option.some.injEq, self, false_or] at expected
          simp only [awaitedReceives, busyWith, reduceCtorEq, false_or]
          exact expected
      · intro other found opened
        cases opened
  | recvReposted ref session position alive open_ =>
      have busy : busyWith system.position = some ref := by
        rw [position]
        rfl
      exact receiving_posted receiving registered alive open_ busy rfl rfl rfl rfl rfl rfl
  | erased ref session cause position =>
      refine receiving.parked rfl (receives_same rfl) rfl ?_
      intro other found there
      exact ⟨found, (live_erased there).2, rfl⟩
  | awoken cqe rest position completed token =>
      refine receiving.still (no_events _) ?_ ?_ ?_ (same_marks_of_sessions rfl)
      · intro ref
        refine receives_pop_other completed (by rfl) (by rfl) (by rfl) ?_
        rw [token]
        exact CompletionToken.noConfusion
      · rw [position]
        rfl
      · intro ref opened
        cases opened
  | skipped =>
      exact receiving.parked rfl (receives_same rfl) rfl (same_marks_of_sessions rfl)
  | completed completion rest session position completions notify alive =>
      have popped : Receiving (popCompletion system completion rest) :=
        receiving.parked rfl (receives_same rfl) rfl (same_marks_of_sessions rfl)
      have found : (popCompletion system completion rest).live completion.client = some session :=
        alive
      let changed : Session := { session with pendingDb := session.pendingDb - 1 }
      exact popped.parked (push_line_history _ _ _ _) (receives_push _ _ _ _)
        (push_line_position _ _ _ _) (same_marks_of_push found changed _ rfl rfl rfl)
  | pollPosted position =>
      refine receiving.still (no_events _) ?_ ?_ ?_ (same_marks_of_sessions rfl)
      · intro ref
        exact receives_prepare [.databaseEvent] (by rfl) (by rfl) (by rfl) ref
      · rw [position]
        rfl
      · intro ref opened
        cases opened

theorem receiving_sent {system next : System} {ref : SessionRef} (receiving : Receiving system)
    (sent : Sent system ref next) : Receiving next := by
  cases sent with
  | progressed cqe rest _ session payload position completed token alive =>
      let popped : System := { system with completed := rest }
      have counted : Receiving popped := by
        refine receiving.parked (no_events _) ?_ rfl (same_marks_of_sessions rfl)
        intro other
        refine receives_pop_other completed (by rfl) (by rfl) (by rfl) ?_
        rw [token]
        exact CompletionToken.noConfusion
      refine counted.parked (progress_history _ _ _ _ _) ?_ (progress_position _ _ _ _ _)
        (same_marks_of_replace alive (progress_sessions _ _ _ _ _) rfl rfl)
      intro other
      rw [receives_prepare _ (progress_prepared popped ref session payload _)
        (progress_in_flight _ _ _ _ _) (progress_completed _ _ _ _ _)]
      split
      · rfl
      · rw [List.count_singleton]
        rfl

theorem receives_complete {system : System} {index : Nat} {operation : Operation} {cqe : Cqe}
    (found : system.inFlight[index]? = some operation)
    (same : cqe.operation.token = operation.token) (ref : SessionRef) :
    receives (system.complete index cqe) ref = receives system ref :=
  (tokens_complete found same).count_eq _

theorem receiving_outside {system next : System} {label : Label} (receiving : Receiving system)
    (taken : Outside system label next) : Receiving next := by
  cases taken with
  | accepts index fd connection found =>
      let cqe : Cqe := ⟨⟨.accept, some system.nextConnection⟩, fd, []⟩
      have counts : ∀ ref, receives (system.complete index cqe) ref = receives system ref :=
        receives_complete found rfl
      exact receiving.parked (no_events _) counts rfl (same_marks_of_sessions rfl)
  | receives index bytes ref connection found =>
      exact receiving.parked (no_events _) (receives_complete found rfl) rfl
        (same_marks_of_sessions rfl)
  | transmits index count ref payload connection found =>
      let cqe : Cqe := ⟨⟨.send ref payload, some connection⟩, count, []⟩
      have counts : ∀ ref, receives (system.complete index cqe) ref = receives system ref :=
        receives_complete found rfl
      exact receiving.parked rfl counts rfl (same_marks_of_sessions rfl)
  | fails index operation result found =>
      exact receiving.parked (no_events _) (receives_complete found rfl) rfl
        (same_marks_of_sessions rfl)
  | polls index connection found =>
      exact receiving.parked (no_events _) (receives_complete found rfl) rfl
        (same_marks_of_sessions rfl)
  | _ =>
      exact receiving.parked (no_events _) (receives_same rfl) rfl (same_marks_of_sessions rfl)

/-- What a run keeps without a bound on the generations. -/
def Posted (system : System) : Prop :=
  Registered system ∧
    (system.nextSessionGeneration ≤ 2 ^ 64 → Running system → Receiving system)

theorem posted_start (config : ServerConfig) (poolSize : Nat) :
    Posted (System.start config poolSize) := by
  refine ⟨registered_start config poolSize, ?_⟩
  intro _ _
  constructor
  · intro ref _
    rfl
  · intro ref session alive
    cases alive
  · intro ref session position
    cases position

theorem running_of_sent {system next : System} {ref : SessionRef} (sent : Sent system ref next)
    (running : Running next) : Running system := by
  cases sent with
  | progressed =>
      intro exception raised
      exact running exception ((progress_position _ _ _ _ _).trans raised)

theorem running_of_outside {system next : System} {label : Label}
    (taken : Outside system label next) (running : Running next) : Running system := by
  cases taken with
  | _ => exact running

theorem receiving_reachable {config : ServerConfig} {poolSize : Nat} {system : System}
    (reached : Reachable System.step (System.start config poolSize) system)
    (unwrapped : system.nextSessionGeneration ≤ 2 ^ 64) (running : Running system) :
    Receiving system := by
  have kept : Posted system := by
    refine kept_by_run (posted_start config poolSize) ?_ ?_ ?_ reached
    · intro source next coherent before act
      refine ⟨registered_act before.1 act, ?_⟩
      intro small goes
      have earlier := (counters_grow act).1.trans small
      exact receiving_act coherent before.1 (before.2 earlier (running_of_act act goes)) small goes
        act
    · intro ref source next coherent before sent
      refine ⟨registered_sent before.1 sent, ?_⟩
      intro small goes
      rw [(counters_of_sent sent).1] at small
      exact receiving_sent (before.2 small (running_of_sent sent goes)) sent
    · intro source label next coherent before taken
      refine ⟨registered_outside before.1 taken, ?_⟩
      intro small goes
      rw [(counters_stay taken).1] at small
      exact receiving_outside (before.2 small (running_of_outside taken goes)) taken
  exact kept.2 unwrapped running

/-- The operations of a live session between two completions. -/
structure Attended (system : System) (ref : SessionRef) (session : Session) : Prop where
  flagged : session.writeInFlight = true ↔ session.outbox ≠ []
  sending : ∀ front rest, session.outbox = front :: rest →
    payloads (tokens system) ref = [front]
  silent : session.outbox = [] → payloads (tokens system) ref = []
  receiving : receives system ref = if session.closeAfterFlush then 0 else 1
  closing : session.closeAfterFlush = true → session.outbox ≠ []

/-- In every state in which `run()` is not inside the handler of the session's
own accept or recv, the session is attended to. -/
theorem sessions_never_stall {config : ServerConfig} {poolSize : Nat} {system : System}
    (reached : Reachable System.step (System.start config poolSize) system)
    (unwrapped : system.nextSessionGeneration ≤ 2 ^ 64) (running : Running system)
    {ref : SessionRef} {session : Session} (alive : system.live ref = some session)
    (between : busyWith system.position ≠ some ref) : Attended system ref session := by
  have streaming := streaming_reachable reached unwrapped
  have receiving := receiving_reachable reached unwrapped running
  have unflushed := unflushed_reachable reached
  constructor
  · rw [streaming.flagged ref session alive]
    simp
  · intro front rest outbox
    have posted := streaming.posted ref session alive
    rw [outbox] at posted
    exact List.perm_singleton.mp posted
  · intro outbox
    have posted := streaming.posted ref session alive
    rw [outbox] at posted
    exact List.perm_nil.mp posted
  · rw [receiving.posted ref session alive]
    simp [awaitedReceives, between]
  · intro marked empty
    cases unflushed ref session alive marked empty

theorem sessions_never_stall_in_pieces :
    ∃ system session, run System.step (System.start .default 1) sentInPieces = some system ∧
      system.live ⟨5, 1⟩ = some session ∧ session.outbox.length = 2 ∧
      Attended system ⟨5, 1⟩ session := by
  have ends : (run System.step (System.start .default 1) sentInPieces).any (fun system =>
      decide (system.nextSessionGeneration = 2) && decide (system.position = .draining) &&
      (system.live ⟨5, 1⟩).any fun session => decide (session.outbox.length = 2)) = true := by
    decide
  rcases (Option.any_eq_true _ _).mp ends with ⟨system, ran, facts⟩
  simp only [Bool.and_eq_true, decide_eq_true_eq] at facts
  rcases (Option.any_eq_true _ _).mp facts.2 with ⟨session, alive, two⟩
  refine ⟨system, session, ran, alive, of_decide_eq_true two, ?_⟩
  apply sessions_never_stall ⟨sentInPieces, ran⟩ _ _ alive
  · rw [facts.1.2]
    decide
  · rw [facts.1.1]
    decide
  · intro exception raised
    rw [facts.1.2] at raised
    cases raised

end DungeonPortfolio.NoStall
