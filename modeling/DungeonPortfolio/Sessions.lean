import DungeonPortfolio.ServerSteps

/-!
# World and sessions agree

The history numbers the sessions: the generations handed out are `1, 2, ..` in
the order of the accepts, every session of the table is one of them, and as long
as the counter has not wrapped they are distinct. Together with `Coherent` this
gives the agreement of `sessions_` and the world.
-/

namespace DungeonPortfolio.Sessions

open DungeonPortfolio.Text DungeonPortfolio.World DungeonPortfolio.Dispatcher
open DungeonPortfolio.Server DungeonPortfolio.ServerActs DungeonPortfolio.ServerResponses
open DungeonPortfolio.ServerSteps
open Library.Execution

set_option autoImplicit false

def acceptedRef : Event → Option SessionRef
  | .accepted ref _ => some ref
  | _ => none

def acceptedRefs (history : List Event) : List SessionRef := history.filterMap acceptedRef

@[simp] theorem accepted_refs_append (first second : List Event) :
    acceptedRefs (first ++ second) = acceptedRefs first ++ acceptedRefs second :=
  List.filterMap_append

/-- Events other than the start of a session and a response to nobody. -/
def Quiet : Event → Prop
  | .accepted _ _ | .dropped _ _ => False
  | _ => True

theorem accepted_refs_of_quiet {events : List Event} (quiet : ∀ event ∈ events, Quiet event) :
    acceptedRefs events = [] := by
  apply List.filterMap_eq_nil_iff.mpr
  intro event member
  have silent := quiet event member
  cases event with
  | accepted => cases silent
  | _ => rfl

structure Registered (system : System) : Prop where
  positive : 1 ≤ system.nextSessionGeneration
  numbered : (acceptedRefs system.history).map SessionRef.generation =
    (List.range' 1 (system.nextSessionGeneration - 1)).map counterValue
  known : ∀ ref, generationAt system ref.fd = some ref.generation →
    ref ∈ acceptedRefs system.history
  nothingDropped : ∀ ref line, Event.dropped ref line ∉ system.history

theorem Registered.frame {system next : System} {events : List Event}
    (registered : Registered system)
    (generation : next.nextSessionGeneration = system.nextSessionGeneration)
    (history : next.history = system.history ++ events)
    (quiet : ∀ event ∈ events, Quiet event)
    (keys : ∀ fd number, generationAt next fd = some number →
      generationAt system fd = some number) : Registered next := by
  have refs : acceptedRefs next.history = acceptedRefs system.history := by
    rw [history, accepted_refs_append, accepted_refs_of_quiet quiet, List.append_nil]
  constructor
  · rw [generation]
    exact registered.positive
  · rw [refs, generation]
    exact registered.numbered
  · rw [refs]
    intro ref alive
    exact registered.known ref (keys ref.fd ref.generation alive)
  · intro ref line member
    rw [history, List.mem_append] at member
    rcases member with earlier | new
    · exact registered.nothingDropped ref line earlier
    · exact quiet _ new

theorem no_events (history : List Event) : history = history ++ [] := (List.append_nil _).symm

theorem nothing_new {Item : Type} {property : Item → Prop} : ∀ item ∈ ([] : List Item), property item := by
  intro item member
  cases member

theorem one_new {Item : Type} {property : Item → Prop} {only : Item} (holds : property only) :
    ∀ item ∈ [only], property item := by
  intro item member
  rw [List.mem_singleton.mp member]
  exact holds

theorem keys_of_push_line {system : System} {ref : SessionRef} {session : Session}
    (line : ServerLine) (alive : generationAt system ref.fd = some ref.generation)
    (same : session.generation = ref.generation) :
    ∀ fd number, generationAt (pushLine system ref session line) fd = some number →
      generationAt system fd = some number := by
  intro fd number found
  rw [(push_line_frame system session line alive same).2.1] at found
  exact found

theorem keys_of_replace {system : System} {ref : SessionRef} (session : Session)
    (alive : generationAt system ref.fd = some ref.generation)
    (same : session.generation = ref.generation) :
    ∀ fd number, generationAt (system.setSession ref.fd (some session)) fd = some number →
      generationAt system fd = some number := by
  intro fd number found
  rw [generation_at_replace alive same] at found
  exact found

theorem registered_act {system next : System} (registered : Registered system)
    (act : Act system next) : Registered next := by
  cases act with
  | submitted => exact registered.frame rfl (no_events _) nothing_new (fun _ _ same => same)
  | waited => exact registered.frame rfl (no_events _) nothing_new (fun _ _ same => same)
  | drained => exact registered.frame rfl (no_events _) nothing_new (fun _ _ same => same)
  | dismissed => exact registered.frame rfl (no_events _) nothing_new (fun _ _ same => same)
  | refused => exact registered.frame rfl (no_events _) nothing_new (fun _ _ same => same)
  | arrived cqe rest ref position completed token succeeded fresh =>
      have number : ref.generation = counterValue system.nextSessionGeneration := by
        rw [fresh]
      have refs : acceptedRefs (system.history ++ [.accepted ref cqe.operation.connection]) =
          acceptedRefs system.history ++ [ref] := by
        rw [accepted_refs_append]
        rfl
      have positive := registered.positive
      constructor
      · exact Nat.le_add_left 1 _
      · rw [refs, List.map_append, registered.numbered, List.map_singleton, number]
        have next : system.nextSessionGeneration + 1 - 1 =
            (system.nextSessionGeneration - 1) + 1 := by omega
        have last : 1 + 1 * (system.nextSessionGeneration - 1) =
            system.nextSessionGeneration := by omega
        rw [next, List.range'_concat, List.map_append, last]
        rfl
      · intro other alive
        rw [refs, List.mem_append]
        have found : (if other.fd = ref.fd then some ref.generation
            else generationAt system other.fd) = some other.generation := by
          rw [← generation_at_set_session system ref.fd other.fd
            ⟨ref.generation, [], [], false, false, 0⟩]
          exact alive
        split at found
        · rename_i sameFd
          right
          have sameGeneration := Option.some.inj found
          cases other
          cases ref
          simp_all
        · exact Or.inl (registered.known other found)
      · intro other line member
        rcases List.mem_append.mp member with earlier | new
        · exact registered.nothingDropped other line earlier
        · cases List.mem_singleton.mp new
  | recvPosted => exact registered.frame rfl (no_events _) nothing_new (fun _ _ same => same)
  | acceptPosted => exact registered.frame rfl (no_events _) nothing_new (fun _ _ same => same)
  | answered ref session line alive =>
      apply registered.frame (push_line_next_session_generation _ _ _ line)
        (push_line_history _ _ _ line) (one_new trivial)
      exact keys_of_push_line line (generation_of_live alive) (live_eq_some.mp alive).2
  | received cqe rest ref session position completed token alive =>
      exact registered.frame rfl rfl (one_new trivial) (keys_of_replace
        { session with input := session.input ++ cqe.buffer.take cqe.result.toNat }
        (generation_of_live alive) (live_eq_some.mp alive).2)
  | lineTaken ref session line rest position alive =>
      exact registered.frame rfl rfl (one_new trivial) (keys_of_replace
        { session with input := rest } (generation_of_live alive) (live_eq_some.mp alive).2)
  | raised ref session line rest exception position alive =>
      exact registered.frame rfl rfl (one_new trivial) (keys_of_replace
        { session with input := rest } (generation_of_live alive) (live_eq_some.mp alive).2)
  | framed => exact registered.frame rfl (no_events _) nothing_new (fun _ _ same => same)
  | worldCalled => exact registered.frame rfl (no_events _) nothing_new (fun _ _ same => same)
  | saved => exact registered.frame rfl rfl (one_new trivial) (fun _ _ same => same)
  | requested ref session operation commandName args alive =>
      have pushed := push_line_history system ref { session with
        pendingDb := session.pendingDb + 1 }
        (.pending (counterValue system.nextRequestId) commandName)
      have queued : Registered (pushLine system ref { session with
          pendingDb := session.pendingDb + 1 }
          (.pending (counterValue system.nextRequestId) commandName)) :=
        registered.frame (push_line_next_session_generation _ _ _ _) pushed (one_new trivial)
          (keys_of_push_line _ (generation_of_live alive) (live_eq_some.mp alive).2)
      exact queued.frame rfl rfl (one_new trivial) (fun _ _ same => same)
  | closing ref session position alive =>
      exact registered.frame rfl (no_events _) nothing_new (keys_of_replace
        { session with closeAfterFlush := true } (generation_of_live alive)
        (live_eq_some.mp alive).2)
  | parked => exact registered.frame rfl (no_events _) nothing_new (fun _ _ same => same)
  | recvReposted => exact registered.frame rfl (no_events _) nothing_new (fun _ _ same => same)
  | erased ref session cause position alive absent =>
      refine registered.frame rfl rfl (one_new trivial) ?_
      intro fd number found
      simp only [generationAt, erase, Function.update_apply] at found ⊢
      split at found
      · cases found
      · exact found
  | awoken => exact registered.frame rfl (no_events _) nothing_new (fun _ _ same => same)
  | skipped => exact registered.frame rfl rfl (one_new trivial) (fun _ _ same => same)
  | completed completion rest session position completions notify alive =>
      have popped : Registered (popCompletion system completion rest) :=
        registered.frame rfl rfl (one_new trivial) (fun _ _ same => same)
      apply popped.frame (push_line_next_session_generation _ _ _ _)
        (push_line_history _ _ _ _) (one_new trivial)
      exact keys_of_push_line _ (generation_of_live alive) (live_eq_some.mp alive).2
  | pollPosted => exact registered.frame rfl (no_events _) nothing_new (fun _ _ same => same)

theorem registered_sent {system next : System} {ref : SessionRef} (registered : Registered system)
    (sent : Sent system ref next) : Registered next := by
  cases sent with
  | progressed cqe rest _ session payload position completed token alive =>
      have popped : Registered { system with completed := rest } :=
        registered.frame rfl (no_events _) nothing_new (fun _ _ same => same)
      apply popped.frame (progress_next_session_generation _ _ _ payload _)
        (progress_history _ ref session payload _) (one_new trivial)
      intro fd number found
      rw [(progress_frame { system with completed := rest } session payload
        cqe.result.toNat (generation_of_live alive) (live_eq_some.mp alive).2).2.1] at found
      exact found

theorem registered_outside {system next : System} {label : Label}
    (registered : Registered system) (taken : Outside system label next) : Registered next := by
  cases taken with
  | transmits => exact registered.frame rfl rfl (one_new trivial) (fun _ _ same => same)
  | _ => exact registered.frame rfl (no_events _) nothing_new (fun _ _ same => same)

theorem registered_start (config : ServerConfig) (poolSize : Nat) :
    Registered (System.start config poolSize) := by
  constructor
  · exact Nat.le_refl 1
  · rfl
  · intro ref alive
    cases alive
  · intro ref line member
    cases member

theorem registered_reachable {config : ServerConfig} {poolSize : Nat} {system : System}
    (reached : Reachable System.step (System.start config poolSize) system) :
    Registered system := by
  exact kept_by_run (registered_start config poolSize)
    (fun _ _ _ before act => registered_act before act)
    (fun _ _ _ _ before sent => registered_sent before sent)
    (fun _ _ _ _ before taken => registered_outside before taken) reached

theorem counter_value_of_lt {count : Nat} (small : count < 2 ^ 64) : counterValue count = count :=
  Nat.mod_eq_of_lt small

theorem counter_values_nodup {first length : Nat} (small : first + length ≤ 2 ^ 64) :
    ((List.range' first length).map counterValue).Nodup := by
  have plain : (List.range' first length).map counterValue = List.range' first length := by
    conv_rhs => rw [← List.map_id (List.range' first length)]
    apply List.map_congr_left
    intro count member
    have bounds := List.mem_range'_1.mp member
    apply counter_value_of_lt
    omega
  rw [plain]
  exact List.nodup_range'

theorem generations_distinct {system : System} (registered : Registered system)
    (unwrapped : system.nextSessionGeneration ≤ 2 ^ 64) :
    ((acceptedRefs system.history).map SessionRef.generation).Nodup := by
  rw [registered.numbered]
  apply counter_values_nodup
  have positive := registered.positive
  omega

theorem generation_fresh {system : System} (registered : Registered system)
    (unwrapped : system.nextSessionGeneration < 2 ^ 64) {ref : SessionRef}
    (accepted : ref ∈ acceptedRefs system.history) :
    ref.generation ≠ counterValue system.nextSessionGeneration := by
  have listed : ref.generation ∈ (acceptedRefs system.history).map SessionRef.generation :=
    List.mem_map_of_mem accepted
  rw [registered.numbered] at listed
  rcases List.mem_map.mp listed with ⟨count, member, same⟩
  have bounds := List.mem_range'_1.mp member
  have positive := registered.positive
  rw [← same, counter_value_of_lt (by omega), counter_value_of_lt unwrapped]
  omega

/-- The next thing the server looks at belongs to a session that is not live. -/
def StaleNext (system : System) : Prop :=
  (system.position = .draining ∧ ∃ cqe rest ref, system.completed = cqe :: rest ∧
    (cqe.operation.token = .recv ref ∨ ∃ payload, cqe.operation.token = .send ref payload) ∧
    system.sessionMatches ref = false) ∨
  (system.position = .completing ∧ ∃ completion rest,
    system.database.completions = completion :: rest ∧
    system.sessionMatches completion.client = false)

theorem live_of_not_matches {system : System} {ref : SessionRef}
    (stale : system.sessionMatches ref = false) : system.live ref = none := by
  unfold System.sessionMatches at stale
  exact Option.isSome_eq_false_iff.mp stale |> Option.isNone_iff_eq_none.mp

theorem stale_changes_nothing {system next : System} {order : SectorWorld.CallOrder}
    (stale : StaleNext system) (taken : system.step (.server order) = some next) :
    next.sessions = system.sessions ∧ next.world = system.world := by
  rw [step_server] at taken
  rcases stale with ⟨position, cqe, rest, ref, completed, token, dead⟩ |
    ⟨position, completion, rest, completions, dead⟩
  · have gone : (setCompleted system rest).live ref = none := live_of_not_matches dead
    rw [server_step_cqe order position completed] at taken
    rw [← Option.some.inj taken]
    rcases token with recv | ⟨payload, send⟩
    · simp only [System.handleCqe, recv, System.handleRecv, gone]
      exact ⟨rfl, rfl⟩
    · simp only [System.handleCqe, send, System.handleSend, gone]
      exact ⟨rfl, rfl⟩
  · have gone : (popCompletion system completion rest).live completion.client = none :=
      live_of_not_matches dead
    rw [server_step_completion order position] at taken
    rw [← Option.some.inj taken, handle_completion_eq order completions, gone]
    split
    · exact ⟨rfl, rfl⟩
    · exact ⟨rfl, rfl⟩

/-- What `sessions_`, the world and the completions have to do with each other. -/
structure Agree (system : System) : Prop where
  generationsDistinct : ((acceptedRefs system.history).map SessionRef.generation).Nodup
  playersLive : ∀ ref, system.world.players ref ≠ none → system.sessionMatches ref = true
  eventsDelivered : ∀ ref line, Event.dropped ref (.world line) ∉ system.history
  staleIgnored : ∀ order next, StaleNext system → system.step (.server order) = some next →
    next.sessions = system.sessions ∧ next.world = system.world

theorem world_and_sessions_agree {config : ServerConfig} {poolSize : Nat} {system : System}
    (reached : Reachable System.step (System.start config poolSize) system)
    (unwrapped : system.nextSessionGeneration ≤ 2 ^ 64) : Agree system := by
  have coherent := coherent_reachable reached
  have registered := registered_reachable reached
  constructor
  · exact generations_distinct registered unwrapped
  · intro ref present
    have alive := coherent.inWorld ref present
    exact Option.isSome_iff_ne_none.mpr (live_ne_none.mpr alive)
  · intro ref line
    exact registered.nothingDropped ref (.world line)
  · intro order next stale taken
    exact stale_changes_nothing stale taken

def oneEnters : List Label :=
  [.tick, .accept 0 5, .tick, .tick, .tick, .tick, .tick,
    .recv 2 (ascii "ENTER a b 0 0\n"), .tick, .tick, .tick, .tick]

theorem world_and_sessions_agree_inside :
    ∃ system, run System.step (System.start .default 1) oneEnters = some system ∧
      system.world.players ⟨5, 1⟩ ≠ none ∧ Agree system := by
  have ends : (run System.step (System.start .default 1) oneEnters).any (fun system =>
      (system.world.players ⟨5, 1⟩).isSome && system.nextSessionGeneration = 2) = true := by
    decide
  rcases Option.any_eq_true _ _ |>.mp ends with ⟨system, ran, facts⟩
  simp only [Bool.and_eq_true, decide_eq_true_eq] at facts
  refine ⟨system, ran, Option.isSome_iff_ne_none.mp facts.1, ?_⟩
  apply world_and_sessions_agree ⟨oneEnters, ran⟩
  rw [facts.2]
  decide

end DungeonPortfolio.Sessions
