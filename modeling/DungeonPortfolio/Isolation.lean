import DungeonPortfolio.Requests

/-!
# Connections and sessions

An operation names an fd and is bound to whatever connection has that fd when it
is submitted. A session that is live at that moment owns the connection, so the
bytes of a recv always reach their own session. A send can be submitted after
its session is gone; it keeps to its connection as long as no accept takes the
fd in between.
-/

namespace DungeonPortfolio.Isolation

open DungeonPortfolio.Text DungeonPortfolio.World DungeonPortfolio.Dispatcher
open DungeonPortfolio.Server DungeonPortfolio.ServerActs DungeonPortfolio.ServerResponses
open DungeonPortfolio.ServerSteps DungeonPortfolio.Sessions
open Library.Execution

set_option autoImplicit false

def owner : CompletionToken → Option SessionRef
  | .recv ref | .send ref _ => some ref
  | .accept | .databaseEvent => none

/-- Operations the kernel has been given and the server has not looked at again. -/
def operations (system : System) : List Operation :=
  system.inFlight ++ system.completed.map Cqe.operation

/-- If there is a connection, it was accepted as the session `ref`. -/
def Own (history : List Event) (ref : SessionRef) (connection : Option Nat) : Prop :=
  ∀ number, connection = some number → Event.accepted ref (some number) ∈ history

/-- Bytes go to the connection of their session and come from it. -/
structure Isolated (system : System) : Prop where
  sends : ∀ connection ref bytes, Event.transmitted connection ref bytes ∈ system.history →
    Event.accepted ref (some connection) ∈ system.history
  receives : ∀ ref connection bytes, Event.received ref connection bytes ∈ system.history →
    Event.accepted ref connection ∈ system.history

def Still : Event → Prop
  | .received _ _ _ | .transmitted _ _ _ => False
  | _ => True

structure Ordinary (system next : System) : Prop where
  history : ∃ events, next.history = system.history ++ events ∧ ∀ event ∈ events, Still event
  keys : ∀ fd number, generationAt next fd = some number →
    generationAt system fd = some number ∧ next.connections fd = system.connections fd
  connections : ∀ fd, next.connections fd = none ∨ next.connections fd = system.connections fd
  vacant : ∀ fd, generationAt system fd = none → next.connections fd = system.connections fd
  completed : next.completed ⊆ system.completed
  inFlight : next.inFlight = system.inFlight
  prepared : ∃ tokens, next.prepared = system.prepared ++ tokens ∧
    ∀ token ∈ tokens, ∀ ref, owner token = some ref →
      generationAt system ref.fd = some ref.generation

inductive Traffic (system : System) : System → Prop
  | ordinary (next : System) (quiet : Ordinary system next) : Traffic system next
  | submitted : Traffic system system.submit
  | arrived (cqe : Cqe) (rest : List Cqe) (ref : SessionRef)
      (completed : system.completed = cqe :: rest) (token : cqe.operation.token = .accept)
      (succeeded : 0 ≤ cqe.result)
      (fresh : ref = ⟨cqe.result, counterValue system.nextSessionGeneration⟩) :
      Traffic system { system with
        completed := rest
        nextSessionGeneration := system.nextSessionGeneration + 1
        sessions := Function.update system.sessions ref.fd
          (some ⟨ref.generation, [], [], false, false, 0⟩)
        position := .opened ref
        history := system.history ++ [.accepted ref cqe.operation.connection] }
  | received (next : System) (cqe : Cqe) (rest : List Cqe) (ref : SessionRef) (bytes : Bytes)
      (completed : system.completed = cqe :: rest) (token : cqe.operation.token = .recv ref)
      (alive : generationAt system ref.fd = some ref.generation)
      (keys : generationAt next = generationAt system)
      (connections : next.connections = system.connections) (popped : next.completed = rest)
      (inFlight : next.inFlight = system.inFlight) (prepared : next.prepared = system.prepared)
      (history : next.history =
        system.history ++ [.received ref cqe.operation.connection bytes]) : Traffic system next

theorem ordinary_of_keys {system next : System} {events : List Event}
    {tokens : List CompletionToken} (history : next.history = system.history ++ events)
    (still : ∀ event ∈ events, Still event)
    (keys : ∀ fd number, generationAt next fd = some number →
      generationAt system fd = some number)
    (connections : next.connections = system.connections)
    (completed : next.completed ⊆ system.completed)
    (inFlight : next.inFlight = system.inFlight)
    (prepared : next.prepared = system.prepared ++ tokens)
    (owned : ∀ token ∈ tokens, ∀ ref, owner token = some ref →
      generationAt system ref.fd = some ref.generation) : Traffic system next := by
  apply Traffic.ordinary
  constructor
  · exact ⟨events, history, still⟩
  · intro fd number found
    rw [connections]
    exact ⟨keys fd number found, rfl⟩
  · intro fd
    rw [connections]
    exact Or.inr rfl
  · intro fd _
    rw [connections]
  · exact completed
  · exact inFlight
  · exact ⟨tokens, prepared, owned⟩

theorem ordinary_unchanged {system next : System} (history : next.history = system.history)
    (sessions : next.sessions = system.sessions)
    (connections : next.connections = system.connections)
    (completed : next.completed ⊆ system.completed)
    (inFlight : next.inFlight = system.inFlight) (prepared : next.prepared = system.prepared) :
    Traffic system next := by
  apply ordinary_of_keys (history.trans (no_events _)) nothing_new _ connections completed inFlight
    (prepared.trans (List.append_nil _).symm) nothing_new
  intro fd number found
  simp only [generationAt, sessions] at found
  exact found

theorem unowned {system : System} {token : CompletionToken} (nobody : owner token = none) :
    ∀ item ∈ [token], ∀ ref, owner item = some ref →
      generationAt system ref.fd = some ref.generation := by
  intro item member ref owned
  rw [List.mem_singleton.mp member, nobody] at owned
  cases owned

theorem owned_by {system : System} {token : CompletionToken} {ref : SessionRef}
    (somebody : owner token = some ref)
    (alive : generationAt system ref.fd = some ref.generation) :
    ∀ item ∈ [token], ∀ other, owner item = some other →
      generationAt system other.fd = some other.generation := by
  intro item member other owned
  rw [List.mem_singleton.mp member, somebody] at owned
  rw [← Option.some.inj owned]
  exact alive

/-- The send `queue_response` may post is the session's own. -/
theorem push_line_traffic {system : System} {ref : SessionRef} {session : Session}
    (changed : Session) (line : ServerLine) (alive : system.live ref = some session)
    (same : changed.generation = session.generation) :
    Ordinary system (pushLine system ref changed line) := by
  have there := generation_of_live alive
  have generation := same.trans (live_eq_some.mp alive).2
  constructor
  · exact ⟨_, push_line_history _ _ _ _, one_new trivial⟩
  · intro fd number found
    exact ⟨keys_of_push_line line there generation fd number found, by rw [push_line_connections]⟩
  · intro fd
    rw [push_line_connections]
    exact Or.inr rfl
  · intro fd _
    rw [push_line_connections]
  · rw [push_line_completed]
    exact List.Subset.refl _
  · exact push_line_in_flight _ _ _ _
  · refine ⟨_, push_line_prepared _ _ _ _, ?_⟩
    split
    · exact nothing_new
    · exact owned_by rfl there

theorem Ordinary.after {system middle next : System} (second : Ordinary middle next)
    (history : ∃ events, middle.history = system.history ++ events ∧ ∀ event ∈ events, Still event)
    (keys : generationAt middle = generationAt system)
    (connections : middle.connections = system.connections)
    (completed : middle.completed ⊆ system.completed)
    (inFlight : middle.inFlight = system.inFlight) (prepared : middle.prepared = system.prepared) :
    Ordinary system next := by
  constructor
  · rcases history with ⟨first, before, stillFirst⟩
    rcases second.history with ⟨last, after, stillLast⟩
    refine ⟨first ++ last, ?_, ?_⟩
    · rw [after, before, List.append_assoc]
    · intro event member
      rcases List.mem_append.mp member with early | late
      · exact stillFirst event early
      · exact stillLast event late
  · rw [← keys, ← connections]
    exact second.keys
  · rw [← connections]
    exact second.connections
  · rw [← keys, ← connections]
    exact second.vacant
  · exact List.Subset.trans second.completed completed
  · exact second.inFlight.trans inFlight
  · rw [← prepared, ← keys]
    exact second.prepared

theorem Ordinary.followed {system middle next : System} {events : List Event}
    (first : Ordinary system middle) (history : next.history = middle.history ++ events)
    (still : ∀ event ∈ events, Still event) (keys : generationAt next = generationAt middle)
    (connections : next.connections = middle.connections)
    (completed : next.completed = middle.completed) (inFlight : next.inFlight = middle.inFlight)
    (prepared : next.prepared = middle.prepared) : Ordinary system next := by
  constructor
  · rcases first.history with ⟨earlier, before, stillFirst⟩
    refine ⟨earlier ++ events, ?_, ?_⟩
    · rw [history, before, List.append_assoc]
    · intro event member
      rcases List.mem_append.mp member with early | late
      · exact stillFirst event early
      · exact still event late
  · rw [keys, connections]
    exact first.keys
  · rw [connections]
    exact first.connections
  · rw [connections]
    exact first.vacant
  · rw [completed]
    exact first.completed
  · exact inFlight.trans first.inFlight
  · rw [prepared]
    exact first.prepared

theorem progress_traffic {system : System} {cqe : Cqe} {rest : List Cqe} {ref : SessionRef}
    {session : Session} (payload : Bytes) (completed : system.completed = cqe :: rest)
    (alive : system.live ref = some session) (count : Nat) :
    Ordinary system (progress { system with completed := rest } ref session payload count) := by
  have there := generation_of_live alive
  have generation := (live_eq_some.mp alive).2
  constructor
  · exact ⟨_, progress_history _ _ _ _ _, one_new trivial⟩
  · intro fd number found
    have frame := progress_frame { system with completed := rest } session payload count there
      generation
    rw [frame.2.1] at found
    exact ⟨found, by rw [progress_connections]⟩
  · intro fd
    rw [progress_connections]
    exact Or.inr rfl
  · intro fd _
    rw [progress_connections]
  · rw [progress_completed, completed]
    exact List.subset_cons_self cqe rest
  · exact progress_in_flight _ _ _ _ _
  · refine ⟨_, progress_prepared _ _ _ _ _, ?_⟩
    split
    · exact nothing_new
    · exact owned_by rfl there

theorem erase_traffic {system : System} {ref : SessionRef} (cause : CloseCause)
    (alive : generationAt system ref.fd = some ref.generation) :
    Ordinary system (erase system ref cause) := by
  constructor
  · exact ⟨_, rfl, one_new trivial⟩
  · intro fd number found
    simp only [generationAt, erase, Function.update_apply] at found ⊢
    split at found
    · cases found
    · rename_i elsewhere
      exact ⟨found, if_neg elsewhere⟩
  · intro fd
    simp only [erase, Function.update_apply]
    split
    · exact Or.inl rfl
    · exact Or.inr rfl
  · intro fd gone
    apply Function.update_of_ne
    intro same
    rw [same, alive] at gone
    cases gone
  · exact List.Subset.refl _
  · rfl
  · exact ⟨[], (List.append_nil _).symm, nothing_new⟩

theorem act_traffic {system next : System} (coherent : Coherent system)
    (act : Act system next) : Traffic system next := by
  have all : system.completed ⊆ system.completed := List.Subset.refl _
  have popped : ∀ {cqe : Cqe} {rest : List Cqe}, system.completed = cqe :: rest →
      rest ⊆ system.completed := by
    intro cqe rest completed
    rw [completed]
    exact List.subset_cons_self cqe rest
  have replaced : ∀ {ref : SessionRef} {session : Session} (changed : Session),
      system.live ref = some session → changed.generation = session.generation →
      ∀ fd number, generationAt (system.setSession ref.fd (some changed)) fd = some number →
        generationAt system fd = some number := by
    intro ref session changed alive same
    exact keys_of_replace changed (generation_of_live alive)
      (same.trans (live_eq_some.mp alive).2)
  cases act with
  | submitted => exact Traffic.submitted
  | waited => exact ordinary_unchanged rfl rfl rfl all rfl rfl
  | drained => exact ordinary_unchanged rfl rfl rfl all rfl rfl
  | dismissed cqe rest ref position completed =>
      exact ordinary_unchanged rfl rfl rfl (popped completed) rfl rfl
  | refused cqe rest position completed =>
      exact ordinary_unchanged rfl rfl rfl (popped completed) rfl rfl
  | arrived cqe rest ref position completed token succeeded fresh =>
      exact Traffic.arrived cqe rest ref completed token succeeded fresh
  | recvPosted ref position =>
      have busy := coherent.busy ref (by rw [position]; rfl)
      exact ordinary_of_keys (no_events _) nothing_new (fun _ _ same => same) rfl all rfl rfl
        (owned_by rfl busy)
  | acceptPosted =>
      exact ordinary_of_keys (no_events _) nothing_new (fun _ _ same => same) rfl all rfl rfl
        (unowned rfl)
  | answered ref session line alive =>
      exact Traffic.ordinary _ (push_line_traffic session line alive rfl)
  | received cqe rest ref session position completed token alive =>
      exact Traffic.received _ cqe rest ref _ completed token (generation_of_live alive)
        (generation_at_replace (generation_of_live alive) (live_eq_some.mp alive).2) rfl rfl rfl
        rfl rfl
  | lineTaken ref session line rest position alive =>
      exact ordinary_of_keys rfl (one_new trivial) (replaced { session with input := rest } alive rfl)
        rfl all rfl (List.append_nil _).symm nothing_new
  | raised ref session line rest exception position alive =>
      exact ordinary_of_keys rfl (one_new trivial) (replaced { session with input := rest } alive rfl)
        rfl all rfl (List.append_nil _).symm nothing_new
  | framed => exact ordinary_unchanged rfl rfl rfl all rfl rfl
  | worldCalled => exact ordinary_unchanged rfl rfl rfl all rfl rfl
  | saved =>
      exact ordinary_of_keys rfl (one_new trivial) (fun _ _ same => same) rfl all rfl
        (List.append_nil _).symm nothing_new
  | requested ref session operation commandName args alive =>
      apply Traffic.ordinary
      have pushed := push_line_traffic { session with pendingDb := session.pendingDb + 1 }
        (.pending (counterValue system.nextRequestId) commandName) alive rfl
      exact pushed.followed rfl (one_new trivial) rfl rfl rfl rfl rfl
  | closing ref session position alive =>
      exact ordinary_of_keys (no_events _) nothing_new
        (replaced { session with closeAfterFlush := true } alive rfl) rfl all rfl
        (List.append_nil _).symm nothing_new
  | parked => exact ordinary_unchanged rfl rfl rfl all rfl rfl
  | recvReposted ref session position alive =>
      exact ordinary_of_keys (no_events _) nothing_new (fun _ _ same => same) rfl all rfl rfl
        (owned_by rfl (generation_of_live alive))
  | erased ref session cause position alive =>
      exact Traffic.ordinary _ (erase_traffic cause (generation_of_live alive))
  | awoken cqe rest position completed =>
      exact ordinary_unchanged rfl rfl rfl (popped completed) rfl rfl
  | skipped =>
      exact ordinary_of_keys rfl (one_new trivial) (fun _ _ same => same) rfl all rfl
        (List.append_nil _).symm nothing_new
  | completed completion rest session position completions notify alive =>
      apply Traffic.ordinary
      have found : (popCompletion system completion rest).live completion.client = some session :=
        alive
      have pushed := push_line_traffic { session with pendingDb := session.pendingDb - 1 }
        (.completion completion.ok completion.requestId completion.line) found rfl
      exact pushed.after ⟨_, rfl, one_new trivial⟩ rfl rfl all rfl rfl
  | pollPosted =>
      exact ordinary_of_keys (no_events _) nothing_new (fun _ _ same => same) rfl all rfl rfl
        (unowned rfl)

theorem sent_traffic {system next : System} {ref : SessionRef}
    (sent : Sent system ref next) : Traffic system next := by
  cases sent with
  | progressed cqe rest _ session payload position completed token alive =>
      exact Traffic.ordinary _ (progress_traffic payload completed alive _)

structure Placed (system : System) : Prop where
  arriving : ∀ cqe ∈ system.completed, cqe.operation.token = .accept → 0 ≤ cqe.result →
    cqe.operation.connection = system.connections cqe.result
  own : ∀ ref, generationAt system ref.fd = some ref.generation →
    Event.accepted ref (system.connections ref.fd) ∈ system.history

theorem arrivals_member {system : System} {cqe : Cqe} (member : cqe ∈ system.completed)
    (token : cqe.operation.token = .accept) (succeeded : 0 ≤ cqe.result) :
    cqe.result ∈ arrivals system := by
  apply List.mem_filterMap.mpr
  exact ⟨cqe, member, if_pos ⟨token, succeeded⟩⟩

theorem placed_traffic {system next : System} (coherent : Coherent system)
    (placed : Placed system) (traffic : Traffic system next) : Placed next := by
  cases traffic with
  | ordinary _ quiet =>
      rcases quiet.history with ⟨events, history, _⟩
      constructor
      · intro cqe member token succeeded
        have listed := quiet.completed member
        have waiting := coherent.arriving _ (arrivals_member listed token succeeded)
        rw [quiet.vacant _ waiting.2]
        exact placed.arriving cqe listed token succeeded
      · intro ref alive
        have before := quiet.keys ref.fd ref.generation alive
        rw [before.2, history]
        exact List.mem_append_left _ (placed.own ref before.1)
  | submitted => exact ⟨placed.arriving, placed.own⟩
  | arrived cqe rest ref completed token succeeded fresh =>
      have first : cqe ∈ system.completed := by
        rw [completed]
        exact List.mem_cons_self
      constructor
      · intro other member
        apply placed.arriving other
        rw [completed]
        exact List.mem_cons_of_mem cqe member
      · intro other alive
        have found : (if other.fd = ref.fd then some ref.generation
            else generationAt system other.fd) = some other.generation := by
          rw [← generation_at_set_session system ref.fd other.fd
            ⟨ref.generation, [], [], false, false, 0⟩]
          exact alive
        split at found
        · rename_i sameFd
          have sameGeneration := Option.some.inj found
          have same : other = ref := by
            cases other
            cases ref
            simp_all
          have connection := placed.arriving cqe first token succeeded
          have fd : ref.fd = cqe.result := by rw [fresh]
          rw [same]
          simp only [fd, ← connection]
          exact List.mem_append_right _ (List.mem_singleton_self _)
        · exact List.mem_append_left _ (placed.own other found)
  | received _ cqe rest ref bytes completed token alive keys connections popped inFlight prepared
      history =>
      constructor
      · intro other member
        rw [connections]
        apply placed.arriving other
        rw [completed]
        rw [popped] at member
        exact List.mem_cons_of_mem cqe member
      · intro other there
        rw [keys] at there
        rw [connections, history]
        exact List.mem_append_left _ (placed.own other there)

theorem placed_complete {system : System} (placed : Placed system) (index : Nat) {cqe : Cqe}
    (other : cqe.operation.token = .accept → cqe.result < 0) :
    Placed (system.complete index cqe) := by
  constructor
  · intro found member token succeeded
    rcases List.mem_append.mp member with earlier | new
    · exact placed.arriving found earlier token succeeded
    · rw [List.mem_singleton.mp new] at token succeeded
      have negative := other token
      omega
  · exact placed.own

theorem placed_outside {system next : System} {label : Label} (coherent : Coherent system)
    (placed : Placed system) (taken : Outside system label next) : Placed next := by
  cases taken with
  | accepts index fd connection found vacant =>
      constructor
      · intro cqe member token succeeded
        rcases List.mem_append.mp member with earlier | new
        · have waiting := coherent.arriving _ (arrivals_member earlier token succeeded)
          have elsewhere : cqe.result ≠ fd := by
            intro same
            rw [same] at waiting
            exact waiting.1 vacant
          simp only [Function.update_of_ne elsewhere]
          exact placed.arriving cqe earlier token succeeded
        · rw [List.mem_singleton.mp new]
          simp only [Function.update_self]
      · intro ref alive
        have opened : system.connections ref.fd ≠ none := by
          apply coherent.opened
          intro gone
          cases gone.symm.trans alive
        have elsewhere : ref.fd ≠ fd := by
          intro same
          rw [same] at opened
          exact opened vacant
        simp only [Function.update_of_ne elsewhere]
        exact placed.own ref alive
  | receives => exact placed_complete placed _ (fun accept => by cases accept)
  | transmits index count ref payload connection =>
      have completed : Placed (system.complete index
          ⟨⟨.send ref payload, some connection⟩, count, []⟩) :=
        placed_complete placed index (fun accept => by cases accept)
      exact ⟨completed.arriving, fun ref alive => List.mem_append_left _ (completed.own ref alive)⟩
  | fails index operation result found negative => exact placed_complete placed index negative
  | polls => exact placed_complete placed _ (fun accept => by cases accept)
  | _ => exact ⟨placed.arriving, placed.own⟩

theorem placed_start (config : ServerConfig) (poolSize : Nat) :
    Placed (System.start config poolSize) where
  arriving := nothing_new
  own := by
    intro ref alive
    cases alive

/-- Every send is, or is going to be, bound to the connection of its session. -/
structure SendsPlaced (system : System) : Prop where
  waiting : ∀ ref payload, CompletionToken.send ref payload ∈ system.prepared →
    Own system.history ref (system.connections ref.fd)
  bound : ∀ operation ∈ system.inFlight, ∀ ref payload, operation.token = .send ref payload →
    Own system.history ref operation.connection
  transmitted : ∀ connection ref bytes,
    Event.transmitted connection ref bytes ∈ system.history →
      Event.accepted ref (some connection) ∈ system.history

theorem Own.grows {history : List Event} {ref : SessionRef} {connection : Option Nat}
    (own : Own history ref connection) (events : List Event) :
    Own (history ++ events) ref connection := by
  intro number here
  exact List.mem_append_left _ (own number here)

theorem own_nothing (history : List Event) (ref : SessionRef) : Own history ref none := by
  intro number here
  cases here

theorem own_of_accepted {history : List Event} {ref : SessionRef} {connection : Option Nat}
    (accepted : Event.accepted ref connection ∈ history) : Own history ref connection := by
  intro number here
  rw [← here]
  exact accepted

theorem transmitted_grows {history events : List Event}
    (before : ∀ connection ref bytes, Event.transmitted connection ref bytes ∈ history →
      Event.accepted ref (some connection) ∈ history)
    (none_ : ∀ connection ref bytes, Event.transmitted connection ref bytes ∉ events) :
    ∀ connection ref bytes, Event.transmitted connection ref bytes ∈ history ++ events →
      Event.accepted ref (some connection) ∈ history ++ events := by
  intro connection ref bytes member
  rcases List.mem_append.mp member with earlier | new
  · exact List.mem_append_left _ (before connection ref bytes earlier)
  · exact absurd new (none_ connection ref bytes)

theorem sends_traffic {system next : System} (placed : Placed system)
    (sends : SendsPlaced system) (traffic : Traffic system next) : SendsPlaced next := by
  cases traffic with
  | ordinary _ quiet =>
      rcases quiet.history with ⟨events, history, still⟩
      rcases quiet.prepared with ⟨tokens, prepared, owned⟩
      constructor
      · intro ref payload member
        rw [prepared] at member
        rw [history]
        rcases quiet.connections ref.fd with gone | same
        · rw [gone]
          exact own_nothing _ ref
        · rw [same]
          apply Own.grows
          rcases List.mem_append.mp member with earlier | new
          · exact sends.waiting ref payload earlier
          · exact own_of_accepted (placed.own ref (owned _ new ref rfl))
      · rw [quiet.inFlight, history]
        intro operation member ref payload token
        exact (sends.bound operation member ref payload token).grows events
      · rw [history]
        apply transmitted_grows sends.transmitted
        intro connection ref bytes member
        exact still _ member
  | submitted =>
      constructor
      · intro ref payload member
        cases member
      · intro operation member ref payload token
        rcases List.mem_append.mp member with earlier | new
        · exact sends.bound operation earlier ref payload token
        · rcases List.mem_map.mp new with ⟨prepared, waiting, rfl⟩
          cases prepared with
          | send other bytes =>
              obtain ⟨rfl, rfl⟩ := CompletionToken.send.inj token
              exact sends.waiting other bytes waiting
          | _ => cases token
      · exact sends.transmitted
  | arrived cqe rest ref completed token succeeded fresh =>
      constructor
      · intro other payload member
        exact (sends.waiting other payload member).grows _
      · intro operation member other payload token
        exact (sends.bound operation member other payload token).grows _
      · apply transmitted_grows sends.transmitted
        intro connection other bytes member
        cases List.mem_singleton.mp member
  | received _ cqe rest ref bytes completed token alive keys connections popped inFlight prepared
      history =>
      constructor
      · rw [prepared, connections, history]
        intro other payload member
        exact (sends.waiting other payload member).grows _
      · rw [inFlight, history]
        intro operation member other payload token
        exact (sends.bound operation member other payload token).grows _
      · rw [history]
        apply transmitted_grows sends.transmitted
        intro connection other bytes member
        cases List.mem_singleton.mp member

theorem sends_complete {system : System} (sends : SendsPlaced system) (index : Nat) (cqe : Cqe) :
    SendsPlaced (system.complete index cqe) := by
  constructor
  · exact sends.waiting
  · intro operation member
    exact sends.bound operation (List.mem_of_mem_eraseIdx member)
  · exact sends.transmitted

def sendFd : CompletionToken → Option Int
  | .send ref _ => some ref.fd
  | .accept | .recv _ | .databaseEvent => none

/-- No accept takes the fd of a send that waits to be submitted. -/
def KeepsFd (system : System) : Label → Prop
  | .accept _ fd => ∀ token ∈ system.prepared, sendFd token ≠ some (fd : Int)
  | _ => True

instance (system : System) (label : Label) : Decidable (KeepsFd system label) :=
  match label with
  | .accept _ fd =>
      inferInstanceAs (Decidable (∀ token ∈ system.prepared, sendFd token ≠ some (fd : Int)))
  | .server _ | .recv _ _ | .send _ _ | .fail _ _ | .poll _ | .take | .finish _ _ _ | .signal =>
      isTrue trivial

theorem sends_outside {system next : System} {label : Label} (sends : SendsPlaced system)
    (keepsFd : KeepsFd system label) (taken : Outside system label next) : SendsPlaced next := by
  cases taken with
  | accepts index fd connection found vacant =>
      have completed := sends_complete sends index
        ⟨⟨.accept, some system.nextConnection⟩, fd, []⟩
      constructor
      · intro ref payload member
        have elsewhere : ref.fd ≠ fd := by
          intro same
          exact keepsFd _ member (congrArg some same)
        simp only [Function.update_of_ne elsewhere]
        exact sends.waiting ref payload member
      · exact completed.bound
      · exact completed.transmitted
  | receives => exact sends_complete sends _ _
  | transmits index count ref payload connection found =>
      have own := sends.bound _ (List.mem_of_getElem? found) ref payload rfl connection rfl
      have completed := sends_complete sends index ⟨⟨.send ref payload, some connection⟩, count, []⟩
      constructor
      · intro other bytes member
        exact (completed.waiting other bytes member).grows _
      · intro operation member other bytes token
        exact (completed.bound operation member other bytes token).grows _
      · intro number other bytes member
        apply List.mem_append_left
        rcases List.mem_append.mp member with earlier | new
        · exact completed.transmitted number other bytes earlier
        · obtain ⟨rfl, rfl, rfl⟩ := Event.transmitted.inj (List.mem_singleton.mp new)
          exact own
  | fails => exact sends_complete sends _ _
  | polls => exact sends_complete sends _ _
  | _ => exact ⟨sends.waiting, sends.bound, sends.transmitted⟩

theorem sends_start (config : ServerConfig) (poolSize : Nat) :
    SendsPlaced (System.start config poolSize) := by
  constructor
  · intro ref payload member
    simp [System.start] at member
  · exact nothing_new
  · intro connection ref bytes member
    cases member

/-- Every recv of a live session is bound to the session's connection. -/
structure ReceivesPlaced (system : System) : Prop where
  waiting : ∀ ref, CompletionToken.recv ref ∈ system.prepared →
    ref ∈ acceptedRefs system.history
  known : ∀ operation ∈ operations system, ∀ ref, operation.token = .recv ref →
    ref ∈ acceptedRefs system.history
  bound : ∀ operation ∈ operations system, ∀ ref, operation.token = .recv ref →
    generationAt system ref.fd = some ref.generation →
      operation.connection = system.connections ref.fd
  received : ∀ ref connection bytes, Event.received ref connection bytes ∈ system.history →
    Event.accepted ref connection ∈ system.history

theorem received_grows {history events : List Event}
    (before : ∀ ref connection bytes, Event.received ref connection bytes ∈ history →
      Event.accepted ref connection ∈ history)
    (none_ : ∀ ref connection bytes, Event.received ref connection bytes ∉ events) :
    ∀ ref connection bytes, Event.received ref connection bytes ∈ history ++ events →
      Event.accepted ref connection ∈ history ++ events := by
  intro ref connection bytes member
  rcases List.mem_append.mp member with earlier | new
  · exact List.mem_append_left _ (before ref connection bytes earlier)
  · exact absurd new (none_ ref connection bytes)

theorem accepted_refs_grow {history : List Event} {ref : SessionRef}
    (member : ref ∈ acceptedRefs history) (events : List Event) :
    ref ∈ acceptedRefs (history ++ events) := by
  rw [accepted_refs_append]
  exact List.mem_append_left _ member

theorem operations_pop {system : System} {cqe : Cqe} {rest : List Cqe}
    (completed : system.completed = cqe :: rest) :
    system.inFlight ++ rest.map Cqe.operation ⊆ operations system := by
  intro operation member
  rw [operations, completed]
  rcases List.mem_append.mp member with flying | done
  · exact List.mem_append_left _ flying
  · exact List.mem_append_right _ (List.mem_cons_of_mem _ done)

theorem receives_traffic {system next : System} (registered : Registered system)
    (placed : Placed system) (receives : ReceivesPlaced system)
    (unwrapped : next.nextSessionGeneration ≤ 2 ^ 64) (traffic : Traffic system next) :
    ReceivesPlaced next := by
  cases traffic with
  | ordinary _ quiet =>
      rcases quiet.history with ⟨events, history, still⟩
      rcases quiet.prepared with ⟨tokens, prepared, owned⟩
      have fewer : operations next ⊆ operations system := by
        intro operation member
        rw [operations, quiet.inFlight] at member
        rcases List.mem_append.mp member with flying | done
        · exact List.mem_append_left _ flying
        · exact List.mem_append_right _ (List.map_subset _ quiet.completed done)
      constructor
      · rw [prepared, history]
        intro ref member
        apply accepted_refs_grow
        rcases List.mem_append.mp member with earlier | new
        · exact receives.waiting ref earlier
        · exact registered.known ref (owned _ new ref rfl)
      · rw [history]
        intro operation member ref token
        exact accepted_refs_grow (receives.known operation (fewer member) ref token) events
      · intro operation member ref token alive
        have before := quiet.keys ref.fd ref.generation alive
        rw [before.2]
        exact receives.bound operation (fewer member) ref token before.1
      · rw [history]
        apply received_grows receives.received
        intro ref connection bytes member
        exact still _ member
  | submitted =>
      have bindings : ∀ operation ∈ operations system.submit, operation ∈ operations system ∨
          ∃ token ∈ system.prepared, operation = system.bind token := by
        intro operation member
        rcases List.mem_append.mp member with flying | done
        · rcases List.mem_append.mp flying with earlier | new
          · exact Or.inl (List.mem_append_left _ earlier)
          · rcases List.mem_map.mp new with ⟨token, waiting, rfl⟩
            exact Or.inr ⟨token, waiting, rfl⟩
        · exact Or.inl (List.mem_append_right _ done)
      constructor
      · intro ref member
        cases member
      · intro operation member ref token
        rcases bindings operation member with earlier | ⟨prepared, waiting, rfl⟩
        · exact receives.known operation earlier ref token
        · cases prepared with
          | recv other =>
              obtain rfl := CompletionToken.recv.inj token
              exact receives.waiting other waiting
          | _ => cases token
      · intro operation member ref token alive
        rcases bindings operation member with earlier | ⟨prepared, waiting, rfl⟩
        · exact receives.bound operation earlier ref token alive
        · cases prepared with
          | recv other =>
              obtain rfl := CompletionToken.recv.inj token
              rfl
          | _ => cases token
      · exact receives.received
  | arrived cqe rest ref completed token succeeded fresh =>
      have fewer := operations_pop completed
      constructor
      · intro other member
        exact accepted_refs_grow (receives.waiting other member) _
      · intro operation member other posted
        exact accepted_refs_grow (receives.known operation (fewer member) other posted) _
      · intro operation member other posted alive
        have known := receives.known operation (fewer member) other posted
        have small : system.nextSessionGeneration + 1 ≤ 2 ^ 64 := unwrapped
        have old := generation_fresh registered (by omega) known
        have found : (if other.fd = ref.fd then some ref.generation
            else generationAt system other.fd) = some other.generation := by
          rw [← generation_at_set_session system ref.fd other.fd
            ⟨ref.generation, [], [], false, false, 0⟩]
          exact alive
        split at found
        · have same := Option.some.inj found
          rw [fresh] at same
          exact absurd same.symm old
        · exact receives.bound operation (fewer member) other posted found
      · apply received_grows receives.received
        intro other connection bytes member
        cases List.mem_singleton.mp member
  | received _ cqe rest ref bytes completed token alive keys connections popped inFlight prepared
      history =>
      have fewer : operations next ⊆ operations system := by
        rw [operations, popped, inFlight]
        exact operations_pop completed
      have here : cqe.operation ∈ operations system := by
        rw [operations, completed]
        exact List.mem_append_right _ List.mem_cons_self
      have own := placed.own ref alive
      rw [← receives.bound cqe.operation here ref token alive] at own
      constructor
      · rw [prepared, history]
        intro other member
        exact accepted_refs_grow (receives.waiting other member) _
      · rw [history]
        intro operation member other posted
        exact accepted_refs_grow (receives.known operation (fewer member) other posted) _
      · rw [keys, connections]
        intro operation member
        exact receives.bound operation (fewer member)
      · rw [history]
        intro other connection chunk member
        apply List.mem_append_left
        rcases List.mem_append.mp member with earlier | new
        · exact receives.received other connection chunk earlier
        · obtain ⟨rfl, rfl, rfl⟩ := Event.received.inj (List.mem_singleton.mp new)
          exact own

/-- A completion is of an operation in flight, or is no recv. -/
theorem receives_complete {system : System} (receives : ReceivesPlaced system) (index : Nat)
    {cqe : Cqe} (posted : cqe.operation ∈ system.inFlight ∨ cqe.operation.token = .accept) :
    ReceivesPlaced (system.complete index cqe) := by
  have same : ∀ operation ∈ operations (system.complete index cqe), ∀ ref,
      operation.token = .recv ref → operation ∈ operations system := by
    intro operation member ref token
    rcases List.mem_append.mp member with flying | done
    · exact List.mem_append_left _ (List.mem_of_mem_eraseIdx flying)
    · simp only [System.complete, List.map_append, List.map_singleton] at done
      rcases List.mem_append.mp done with earlier | new
      · exact List.mem_append_right _ earlier
      · rw [List.mem_singleton.mp new] at token ⊢
        rcases posted with flying | accept
        · exact List.mem_append_left _ flying
        · rw [accept] at token
          cases token
  constructor
  · exact receives.waiting
  · intro operation member ref token
    exact receives.known operation (same operation member ref token) ref token
  · intro operation member ref token alive
    exact receives.bound operation (same operation member ref token) ref token alive
  · exact receives.received

theorem receives_outside {system next : System} {label : Label} (coherent : Coherent system)
    (receives : ReceivesPlaced system) (taken : Outside system label next) :
    ReceivesPlaced next := by
  cases taken with
  | accepts index fd connection found vacant =>
      have completed : ReceivesPlaced (system.complete index
          ⟨⟨.accept, some system.nextConnection⟩, fd, []⟩) :=
        receives_complete receives index (Or.inr rfl)
      constructor
      · exact completed.waiting
      · exact completed.known
      · intro operation member ref token alive
        have opened : system.connections ref.fd ≠ none := by
          apply coherent.opened
          intro gone
          cases gone.symm.trans alive
        have elsewhere : ref.fd ≠ fd := by
          intro same
          rw [same] at opened
          exact opened vacant
        simp only [Function.update_of_ne elsewhere]
        exact completed.bound operation member ref token alive
      · exact completed.received
  | receives index bytes ref connection found =>
      exact receives_complete receives index (Or.inl (List.mem_of_getElem? found))
  | transmits index count ref payload connection found =>
      have completed : ReceivesPlaced (system.complete index
          ⟨⟨.send ref payload, some connection⟩, count, []⟩) :=
        receives_complete receives index (Or.inl (List.mem_of_getElem? found))
      constructor
      · intro other member
        exact accepted_refs_grow (completed.waiting other member) _
      · intro operation member other posted
        exact accepted_refs_grow (completed.known operation member other posted) _
      · exact completed.bound
      · apply received_grows completed.received
        intro other number bytes member
        cases List.mem_singleton.mp member
  | fails index operation result found =>
      exact receives_complete receives index (Or.inl (List.mem_of_getElem? found))
  | polls index connection found =>
      exact receives_complete receives index (Or.inl (List.mem_of_getElem? found))
  | _ => exact ⟨receives.waiting, receives.known, receives.bound, receives.received⟩

theorem receives_start (config : ServerConfig) (poolSize : Nat) :
    ReceivesPlaced (System.start config poolSize) := by
  constructor
  · intro ref member
    simp [System.start] at member
  · exact nothing_new
  · exact nothing_new
  · intro ref connection bytes member
    cases member

/-- What a run keeps if every accept keeps to the condition. -/
structure Sending (system : System) : Prop where
  coherent : Coherent system
  placed : Placed system
  sends : SendsPlaced system

theorem sending_act {system next : System} (sending : Sending system) (act : Act system next) :
    Sending next := by
  have traffic := act_traffic sending.coherent act
  constructor
  · exact coherent_act sending.coherent act
  · exact placed_traffic sending.coherent sending.placed traffic
  · exact sends_traffic sending.placed sending.sends traffic

theorem sending_sent {system next : System} {ref : SessionRef} (sending : Sending system)
    (sent : Sent system ref next) : Sending next := by
  have traffic := sent_traffic sent
  constructor
  · exact coherent_sent sending.coherent sent
  · exact placed_traffic sending.coherent sending.placed traffic
  · exact sends_traffic sending.placed sending.sends traffic

theorem sending_step {source next : System} {label : Label} (sending : Sending source)
    (keepsFd : KeepsFd source label) (taken : source.step label = some next) : Sending next := by
  have coherent := sending.coherent
  rcases step_cases taken with ⟨order, _, server⟩ | outside
  · exact (kept_by_turn (fun _ _ _ before act => sending_act before act)
      (fun _ _ _ _ _ before sent => sending_sent before sent) coherent sending
      (server_step_turn coherent server)).2
  · constructor
    · exact coherent_outside coherent outside
    · exact placed_outside coherent sending.placed outside
    · exact sends_outside sending.sends keepsFd outside

theorem sending_run {config : ServerConfig} {poolSize : Nat} {labels : List Label}
    {system : System} (ran : run System.step (System.start config poolSize) labels = some system)
    (met : EveryStep System.step (fun source label _ => KeepsFd source label)
      (System.start config poolSize) labels) : Sending system := by
  refine guarded_invariant ?_ ?_ met ran
  · exact ⟨coherent_start config poolSize, placed_start config poolSize,
      sends_start config poolSize⟩
  · intro source label next before keepsFd taken
    exact sending_step before keepsFd taken

def Receiving (system : System) : Prop :=
  Registered system ∧ Placed system ∧
    (system.nextSessionGeneration ≤ 2 ^ 64 → ReceivesPlaced system)

theorem receiving_reachable {config : ServerConfig} {poolSize : Nat} {system : System}
    (reached : Reachable System.step (System.start config poolSize) system) :
    Receiving system := by
  refine kept_by_run ?_ ?_ ?_ ?_ reached
  · exact ⟨registered_start config poolSize, placed_start config poolSize,
      fun _ => receives_start config poolSize⟩
  · intro source next coherent before act
    have traffic := act_traffic coherent act
    refine ⟨registered_act before.1 act, placed_traffic coherent before.2.1 traffic, ?_⟩
    intro small
    have earlier := (Requests.counters_grow act).1.trans small
    exact receives_traffic before.1 before.2.1 (before.2.2 earlier) small traffic
  · intro ref source next coherent before sent
    have traffic := sent_traffic sent
    refine ⟨registered_sent before.1 sent, placed_traffic coherent before.2.1 traffic, ?_⟩
    intro small
    have stay := (Requests.counters_of_sent sent).1
    have earlier : source.nextSessionGeneration ≤ 2 ^ 64 := stay ▸ small
    exact receives_traffic before.1 before.2.1 (before.2.2 earlier) small traffic
  · intro source label next coherent before taken
    refine ⟨registered_outside before.1 taken, placed_outside coherent before.2.1 taken, ?_⟩
    intro small
    have stay := (Requests.counters_stay taken).1
    rw [stay] at small
    exact receives_outside coherent (before.2.2 small) taken

/-- A client connects on fd 5, sends a line that is answered by ERR, and leaves
while HELLO is still being sent. -/
def oneLeaves : List Label :=
  [.tick, .accept 0 5, .tick, .tick, .tick, .tick, .tick, .recv 2 (ascii "X\n"), .tick, .tick,
    .tick, .tick, .tick, .tick, .send 1 88, .fail 2 0, .tick, .tick]

def nextElsewhere : List Label :=
  oneLeaves ++ [.accept 1 6, .tick, .tick, .tick, .tick, .tick, .send 2 88]

/-- The next client gets fd 5 before the ERR line has been submitted. -/
def nextOnSameFd : List Label :=
  oneLeaves ++ [.accept 1 5, .tick, .tick, .tick, .tick, .tick, .send 1 23]

end DungeonPortfolio.Isolation
