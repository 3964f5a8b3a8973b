import DungeonPortfolio.Library.Stream
import DungeonPortfolio.Requests

/-!
# The output streams of the sessions

A live session has one send outstanding if its outbox holds something and none
otherwise, the payload is the front of the outbox, and what was queued for the
session is what was reported sent followed by the outbox. Sends of sessions that
are gone are still among the operations; a new session has none, because its
generation is new.
-/

namespace DungeonPortfolio.Streams

open DungeonPortfolio.Text DungeonPortfolio.World DungeonPortfolio.Dispatcher
open DungeonPortfolio.Server DungeonPortfolio.ServerActs DungeonPortfolio.ServerResponses
open DungeonPortfolio.ServerSteps DungeonPortfolio.Sessions DungeonPortfolio.Requests
open Library.Execution Library.Stream

set_option autoImplicit false

/-- The operations from their preparation until the server handles their end. -/
def tokens (system : System) : List CompletionToken :=
  system.prepared ++ (system.inFlight.map Operation.token ++
    system.completed.map fun cqe => cqe.operation.token)

def payloadFor (ref : SessionRef) : CompletionToken → Option Bytes
  | .send other payload => if other = ref then some payload else none
  | .accept | .recv _ | .databaseEvent => none

def payloads (list : List CompletionToken) (ref : SessionRef) : List Bytes :=
  list.filterMap (payloadFor ref)

def sentPart (ref : SessionRef) : Event → Option Bytes
  | .sent other bytes => if other = ref then some bytes else none
  | _ => none

def queuedPart (ref : SessionRef) : Event → Option Bytes
  | .queued other line => if other = ref then some (terminated line.text) else none
  | _ => none

def sentBytes (history : List Event) (ref : SessionRef) : Bytes :=
  (history.filterMap (sentPart ref)).flatten

def queuedBytes (history : List Event) (ref : SessionRef) : Bytes :=
  (history.filterMap (queuedPart ref)).flatten

theorem sent_bytes_append (first second : List Event) (ref : SessionRef) :
    sentBytes (first ++ second) ref = sentBytes first ref ++ sentBytes second ref := by
  simp only [sentBytes, List.filterMap_append, List.flatten_append]

theorem queued_bytes_append (first second : List Event) (ref : SessionRef) :
    queuedBytes (first ++ second) ref = queuedBytes first ref ++ queuedBytes second ref := by
  simp only [queuedBytes, List.filterMap_append, List.flatten_append]

structure Streaming (system : System) : Prop where
  unposted : ∀ ref, ref ∉ acceptedRefs system.history → payloads (tokens system) ref = [] ∧
    sentBytes system.history ref = [] ∧ queuedBytes system.history ref = []
  posted : ∀ ref session, system.live ref = some session →
    (payloads (tokens system) ref).Perm session.outbox.head?.toList
  flagged : ∀ ref session, system.live ref = some session →
    session.writeInFlight = !session.outbox.isEmpty
  within : ∀ cqe ∈ system.completed, ∀ ref payload, cqe.operation.token = .send ref payload →
    cqe.result ≤ payload.length
  faithful : ∀ ref session, system.live ref = some session →
    Faithful (queuedBytes system.history ref) (sentBytes system.history ref) session.outbox

def Mute : Event → Prop
  | .queued _ _ | .sent _ _ => False
  | _ => True

theorem bytes_of_mute {events : List Event} (mute : ∀ event ∈ events, Mute event)
    (ref : SessionRef) : sentBytes events ref = [] ∧ queuedBytes events ref = [] := by
  have noneSent : events.filterMap (sentPart ref) = [] := by
    apply List.filterMap_eq_nil_iff.mpr
    intro event member
    have silent := mute event member
    cases event with
    | sent => cases silent
    | _ => rfl
  have noneQueued : events.filterMap (queuedPart ref) = [] := by
    apply List.filterMap_eq_nil_iff.mpr
    intro event member
    have silent := mute event member
    cases event with
    | queued => cases silent
    | _ => rfl
  simp only [sentBytes, queuedBytes, noneSent, noneQueued, List.flatten_nil, and_self]

/-- The sessions that are live afterwards were live before, with the same stream. -/
def SameStreams (system next : System) : Prop :=
  ∀ ref session, next.live ref = some session → ∃ before, system.live ref = some before ∧
    session.outbox = before.outbox ∧ session.writeInFlight = before.writeInFlight

theorem same_streams_of_sessions {system next : System}
    (sessions : next.sessions = system.sessions) : SameStreams system next := by
  intro ref session alive
  simp only [System.live, sessions] at alive
  exact ⟨session, alive, rfl, rfl⟩

theorem same_streams_of_replace {system next : System} {ref : SessionRef}
    {session changed : Session} (alive : system.live ref = some session)
    (stored : next.sessions = Function.update system.sessions ref.fd (some changed))
    (generation : changed.generation = session.generation)
    (outbox : changed.outbox = session.outbox)
    (flag : changed.writeInFlight = session.writeInFlight) : SameStreams system next := by
  intro other found there
  have same := generation.trans (live_eq_some.mp alive).2
  rcases live_updated stored same there with ⟨rfl, rfl⟩ | ⟨_, before⟩
  · exact ⟨session, alive, outbox, flag⟩
  · exact ⟨found, before, rfl, rfl⟩

theorem live_erased {system : System} {ref other : SessionRef} {cause : CloseCause}
    {session : Session} (alive : (erase system ref cause).live other = some session) :
    other.fd ≠ ref.fd ∧ system.live other = some session := by
  rcases live_eq_some.mp alive with ⟨lookup, generation⟩
  simp only [erase, Function.update_apply] at lookup
  split at lookup
  · cases lookup
  · rename_i elsewhere
    exact ⟨elsewhere, live_eq_some.mpr ⟨lookup, generation⟩⟩

theorem Streaming.frame {system next : System} {events : List Event}
    (streaming : Streaming system) (history : next.history = system.history ++ events)
    (mute : ∀ event ∈ events, Mute event)
    (fewer : ∀ ref, payloads (tokens system) ref = [] → payloads (tokens next) ref = [])
    (posts : ∀ ref, next.live ref ≠ none →
      (payloads (tokens next) ref).Perm (payloads (tokens system) ref))
    (within : ∀ cqe ∈ next.completed, ∀ ref payload, cqe.operation.token = .send ref payload →
      cqe.result ≤ payload.length)
    (streams : SameStreams system next) : Streaming next := by
  have sent : ∀ ref, sentBytes next.history ref = sentBytes system.history ref := by
    intro ref
    rw [history, sent_bytes_append, (bytes_of_mute mute ref).1, List.append_nil]
  have queued : ∀ ref, queuedBytes next.history ref = queuedBytes system.history ref := by
    intro ref
    rw [history, queued_bytes_append, (bytes_of_mute mute ref).2, List.append_nil]
  constructor
  · intro ref fresh
    have before : ref ∉ acceptedRefs system.history := by
      intro member
      apply fresh
      rw [history, accepted_refs_append]
      exact List.mem_append_left _ member
    have nothing := streaming.unposted ref before
    rw [sent, queued]
    exact ⟨fewer ref nothing.1, nothing.2⟩
  · intro ref session alive
    rcases streams ref session alive with ⟨before, was, outbox, _⟩
    have there : next.live ref ≠ none := by
      rw [alive]
      exact Option.some_ne_none session
    rw [outbox]
    exact (posts ref there).trans (streaming.posted ref before was)
  · intro ref session alive
    rcases streams ref session alive with ⟨before, was, outbox, flag⟩
    rw [outbox, flag]
    exact streaming.flagged ref before was
  · exact within
  · intro ref session alive
    rcases streams ref session alive with ⟨before, was, outbox, _⟩
    rw [sent, queued, outbox]
    exact streaming.faithful ref before was

theorem Streaming.moved {system next : System} {events : List Event}
    (streaming : Streaming system) (history : next.history = system.history ++ events)
    (mute : ∀ event ∈ events, Mute event)
    (posts : ∀ ref, (payloads (tokens next) ref).Perm (payloads (tokens system) ref))
    (within : ∀ cqe ∈ next.completed, ∀ ref payload, cqe.operation.token = .send ref payload →
      cqe.result ≤ payload.length)
    (streams : SameStreams system next) : Streaming next := by
  apply streaming.frame history mute _ (fun ref _ => posts ref) within streams
  intro ref nothing
  have same := posts ref
  rw [nothing] at same
  exact same.eq_nil

theorem Streaming.still {system next : System} {events : List Event}
    (streaming : Streaming system) (history : next.history = system.history ++ events)
    (mute : ∀ event ∈ events, Mute event) (same : tokens next = tokens system)
    (completed : next.completed = system.completed) (streams : SameStreams system next) :
    Streaming next := by
  apply streaming.moved history mute _ _ streams
  · intro ref
    rw [same]
  · rw [completed]
    exact streaming.within

theorem payloads_append (first second : List CompletionToken) (ref : SessionRef) :
    payloads (first ++ second) ref = payloads first ref ++ payloads second ref :=
  List.filterMap_append

theorem Streaming.prepared {system next : System} (streaming : Streaming system)
    {token : CompletionToken} (other : ∀ ref, payloadFor ref token = none)
    (history : next.history = system.history)
    (prepared : next.prepared = system.prepared ++ [token])
    (inFlight : next.inFlight = system.inFlight) (completed : next.completed = system.completed)
    (sessions : next.sessions = system.sessions) : Streaming next := by
  apply streaming.moved (history.trans (no_events _)) nothing_new _ _
    (same_streams_of_sessions sessions)
  · intro ref
    have nothing : payloads [token] ref = [] := List.filterMap_cons_none (other ref)
    rw [tokens, prepared, inFlight, completed, tokens, payloads_append, payloads_append, nothing,
      List.append_nil, ← payloads_append]
  · rw [completed]
    exact streaming.within

theorem tokens_pop {system next : System} {cqe : Cqe} {rest : List Cqe}
    (completed : system.completed = cqe :: rest) (prepared : next.prepared = system.prepared)
    (inFlight : next.inFlight = system.inFlight) (popped : next.completed = rest) :
    (tokens system).Perm (cqe.operation.token :: tokens next) := by
  rw [tokens, tokens, completed, prepared, inFlight, popped, List.map_cons]
  have inner : (system.inFlight.map Operation.token ++ cqe.operation.token ::
      rest.map fun cqe => cqe.operation.token).Perm (cqe.operation.token ::
        (system.inFlight.map Operation.token ++ rest.map fun cqe => cqe.operation.token)) :=
    List.perm_middle
  exact (inner.append_left _).trans List.perm_middle

theorem payloads_pop {system : System} {cqe : Cqe} {rest : List Cqe} (next : System)
    (ref : SessionRef)
    (completed : system.completed = cqe :: rest) (prepared : next.prepared = system.prepared)
    (inFlight : next.inFlight = system.inFlight) (popped : next.completed = rest) :
    (payloads (tokens system) ref).Perm
      ((payloadFor ref cqe.operation.token).toList ++ payloads (tokens next) ref) := by
  have moved := (tokens_pop completed prepared inFlight popped).filterMap (payloadFor ref)
  rw [List.filterMap_cons] at moved
  cases posted : payloadFor ref cqe.operation.token with
  | none =>
      rw [posted] at moved
      exact moved
  | some payload =>
      rw [posted] at moved
      exact moved

theorem Streaming.popped {system next : System} {cqe : Cqe} {rest : List Cqe}
    {events : List Event} (streaming : Streaming system)
    (completed : system.completed = cqe :: rest)
    (other : ∀ ref, system.live ref ≠ none → payloadFor ref cqe.operation.token = none)
    (history : next.history = system.history ++ events) (mute : ∀ event ∈ events, Mute event)
    (prepared : next.prepared = system.prepared) (inFlight : next.inFlight = system.inFlight)
    (popped : next.completed = rest) (streams : SameStreams system next) : Streaming next := by
  have moved := fun ref => payloads_pop next ref completed prepared inFlight popped
  apply streaming.frame history mute _ _ _ streams
  · intro ref nothing
    have same := moved ref
    rw [nothing] at same
    exact (List.append_eq_nil_iff.mp same.symm.eq_nil).2
  · intro ref there
    rcases Option.ne_none_iff_exists'.mp there with ⟨session, alive⟩
    rcases streams ref session alive with ⟨before, was, _⟩
    have known : system.live ref ≠ none := by
      rw [was]
      exact Option.some_ne_none before
    have same := moved ref
    rw [other ref known] at same
    exact same.symm
  · intro found member
    apply streaming.within found
    rw [completed]
    rw [popped] at member
    exact List.mem_cons_of_mem cqe member

theorem payloads_send_self (ref : SessionRef) (payload : Bytes) :
    payloads [.send ref payload] ref = [payload] := by
  simp [payloads, payloadFor]

theorem payloads_send_other {ref other : SessionRef} (payload : Bytes) (different : other ≠ ref) :
    payloads [.send other payload] ref = [] := by
  simp [payloads, payloadFor, different]

theorem payloads_prepare {system next : System} {ref : SessionRef} {posts : Bool}
    {payload : Bytes} (other : SessionRef)
    (prepared : next.prepared = system.prepared ++ if posts then [.send ref payload] else [])
    (inFlight : next.inFlight = system.inFlight) (completed : next.completed = system.completed) :
    (payloads (tokens next) other).Perm (payloads (tokens system) other ++
      if posts = true ∧ ref = other then [payload] else []) := by
  rw [tokens, prepared, inFlight, completed, tokens]
  cases posts with
  | false => simp
  | true =>
      simp only [payloads_append, if_true, true_and]
      by_cases self : ref = other
      · rw [self, payloads_send_self, if_pos rfl, List.append_assoc, List.append_assoc]
        exact List.perm_append_comm.append_left _
      · rw [payloads_send_other payload self, if_neg self, List.append_nil, List.append_nil]

theorem sent_bytes_one {ref other : SessionRef} (bytes : Bytes) :
    sentBytes [.sent ref bytes] other = if ref = other then bytes else [] := by
  by_cases self : ref = other
  · simp [sentBytes, sentPart, self]
  · simp [sentBytes, sentPart, self]

theorem queued_bytes_one {ref other : SessionRef} (line : ServerLine) :
    queuedBytes [.queued ref line] other = if ref = other then terminated line.text else [] := by
  by_cases self : ref = other
  · simp [queuedBytes, queuedPart, self]
  · simp [queuedBytes, queuedPart, self]

theorem fresh_before {history events : List Event} {ref : SessionRef}
    (fresh : ref ∉ acceptedRefs (history ++ events)) : ref ∉ acceptedRefs history := by
  intro member
  apply fresh
  rw [accepted_refs_append]
  exact List.mem_append_left _ member

theorem Streaming.pushed {system : System} {ref : SessionRef} {session : Session}
    (streaming : Streaming system) (known : ref ∈ acceptedRefs system.history) (changed : Session)
    (line : ServerLine) (alive : system.live ref = some session)
    (generation : changed.generation = session.generation)
    (outbox : changed.outbox = session.outbox)
    (flag : changed.writeInFlight = session.writeInFlight) :
    Streaming (pushLine system ref changed line) := by
  let next := pushLine system ref changed line
  have history : next.history = system.history ++ [.queued ref line] := push_line_history _ _ _ _
  have stored := push_line_sessions system ref changed line
  have flagged := streaming.flagged ref session alive
  have waiting : (!changed.writeInFlight) = session.outbox.isEmpty := by
    rw [flag, flagged, Bool.not_not]
  have prepared : next.prepared = system.prepared ++ if !changed.writeInFlight then
      [.send ref ((changed.outbox ++ [terminated line.text]).headD [])] else [] := by
    rw [show next.prepared = _ from push_line_prepared system ref changed line]
    cases changed.writeInFlight with
    | false => rfl
    | true => rfl
  have posts := fun other => payloads_prepare other prepared
    (push_line_in_flight _ _ _ _) (push_line_completed _ _ _ _)
  have same := generation.trans (live_eq_some.mp alive).2
  have sent : ∀ other, sentBytes next.history other = sentBytes system.history other := by
    intro other
    have nothing : sentBytes [Event.queued ref line] other = [] := rfl
    rw [history, sent_bytes_append, nothing, List.append_nil]
  have elsewhere : ∀ {other : SessionRef}, other ≠ ref →
      (payloads (tokens next) other).Perm (payloads (tokens system) other) ∧
        queuedBytes next.history other = queuedBytes system.history other := by
    intro other different
    have moved := posts other
    rw [if_neg fun both => different both.2.symm, List.append_nil] at moved
    rw [history, queued_bytes_append, queued_bytes_one, if_neg (Ne.symm different),
      List.append_nil]
    exact ⟨moved, rfl⟩
  constructor
  · intro other fresh
    rw [history] at fresh
    have before := fresh_before fresh
    have different : other ≠ ref := by
      intro self
      rw [self] at before
      exact before known
    have nothing := streaming.unposted other before
    have moved := (elsewhere different).1
    rw [nothing.1] at moved
    rw [sent, (elsewhere different).2]
    exact ⟨moved.eq_nil, nothing.2⟩
  · intro other found there
    rcases live_updated stored same there with ⟨rfl, rfl⟩ | ⟨apart, before⟩
    · have moved := posts other
      have posted := streaming.posted other session alive
      rw [waiting] at moved
      simp only [outbox]
      cases queue : session.outbox with
      | nil =>
          rw [queue] at posted moved
          simp only [outbox, queue] at moved
          have nothing := posted.eq_nil
          rw [nothing] at moved
          exact moved
      | cons front rest =>
          rw [queue] at posted moved
          simp only [List.isEmpty_cons, Bool.false_eq_true, false_and, if_false,
            List.append_nil] at moved
          exact moved.trans posted
    · have different : other ≠ ref := fun self => apart (congrArg SessionRef.fd self)
      exact (elsewhere different).1.trans (streaming.posted other found before)
  · intro other found there
    rcases live_updated stored same there with ⟨rfl, rfl⟩ | ⟨_, before⟩
    · simp
    · exact streaming.flagged other found before
  · rw [show (pushLine system ref changed line).completed = _ from push_line_completed _ _ _ _]
    exact streaming.within
  · intro other found there
    change Faithful (queuedBytes next.history other) (sentBytes next.history other) found.outbox
    rw [sent]
    rcases live_updated stored same there with ⟨rfl, rfl⟩ | ⟨apart, before⟩
    · rw [history, queued_bytes_append, queued_bytes_one, if_pos rfl]
      simp only [outbox]
      exact (streaming.faithful other session alive).push _
    · have different : other ≠ ref := fun self => apart (congrArg SessionRef.fd self)
      rw [(elsewhere different).2]
      exact streaming.faithful other found before

theorem streaming_arrived {system : System} {cqe : Cqe} {rest : List Cqe} {ref : SessionRef}
    (streaming : Streaming system) (fresh : ref ∉ acceptedRefs system.history)
    (completed : system.completed = cqe :: rest) (token : cqe.operation.token = .accept)
    (connection : Option Nat) (position : Position) (count : Nat) :
    Streaming { system with
      completed := rest
      nextSessionGeneration := count
      sessions := Function.update system.sessions ref.fd
        (some ⟨ref.generation, [], [], false, false, 0⟩)
      position := position
      history := system.history ++ [.accepted ref connection] } := by
  let next : System := { system with
    completed := rest
    nextSessionGeneration := count
    sessions := Function.update system.sessions ref.fd
      (some ⟨ref.generation, [], [], false, false, 0⟩)
    position := position
    history := system.history ++ [.accepted ref connection] }
  have nothing := streaming.unposted ref fresh
  have posts : ∀ other, (payloads (tokens system) other).Perm (payloads (tokens next) other) := by
    intro other
    have moved := payloads_pop next other completed rfl rfl rfl
    rw [token] at moved
    exact moved
  have silent : Mute (.accepted ref connection) := trivial
  have sent : ∀ other, sentBytes next.history other = sentBytes system.history other := by
    intro other
    rw [sent_bytes_append, (bytes_of_mute (one_new silent) other).1, List.append_nil]
  have queued : ∀ other, queuedBytes next.history other = queuedBytes system.history other := by
    intro other
    rw [queued_bytes_append, (bytes_of_mute (one_new silent) other).2, List.append_nil]
  have empty : payloads (tokens next) ref = [] := by
    have moved := posts ref
    rw [nothing.1] at moved
    exact moved.symm.eq_nil
  have stored : next.sessions = Function.update system.sessions ref.fd
    (some ⟨ref.generation, [], [], false, false, 0⟩) := rfl
  constructor
  · intro other unknown
    have before := streaming.unposted other (fresh_before unknown)
    have moved := posts other
    rw [before.1] at moved
    rw [sent, queued]
    exact ⟨moved.symm.eq_nil, before.2⟩
  · intro other found there
    rcases live_updated stored rfl there with ⟨rfl, rfl⟩ | ⟨_, before⟩
    · rw [show payloads (tokens _) other = [] from empty]
      exact List.Perm.refl _
    · exact (posts other).symm.trans (streaming.posted other found before)
  · intro other found there
    rcases live_updated stored rfl there with ⟨rfl, rfl⟩ | ⟨_, before⟩
    · rfl
    · exact streaming.flagged other found before
  · intro found member
    apply streaming.within found
    rw [completed]
    exact List.mem_cons_of_mem cqe member
  · intro other found there
    rw [sent, queued]
    rcases live_updated stored rfl there with ⟨rfl, rfl⟩ | ⟨_, before⟩
    · rw [nothing.2.1, nothing.2.2]
      exact faithful_nil
    · exact streaming.faithful other found before

/-- The send that ended carried the front of the outbox and was the only one. -/
theorem payload_is_front {system next : System} {cqe : Cqe} {rest : List Cqe} {ref : SessionRef}
    {session : Session} {payload front : Bytes} {more : List Bytes}
    (streaming : Streaming system) (alive : system.live ref = some session)
    (queue : session.outbox = front :: more) (completed : system.completed = cqe :: rest)
    (token : cqe.operation.token = .send ref payload)
    (prepared : next.prepared = system.prepared) (inFlight : next.inFlight = system.inFlight)
    (popped : next.completed = rest) : payload = front ∧ payloads (tokens next) ref = [] := by
  have posted := streaming.posted ref session alive
  have moved := payloads_pop next ref completed prepared inFlight popped
  have own : payloadFor ref cqe.operation.token = some payload := by
    rw [token]
    exact if_pos rfl
  rw [own, Option.toList_some] at moved
  rw [queue, List.head?_cons, Option.toList_some] at posted
  have single := List.perm_singleton.mp (moved.symm.trans posted)
  have parts := List.cons.inj single
  exact ⟨parts.1, parts.2⟩

theorem streaming_progressed {system : System} {cqe : Cqe} {rest : List Cqe} {ref : SessionRef}
    {session : Session} {payload : Bytes} (streaming : Streaming system)
    (known : ref ∈ acceptedRefs system.history) (alive : system.live ref = some session)
    (nonempty : session.outbox ≠ []) (completed : system.completed = cqe :: rest)
    (token : cqe.operation.token = .send ref payload) :
    Streaming (progress { system with completed := rest } ref session payload
      cqe.result.toNat) := by
  let count := cqe.result.toNat
  let popped : System := { system with completed := rest }
  let next := progress popped ref session payload count
  rcases List.exists_cons_of_ne_nil nonempty with ⟨front, more, queue⟩
  have first : payload = front ∧ payloads (tokens popped) ref = [] :=
    payload_is_front streaming alive queue completed token rfl rfl rfl
  have within : count ≤ front.length := by
    have bound := streaming.within cqe (by rw [completed]; exact List.mem_cons_self) ref payload
      token
    rw [← first.1]
    omega
  have history : next.history = system.history ++ [.sent ref (payload.take count)] :=
    progress_history _ _ _ _ _
  have stored := progress_sessions popped ref session payload count
  have prepared : next.prepared = popped.prepared ++
      if !(advance session.outbox count).isEmpty then
        [.send ref ((advance session.outbox count).headD [])] else [] := by
    rw [show next.prepared = _ from progress_prepared popped ref session payload count]
    cases advance session.outbox count with
    | nil => rfl
    | cons head tail => rfl
  have posts := fun other => payloads_prepare other prepared
    (progress_in_flight _ _ _ _ _) (progress_completed _ _ _ _ _)
  have same := (live_eq_some.mp alive).2
  have queued : ∀ other, queuedBytes next.history other = queuedBytes system.history other := by
    intro other
    have nothing : queuedBytes [Event.sent ref (payload.take count)] other = [] := rfl
    rw [history, queued_bytes_append, nothing, List.append_nil]
  have elsewhere : ∀ {other : SessionRef}, other ≠ ref →
      (payloads (tokens next) other).Perm (payloads (tokens system) other) ∧
        sentBytes next.history other = sentBytes system.history other := by
    intro other different
    have moved := posts other
    rw [if_neg fun both => different both.2.symm, List.append_nil] at moved
    have ended := payloads_pop popped other completed rfl rfl rfl
    have foreign : payloadFor other cqe.operation.token = none := by
      rw [token]
      exact if_neg (Ne.symm different)
    rw [foreign] at ended
    rw [history, sent_bytes_append, sent_bytes_one, if_neg (Ne.symm different), List.append_nil]
    exact ⟨moved.trans ended.symm, rfl⟩
  constructor
  · intro other fresh
    rw [history] at fresh
    have before := fresh_before fresh
    have different : other ≠ ref := by
      intro self
      rw [self] at before
      exact before known
    have nothing := streaming.unposted other before
    have moved := (elsewhere different).1
    rw [nothing.1] at moved
    rw [queued, (elsewhere different).2]
    exact ⟨moved.eq_nil, nothing.2⟩
  · intro other found there
    rcases live_updated stored same there with ⟨rfl, rfl⟩ | ⟨apart, before⟩
    · have moved := posts other
      rw [first.2, List.nil_append] at moved
      simp only
      cases left : advance session.outbox count with
      | nil =>
          rw [left] at moved
          exact moved
      | cons head tail =>
          rw [left] at moved
          simpa using moved
    · have different : other ≠ ref := fun self => apart (congrArg SessionRef.fd self)
      exact (elsewhere different).1.trans (streaming.posted other found before)
  · intro other found there
    rcases live_updated stored same there with ⟨rfl, rfl⟩ | ⟨_, before⟩
    · rfl
    · exact streaming.flagged other found before
  · rw [show (progress { system with completed := rest } ref session payload
      cqe.result.toNat).completed = rest from progress_completed _ _ _ _ _]
    intro found member
    apply streaming.within found
    rw [completed]
    exact List.mem_cons_of_mem cqe member
  · intro other found there
    change Faithful (queuedBytes next.history other) (sentBytes next.history other) found.outbox
    rw [queued]
    rcases live_updated stored same there with ⟨rfl, rfl⟩ | ⟨apart, before⟩
    · have faithful := streaming.faithful other session alive
      rw [queue] at faithful
      rw [history, sent_bytes_append, sent_bytes_one, if_pos rfl, first.1]
      simp only [queue]
      exact faithful.advance within
    · have different : other ≠ ref := fun self => apart (congrArg SessionRef.fd self)
      rw [(elsewhere different).2]
      exact streaming.faithful other found before

theorem tokens_submit (system : System) : (tokens system.submit).Perm (tokens system) := by
  have unbound : (system.prepared.map system.bind).map Operation.token = system.prepared := by
    rw [List.map_map]
    apply List.map_id''
    intro token
    cases token with
    | _ => rfl
  have flat : tokens system.submit = (system.inFlight.map Operation.token ++ system.prepared) ++
      system.completed.map fun cqe => cqe.operation.token := by
    simp only [tokens, System.submit, List.map_append, unbound, List.nil_append]
  rw [flat, tokens, ← List.append_assoc]
  exact List.perm_append_comm.append_right _

theorem streaming_act {system next : System} (registered : Registered system)
    (streaming : Streaming system) (unwrapped : next.nextSessionGeneration ≤ 2 ^ 64)
    (act : Act system next) : Streaming next := by
  cases act with
  | submitted =>
      exact streaming.moved (no_events _) nothing_new
        (fun _ => (tokens_submit system).filterMap _) streaming.within
        (same_streams_of_sessions rfl)
  | waited =>
      exact streaming.still (no_events _) nothing_new rfl rfl (same_streams_of_sessions rfl)
  | drained =>
      exact streaming.still (no_events _) nothing_new rfl rfl (same_streams_of_sessions rfl)
  | dismissed cqe rest ref position completed token stale =>
      refine streaming.popped completed ?_ (no_events _) nothing_new rfl rfl rfl
        (same_streams_of_sessions rfl)
      intro other alive
      rcases token with recv | ⟨payload, send⟩
      · rw [recv]
        rfl
      · rw [send]
        apply if_neg
        intro self
        rw [self] at stale
        exact alive stale
  | refused cqe rest position completed token =>
      refine streaming.popped completed ?_ (no_events _) nothing_new rfl rfl rfl
        (same_streams_of_sessions rfl)
      intro other _
      rw [token]
      rfl
  | arrived cqe rest ref position completed token succeeded fresh =>
      have small : system.nextSessionGeneration + 1 ≤ 2 ^ 64 := unwrapped
      have unknown : ref ∉ acceptedRefs system.history := by
        intro member
        have different := generation_fresh registered (by omega) member
        rw [fresh] at different
        exact different rfl
      exact streaming_arrived streaming unknown completed token _ _ _
  | recvPosted => exact streaming.prepared (fun _ => rfl) rfl rfl rfl rfl rfl
  | acceptPosted => exact streaming.prepared (fun _ => rfl) rfl rfl rfl rfl rfl
  | answered ref session line alive =>
      exact streaming.pushed (registered.known ref (generation_of_live alive)) session line alive
        rfl rfl rfl
  | received cqe rest ref session position completed token alive =>
      refine streaming.popped completed ?_ rfl (one_new trivial) rfl rfl rfl
        (same_streams_of_replace alive rfl rfl rfl rfl)
      intro other _
      rw [token]
      rfl
  | lineTaken ref session line rest position alive =>
      exact streaming.still rfl (one_new trivial) rfl rfl
        (same_streams_of_replace alive rfl rfl rfl rfl)
  | raised ref session line rest exception position alive =>
      exact streaming.still rfl (one_new trivial) rfl rfl
        (same_streams_of_replace alive rfl rfl rfl rfl)
  | framed =>
      exact streaming.still (no_events _) nothing_new rfl rfl (same_streams_of_sessions rfl)
  | worldCalled =>
      exact streaming.still (no_events _) nothing_new rfl rfl (same_streams_of_sessions rfl)
  | saved => exact streaming.still rfl (one_new trivial) rfl rfl (same_streams_of_sessions rfl)
  | requested ref session operation commandName args alive =>
      have pushed := streaming.pushed (registered.known ref (generation_of_live alive))
        { session with pendingDb := session.pendingDb + 1 }
        (.pending (counterValue system.nextRequestId) commandName) alive rfl rfl rfl
      exact pushed.still rfl (one_new trivial) rfl rfl (same_streams_of_sessions rfl)
  | closing ref session position alive =>
      exact streaming.still (no_events _) nothing_new rfl rfl
        (same_streams_of_replace alive rfl rfl rfl rfl)
  | parked =>
      exact streaming.still (no_events _) nothing_new rfl rfl (same_streams_of_sessions rfl)
  | recvReposted => exact streaming.prepared (fun _ => rfl) rfl rfl rfl rfl rfl
  | erased ref session cause =>
      refine streaming.still rfl (one_new trivial) rfl rfl ?_
      intro other found there
      exact ⟨found, (live_erased there).2, rfl, rfl⟩
  | awoken cqe rest position completed token =>
      refine streaming.popped completed ?_ (no_events _) nothing_new rfl rfl rfl
        (same_streams_of_sessions rfl)
      intro other _
      rw [token]
      rfl
  | skipped => exact streaming.still rfl (one_new trivial) rfl rfl (same_streams_of_sessions rfl)
  | completed completion rest session position completions notify alive =>
      have popped : Streaming (popCompletion system completion rest) :=
        streaming.still rfl (one_new trivial) rfl rfl (same_streams_of_sessions rfl)
      have found : (popCompletion system completion rest).live completion.client = some session :=
        alive
      have known := registered.known completion.client (generation_of_live alive)
      have grown : completion.client ∈ acceptedRefs (popCompletion system completion rest).history := by
        rw [popCompletion, accepted_refs_append]
        exact List.mem_append_left _ known
      exact popped.pushed grown { session with pendingDb := session.pendingDb - 1 } _ found rfl rfl
        rfl
  | pollPosted => exact streaming.prepared (fun _ => rfl) rfl rfl rfl rfl rfl

theorem streaming_sent {system next : System} {ref : SessionRef} (registered : Registered system)
    (streaming : Streaming system) (sent : Sent system ref next) : Streaming next := by
  cases sent with
  | progressed cqe rest _ session payload position completed token alive queued =>
      exact streaming_progressed streaming (registered.known ref (generation_of_live alive)) alive
        queued completed token

theorem tokens_complete {system : System} {index : Nat} {operation : Operation} {cqe : Cqe}
    (found : system.inFlight[index]? = some operation)
    (same : cqe.operation.token = operation.token) :
    (tokens (system.complete index cqe)).Perm (tokens system) := by
  rcases List.getElem?_eq_some_iff.mp found with ⟨bound, here⟩
  have taken : (system.inFlight.map Operation.token).Perm
      (operation.token :: (system.inFlight.eraseIdx index).map Operation.token) := by
    rw [← List.map_cons, ← here]
    exact ((List.getElem_cons_eraseIdx_perm bound).symm).map _
  have flat : tokens (system.complete index cqe) = system.prepared ++
      ((system.inFlight.eraseIdx index).map Operation.token ++
        ((system.completed.map fun cqe => cqe.operation.token) ++ [operation.token])) := by
    simp only [tokens, System.complete, List.map_append, List.map_singleton, same]
  rw [flat, tokens]
  apply List.Perm.append_left
  rw [← List.append_assoc]
  refine (List.perm_append_singleton _ _).trans ?_
  rw [← List.cons_append]
  exact taken.symm.append_right _

theorem streaming_complete {system : System} (streaming : Streaming system) {index : Nat}
    {operation : Operation} {cqe : Cqe} (found : system.inFlight[index]? = some operation)
    (same : cqe.operation.token = operation.token)
    (within : ∀ ref payload, operation.token = .send ref payload →
      cqe.result ≤ payload.length) : Streaming (system.complete index cqe) := by
  refine streaming.moved (no_events _) nothing_new
    (fun _ => (tokens_complete found same).filterMap _) ?_ (same_streams_of_sessions rfl)
  · intro other member ref payload token
    rcases List.mem_append.mp member with earlier | new
    · exact streaming.within other earlier ref payload token
    · rw [List.mem_singleton.mp new] at token ⊢
      exact within ref payload (same.symm.trans token)

theorem streaming_outside {system next : System} {label : Label} (streaming : Streaming system)
    (taken : Outside system label next) : Streaming next := by
  cases taken with
  | accepts index fd connection found =>
      have completed : Streaming (system.complete index
          ⟨⟨.accept, some system.nextConnection⟩, fd, []⟩) :=
        streaming_complete streaming found rfl (fun _ _ token => by cases token)
      exact completed.still (no_events _) nothing_new rfl rfl (same_streams_of_sessions rfl)
  | receives index bytes ref connection found =>
      exact streaming_complete streaming found rfl (fun _ _ token => by cases token)
  | transmits index count ref payload connection found positive bound =>
      have completed : Streaming (system.complete index
          ⟨⟨.send ref payload, some connection⟩, count, []⟩) := by
        apply streaming_complete streaming found rfl
        intro other bytes token
        obtain ⟨rfl, rfl⟩ := CompletionToken.send.inj token
        exact Int.ofNat_le.mpr bound
      exact completed.still rfl (one_new trivial) rfl rfl (same_streams_of_sessions rfl)
  | fails index operation result found negative notPositive =>
      apply streaming_complete streaming found rfl
      intro other bytes token
      exact notPositive.trans (Int.natCast_nonneg _)
  | polls index connection found =>
      exact streaming_complete streaming found rfl (fun _ _ token => by cases token)
  | _ => exact streaming.still (no_events _) nothing_new rfl rfl (same_streams_of_sessions rfl)

theorem streaming_start (config : ServerConfig) (poolSize : Nat) :
    Streaming (System.start config poolSize) := by
  constructor
  · intro ref _
    exact ⟨rfl, rfl, rfl⟩
  · intro ref session alive
    cases alive
  · intro ref session alive
    cases alive
  · exact nothing_new
  · intro ref session alive
    cases alive

/-- What a run keeps without a bound on the generations. -/
def Streamed (system : System) : Prop :=
  Registered system ∧ (system.nextSessionGeneration ≤ 2 ^ 64 → Streaming system)

theorem streamed_start (config : ServerConfig) (poolSize : Nat) :
    Streamed (System.start config poolSize) :=
  ⟨registered_start config poolSize, fun _ => streaming_start config poolSize⟩

theorem streamed_act {system next : System} (streamed : Streamed system)
    (act : Act system next) : Streamed next := by
  refine ⟨registered_act streamed.1 act, fun small => ?_⟩
  have earlier := (counters_grow act).1.trans small
  exact streaming_act streamed.1 (streamed.2 earlier) small act

theorem streamed_sent {system next : System} {ref : SessionRef} (streamed : Streamed system)
    (sent : Sent system ref next) : Streamed next := by
  refine ⟨registered_sent streamed.1 sent, fun small => ?_⟩
  rw [(counters_of_sent sent).1] at small
  exact streaming_sent streamed.1 (streamed.2 small) sent

theorem streaming_reachable {config : ServerConfig} {poolSize : Nat} {system : System}
    (reached : Reachable System.step (System.start config poolSize) system)
    (unwrapped : system.nextSessionGeneration ≤ 2 ^ 64) : Streaming system := by
  have kept : Streamed system := by
    refine kept_by_run (streamed_start config poolSize)
      (fun _ _ _ before act => streamed_act before act)
      (fun _ _ _ _ before sent => streamed_sent before sent) ?_ reached
    intro source label next _ before taken
    refine ⟨registered_outside before.1 taken, fun small => ?_⟩
    rw [(counters_stay taken).1] at small
    exact streaming_outside (before.2 small) taken
  exact kept.2 unwrapped

/-- What was reported sent followed by the outbox is what was queued, each line
with its newline. -/
theorem stream_is_faithful {config : ServerConfig} {poolSize : Nat} {system : System}
    (reached : Reachable System.step (System.start config poolSize) system)
    (unwrapped : system.nextSessionGeneration ≤ 2 ^ 64) {ref : SessionRef} {session : Session}
    (alive : system.live ref = some session) :
    sentBytes system.history ref ++ session.outbox.flatten = queuedBytes system.history ref := by
  have streaming := streaming_reachable reached unwrapped
  have faithful := streaming.faithful ref session alive
  exact faithful.symm

/-- The HELLO line goes out in two pieces, an answer is queued between them. -/
def sentInPieces : List Label :=
  [.tick, .accept 0 5, .tick, .tick, .tick, .tick, .tick, .recv 2 (ascii "HOP\n"), .tick, .tick,
    .tick, .tick, .tick, .send 1 10, .tick, .tick, .tick, .tick, .send 3 20, .tick]

theorem stream_is_faithful_in_pieces :
    ∃ system session, run System.step (System.start .default 1) sentInPieces = some system ∧
      system.live ⟨5, 1⟩ = some session ∧
      (sentBytes system.history ⟨5, 1⟩).length = 30 ∧ session.outbox.length = 2 ∧
      sentBytes system.history ⟨5, 1⟩ ++ session.outbox.flatten =
        queuedBytes system.history ⟨5, 1⟩ := by
  have ends : (run System.step (System.start .default 1) sentInPieces).any (fun system =>
      decide (system.nextSessionGeneration = 2) &&
      (system.live ⟨5, 1⟩).any fun session =>
        decide ((sentBytes system.history ⟨5, 1⟩).length = 30) &&
        decide (session.outbox.length = 2)) = true := by
    decide
  rcases (Option.any_eq_true _ _).mp ends with ⟨system, ran, facts⟩
  rw [Bool.and_eq_true, decide_eq_true_eq] at facts
  rcases (Option.any_eq_true _ _).mp facts.2 with ⟨session, alive, lengths⟩
  simp only [Bool.and_eq_true, decide_eq_true_eq] at lengths
  refine ⟨system, session, ran, alive, lengths.1, lengths.2, ?_⟩
  apply stream_is_faithful ⟨sentInPieces, ran⟩ _ alive
  rw [facts.1]
  decide

end DungeonPortfolio.Streams
