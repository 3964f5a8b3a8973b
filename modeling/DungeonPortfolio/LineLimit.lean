import DungeonPortfolio.LineFraming
import DungeonPortfolio.PositionSaves

/-!
# The limit on the length of a line

The length is looked at when all lines are off the input, so it is the length of
what is left and not of a line. A line that is over the limit is refused as long
as its newline comes in a later chunk than the byte that takes it over.
-/

namespace DungeonPortfolio.LineLimit

open DungeonPortfolio.Text DungeonPortfolio.World DungeonPortfolio.Dispatcher
open DungeonPortfolio.Server DungeonPortfolio.ServerActs DungeonPortfolio.ServerResponses
open DungeonPortfolio.ServerSteps DungeonPortfolio.Sessions DungeonPortfolio.Requests
open DungeonPortfolio.GracefulClose DungeonPortfolio.NoStall DungeonPortfolio.LineFraming
open DungeonPortfolio.PositionSaves (Deed Ends Yields isMark upcoming server_step_deed)
open Library.Execution Library.Framing

set_option autoImplicit false

/-- One of the lines of the stream is too long, the last one with or without its
newline. What follows a QUIT is no line. -/
def SendsLonger (limit : Nat) (stream : Bytes) : Prop :=
  ∃ line ∈ upTo isQuit (stream.splitOn newline), limit < line.length

instance (limit : Nat) (stream : Bytes) : Decidable (SendsLonger limit stream) :=
  inferInstanceAs (Decidable (∃ line ∈ _, _))

def tooLong : ServerLine := .err (ascii "line too long")

/-- The session has been told and is closed, or will be when all is sent. -/
structure Refused (system : System) (ref : SessionRef) : Prop where
  answered : .queued ref tooLong ∈ system.history
  closing : ∀ session, system.live ref = some session →
    session.closeAfterFlush = true ∧ session.outbox ≠ []

def handling : Position → Option SessionRef
  | .framing ref | .framed ref => some ref
  | _ => none

/-- The input of a session and the chunk that is about to be appended to it. -/
def incoming (system : System) : Option (Bytes × Bytes) :=
  match system.position, system.completed with
  | .draining, cqe :: _ =>
      match cqe.operation.token with
      | .recv ref =>
          (system.live ref).bind fun session =>
            if cqe.result ≤ 0 then none
            else some (session.input, cqe.buffer.take cqe.result.toNat)
      | _ => none
  | _, _ => none

/-- The chunk brings no newline of a line that is too long. -/
def KeepsLimit (system : System) : Label → Prop
  | .server _ => ∀ arrival ∈ incoming system,
      ∀ line ∈ upTo isQuit (pieces newline (arrival.1 ++ arrival.2)),
        line.length ≤ system.config.maxLineSize
  | _ => True

instance (system : System) (label : Label) : Decidable (KeepsLimit system label) :=
  match label with
  | .server _ => inferInstanceAs (Decidable (∀ arrival ∈ incoming system,
      ∀ line ∈ upTo isQuit (pieces newline (arrival.1 ++ arrival.2)),
        line.length ≤ system.config.maxLineSize))
  | .accept _ _ | .recv _ _ | .send _ _ | .fail _ _ | .poll _ | .take | .finish _ _ _ | .signal =>
      isTrue trivial

theorem config_reachable {config : ServerConfig} {poolSize : Nat} {system : System}
    (reached : Reachable System.step (System.start config poolSize) system) :
    system.config = config := by
  refine @kept_by_run (fun state => state.config = config) config poolSize rfl ?_ ?_ ?_ system reached
  · intro source next _ before act
    cases act with
    | answered | requested | completed =>
        simpa [System.submitJob, popCompletion] using before
    | _ => exact before
  · intro ref source next _ before sent
    cases sent with
    | progressed => simpa using before
  · intro source label next _ before outside
    cases outside with
    | _ => exact before

theorem lines_of_deed {source target : System} (deed : Deed source target) :
    (∀ ref, lines target.history ref = lines source.history ref) ∨
    ∃ ref line, upcoming source = some (ref, line) ∧
      ∀ other, lines target.history other =
        lines source.history other ++ if ref = other then [line] else [] := by
  have handled : ∀ {events marks : List Event}, events.filter isMark = marks → ∀ other,
      lines events other = lines marks other := by
    intro events marks filtered other
    rw [← filtered, lines, lines, List.filterMap_filter]
    apply List.filterMap_congr
    intro event _
    cases event <;> rfl
  cases deed with
  | ends nothing ends =>
      left
      intro ref
      cases ends with
      | calm yields =>
          rcases yields.history with ⟨events, history, marks, _⟩
          rw [history, lines_append, handled marks]
          exact List.append_nil _
      | closes closed cause jobs world yields follows =>
          rcases yields.history with ⟨events, history, marks, _⟩
          rw [history, lines_append, handled marks]
          exact List.append_nil _
  | handles ref line jobs world next yields follows =>
      right
      refine ⟨ref, line, next, ?_⟩
      intro other
      rcases yields.history with ⟨events, history, marks, _⟩
      rw [history, lines_append, handled marks, lines_one]

theorem upcoming_cut {system : System} {ref : SessionRef} {line : Bytes}
    (next : upcoming system = some (ref, line)) :
    system.position = .framing ref ∧ ∃ session rest, system.sessions ref.fd = some session ∧
      System.cutLine session.input = some (line, rest) := by
  unfold upcoming at next
  split at next
  · rename_i reading position
    split at next
    · rename_i session found
      rcases Option.map_eq_some_iff.mp next with ⟨⟨taken, rest⟩, cut, same⟩
      rcases Prod.mk.inj same with ⟨rfl, rfl⟩
      exact ⟨position, session, rest, found, cut⟩
    · cases next
  · cases next

theorem received_is_loud {source target : System} {ref : SessionRef} {connection : Option Nat}
    {bytes : Bytes} (history : target.history = source.history ++ [.received ref connection bytes]) :
    ¬Silence source target := by
  rintro ⟨events, same, silent⟩
  rw [history] at same
  rw [← List.append_cancel_left same] at silent
  cases silent

theorem handle_cqe_received {system : System} {order : SectorWorld.CallOrder} {cqe : Cqe}
    {ref : SessionRef} {connection : Option Nat} {bytes : Bytes}
    (history : (system.handleCqe order cqe).history =
      system.history ++ [.received ref connection bytes]) :
    cqe.operation.token = .recv ref ∧ system.live ref ≠ none ∧ ¬cqe.result ≤ 0 ∧
      bytes = cqe.buffer.take cqe.result.toNat := by
  have loud := received_is_loud history
  unfold System.handleCqe at loud history
  cases token : cqe.operation.token with
  | accept =>
      rw [token] at loud history
      simp only [System.handleAccept] at loud history
      by_cases succeeded : 0 ≤ cqe.result
      · rw [if_pos succeeded] at history
        have said := (quiet_queue_response { system with
          nextSessionGeneration := system.nextSessionGeneration + 1
          sessions := Function.update system.sessions cqe.result
            (some ((system.sessions cqe.result).getD
              ⟨counterValue system.nextSessionGeneration, [], [], false, false, 0⟩))
          position := .opened ⟨cqe.result, counterValue system.nextSessionGeneration⟩
          history := system.history ++
            [.accepted ⟨cqe.result, counterValue system.nextSessionGeneration⟩
              cqe.operation.connection] }
          ⟨cqe.result, counterValue system.nextSessionGeneration⟩ .hello).silence
        rcases said with ⟨events, same, _⟩
        have both := same.symm.trans history
        rw [List.append_assoc] at both
        cases List.append_cancel_left both
      · rw [if_neg succeeded] at loud
        exact absurd (silence_of_same rfl) loud
  | recv other =>
      rw [token] at loud history
      simp only [System.handleRecv] at loud history
      cases alive : system.live other with
      | none =>
          rw [alive] at loud
          exact absurd (silence_of_same rfl) loud
      | some session =>
          rw [alive] at loud history
          simp only at loud history
          by_cases ended : cqe.result ≤ 0
          · rw [if_pos ended] at loud
            exact absurd (close_session_fades _ order .endOfStream other.fd).silence loud
          · rw [if_neg ended] at history
            injection List.append_cancel_left history with first
            injection first with sameRef _ sameBytes
            subst sameRef
            refine ⟨rfl, ?_, ended, sameBytes.symm⟩
            rw [alive]
            exact Option.some_ne_none session
  | send other payload =>
      rw [token] at loud
      exact absurd (handle_send_fades _ order other payload cqe).silence loud
  | databaseEvent =>
      rw [token] at loud
      exact absurd (silence_of_same rfl) loud

theorem incoming_of_received {source target : System} {order : SectorWorld.CallOrder}
    {ref : SessionRef} {connection : Option Nat} {bytes : Bytes} {session : Session}
    (position : source.position = .draining) (alive : source.live ref = some session)
    (taken : source.serverStep order = some target)
    (history : target.history = source.history ++ [.received ref connection bytes]) :
    incoming source = some (session.input, bytes) := by
  cases completed : source.completed with
  | nil =>
      have idled : Silence source target := by
        simp only [System.serverStep, position, completed] at taken
        rw [← Option.some.inj taken]
        exact silence_of_same rfl
      exact absurd idled (received_is_loud history)
  | cons cqe rest =>
      rw [server_step_cqe order position completed] at taken
      obtain rfl := Option.some.inj taken
      have start : (setCompleted source rest).history = source.history := rfl
      rw [← start] at history
      rcases handle_cqe_received history with ⟨token, _, going, rfl⟩
      simp only [incoming, position, completed, token, alive, Option.bind_some, if_neg going]

/-- Once the lines are off the input, a line that is too long is what is left. -/
theorem longer_is_left {system : System} {ref : SessionRef} {limit : Nat} (framed : Framed system)
    (between : reader system.position ≠ some ref)
    (short : ∀ line ∈ lines system.history ref, line.length ≤ limit)
    (sends : SendsLonger limit (received system.history ref)) :
    (lines system.history ref).any isQuit = false ∧ ∃ rest, limit < rest.length ∧
      Reading newline isQuit (received system.history ref) (lines system.history ref) rest := by
  rcases framed.settled ref between with ⟨rest, reading, done⟩
  rcases sends with ⟨line, among, long⟩
  rw [reading.split, split_joined reading.clean] at among
  cases quit : (lines system.history ref).any isQuit with
  | true =>
      rw [up_to_stopped reading.goes quit] at among
      have fits := short line among
      omega
  | false =>
      refine ⟨rfl, rest, ?_, reading⟩
      have goes : ∀ piece ∈ lines system.history ref, isQuit piece = false := by
        intro piece member
        exact Bool.eq_false_iff.mpr (List.any_eq_false.mp quit piece member)
      have exhausted : newline ∉ rest := by
        rcases done with contrary | exhausted
        · rw [quit] at contrary
          cases contrary
        · exact exhausted
      rw [up_to_append goes, List.splitOn_eq_singleton exhausted] at among
      rcases List.mem_append.mp among with handled | last
      · have fits := short line handled
        omega
      · have same : line = rest := by
          simp only [upTo, ite_self, List.mem_singleton] at last
          exact last
        rw [← same]
        exact long

/-- The session has been told, and it is closing if it is still there. -/
structure Told (system : System) (ref : SessionRef) : Prop where
  answered : .queued ref tooLong ∈ system.history
  closing : ∀ session, system.live ref = some session → session.closeAfterFlush = true

theorem Told.fades {system next : System} {ref : SessionRef} (told : Told system ref)
    (fades : Fades system next) : Told next ref := by
  constructor
  · rcases fades.silence with ⟨events, history, _⟩
    rw [history]
    exact List.mem_append_left events told.answered
  · intro session alive
    rcases fades.briefs ref.fd _ (brief_of_live alive) with ⟨was, there, generation, _, marked⟩
    rcases live_of_brief there (generation.symm.trans (live_eq_some.mp alive).2) with
      ⟨before, lived, rfl⟩
    exact marked (told.closing before lived)

theorem Told.elsewhere {system next : System} {ref other : SessionRef} {changed : Brief}
    {events : List Event} (told : Told system ref) (different : ref ≠ other)
    (stored : briefs next = Function.update (briefs system) other.fd (some changed))
    (generation : changed.generation = other.generation)
    (history : next.history = system.history ++ events) : Told next ref := by
  constructor
  · rw [history]
    exact List.mem_append_left events told.answered
  · intro session alive
    rcases live_replaced stored generation alive with ⟨same, _⟩ | ⟨_, before, lived, same⟩
    · exact absurd same different
    · have closing : before.closeAfterFlush = session.closeAfterFlush :=
        congrArg Brief.closing same
      rw [← closing]
      exact told.closing before lived

theorem finish_recv_tells {system : System} {ref : SessionRef} {session : Session}
    (order : SectorWorld.CallOrder) (alive : system.live ref = some session)
    (long : system.config.maxLineSize < session.input.length) :
    Told (system.finishRecv order ref) ref := by
  let said := system.queueResponse ref tooLong
  have quiet := quiet_queue_response system ref tooLong
  have still : briefs said ref.fd = some (brief session) := by
    rw [quiet.briefs]
    exact brief_of_live alive
  rcases live_of_brief still (live_eq_some.mp alive).2 with ⟨found, lived, same⟩
  have stored := (live_eq_some.mp lived).1
  let checked := said.setCloseAfterFlush ref.fd
  have marks : checked = said.setSession ref.fd (some { found with closeAfterFlush := true }) := by
    simp only [checked, System.setCloseAfterFlush, stored]
  have here : checked.sessions ref.fd = some { found with closeAfterFlush := true } := by
    rw [marks]
    exact Function.update_self _ _ _
  have told : Told { checked with position := .draining } ref := by
    constructor
    · have history : checked.history = system.history ++ [.queued ref tooLong] := by
        rw [marks]
        exact queue_response_history tooLong (generation_of_live alive)
      change Event.queued ref tooLong ∈ checked.history
      rw [history]
      exact List.mem_append_right _ List.mem_cons_self
    · intro later there
      have entry : checked.sessions ref.fd = some later := (live_eq_some.mp there).1
      rw [here] at entry
      rw [← Option.some.inj entry]
  have finished : system.finishRecv order ref =
      { checked with position := .draining }.maybeCloseAfterFlush order ref.fd := by
    have opened : ((system.queueResponse ref (.err (ascii "line too long"))).setCloseAfterFlush
        ref.fd).sessions ref.fd = some { found with closeAfterFlush := true } := here
    simp only [System.finishRecv, alive, if_pos long, opened, if_true]
    rfl
  rw [finished]
  exact told.fades (maybe_close_fades _ order ref.fd)

/-- The lines that are about to be taken fit and so do those that have been, and
who has sent a longer one has been told. -/
structure Limited (config : ServerConfig) (poolSize : Nat) (system : System) : Prop where
  reached : Reachable System.step (System.start config poolSize) system
  waiting : ∀ ref session, system.position = .framing ref → system.live ref = some session →
    ∀ line ∈ upTo isQuit (pieces newline session.input), line.length ≤ config.maxLineSize
  handled : ∀ ref, ∀ line ∈ lines system.history ref, line.length ≤ config.maxLineSize
  told : system.nextSessionGeneration ≤ 2 ^ 64 → Running system → ∀ ref,
    handling system.position ≠ some ref →
      SendsLonger config.maxLineSize (received system.history ref) → Told system ref

theorem pieces_of_cut {input line rest : Bytes} (cut : System.cutLine input = some (line, rest)) :
    upTo isQuit (pieces newline input) =
      if isQuit line then [line] else line :: upTo isQuit (pieces newline rest) := by
  rcases cut_line_some cut with ⟨whole, clean⟩
  have split : input = joined newline [line] ++ rest := by
    simp [joined, whole]
  have alone : ∀ piece ∈ [line], newline ∉ piece := by
    intro piece member
    rw [List.mem_singleton.mp member]
    exact clean
  rw [split, pieces_joined alone, List.singleton_append, upTo]

theorem reader_iff_framing {position : Position} {ref : SessionRef} :
    reader position = some ref ↔ position = .framing ref := by
  constructor
  · intro reading
    cases position with
    | framing other =>
        obtain rfl := Option.some.inj reading
        rfl
    | _ => cases reading
  · rintro rfl
    rfl

/-- What waits to be taken comes from one chunk that keeps the limit. -/
theorem waiting_step {config : ServerConfig} {poolSize : Nat} {source target : System}
    {order : SectorWorld.CallOrder} (limited : Limited config poolSize source)
    (keeps : KeepsLimit source (.server order)) (taken : source.serverStep order = some target) :
    ∀ ref session, target.position = .framing ref → target.live ref = some session →
      ∀ line ∈ upTo isQuit (pieces newline session.input),
        line.length ≤ config.maxLineSize := by
  have coherent := coherent_reachable limited.reached
  intro ref session framing alive
  have reading := reader_iff_framing.mpr framing
  cases server_step_reads coherent taken with
  | fades _ _ after | opens _ _ _ _ _ after | stops _ _ _ _ _ _ _ after =>
      rw [reading] at after
      cases after
  | raises exception raised =>
      rw [framing] at raised
      cases raised
  | receives other connection bytes before position lived _ stored history after =>
      rw [reading] at after
      obtain rfl := Option.some.inj after
      rcases live_replaced stored (live_eq_some.mp lived).2 alive with ⟨_, same⟩ | ⟨different, _⟩
      · have input : session.input = before.input ++ bytes := congrArg Brief.input same
        have arrival := incoming_of_received position lived taken history
        rw [input, ← config_reachable limited.reached]
        exact keeps _ arrival
      · exact absurd rfl different
  | takes other line rest before was lived cut stored history after =>
      rw [reading] at after
      split at after
      · cases after
      · rename_i goes
        obtain rfl := Option.some.inj after
        rcases live_replaced stored (live_eq_some.mp lived).2 alive with
          ⟨_, same⟩ | ⟨different, _⟩
        · have input : session.input = rest := congrArg Brief.input same
          have running : ¬isQuit line = true := by
            intro quit
            rw [quit, Bool.or_true] at goes
            exact goes rfl
          have fits := limited.waiting ref before (reader_iff_framing.mp was) lived
          rw [pieces_of_cut cut, if_neg running] at fits
          rw [input]
          exact fun piece member => fits piece (List.mem_cons_of_mem line member)
        · exact absurd rfl different

theorem handled_step {config : ServerConfig} {poolSize : Nat} {source target : System}
    {order : SectorWorld.CallOrder} (limited : Limited config poolSize source)
    (taken : source.serverStep order = some target) :
    ∀ ref, ∀ line ∈ lines target.history ref, line.length ≤ config.maxLineSize := by
  have coherent := coherent_reachable limited.reached
  intro ref line member
  rcases lines_of_deed (server_step_deed coherent.named taken) with same | ⟨other, next, up, more⟩
  · rw [same] at member
    exact limited.handled ref line member
  · rw [more] at member
    rcases List.mem_append.mp member with earlier | last
    · exact limited.handled ref line earlier
    · rcases upcoming_cut up with ⟨framing, session, rest, found, cut⟩
      have busy : busyWith source.position = some other := by
        rw [framing]
        rfl
      rcases live_of_generation (coherent.busy other busy) with ⟨lived, alive⟩
      obtain rfl := Option.some.inj (found.symm.trans (live_eq_some.mp alive).1)
      have fits := limited.waiting other session framing alive next
      have same : line = next := by
        split at last
        · exact List.mem_singleton.mp last
        · cases last
      rw [same]
      apply fits
      rw [pieces_of_cut cut]
      split
      · exact List.mem_singleton_self next
      · exact List.mem_cons_self

theorem handling_of_reader {position : Position} {ref : SessionRef}
    (elsewhere : ∀ other, position ≠ .framed other) :
    handling position = some ref ↔ reader position = some ref := by
  cases position with
  | framed other => exact absurd rfl (elsewhere other)
  | _ => exact Iff.rfl

theorem received_silent {source target : System} (silence : Silence source target)
    (ref : SessionRef) : received target.history ref = received source.history ref := by
  rcases silence with ⟨events, history, silent⟩
  rw [history, received_append, (silent_projections silent ref).1, List.append_nil]

theorem told_at_end {config : ServerConfig} {poolSize : Nat} {source : System} {ref : SessionRef}
    (limited : Limited config poolSize source) (framed : Framed source)
    (order : SectorWorld.CallOrder) (position : source.position = .framed ref)
    (sends : SendsLonger config.maxLineSize (received source.history ref)) :
    Told (source.finishRecv order ref) ref := by
  have coherent := coherent_reachable limited.reached
  have busy : busyWith source.position = some ref := by
    rw [position]
    rfl
  have between : reader source.position ≠ some ref := by
    rw [position]
    exact (Option.some_ne_none ref).symm
  rcases live_of_generation (coherent.busy ref busy) with ⟨session, alive⟩
  rcases longer_is_left framed between (limited.handled ref) sends with ⟨_, rest, long, reading⟩
  have own := (framed.alive ref session alive).1
  have same : session.input = rest := List.append_cancel_left (own.split.symm.trans reading.split)
  apply finish_recv_tells order alive
  rw [same, config_reachable limited.reached]
  exact long

theorem told_step {config : ServerConfig} {poolSize : Nat} {source target : System}
    {order : SectorWorld.CallOrder} (limited : Limited config poolSize source)
    (taken : source.serverStep order = some target) (unwrapped : target.nextSessionGeneration ≤ 2 ^ 64)
    (running : Running target) :
    ∀ ref, handling target.position ≠ some ref →
      SendsLonger config.maxLineSize (received target.history ref) → Told target ref := by
  have coherent := coherent_reachable limited.reached
  have step : source.step (.server order) = some target := (step_server source order).trans taken
  have small := (grown_step coherent step).1.trans unwrapped
  have goes := running_of_step step
  have framed := framed_reachable limited.reached small goes
  have later := limited.reached.next step
  intro ref between sends
  have before := limited.told small goes ref
  cases position : source.position with
  | framed other =>
      have finished : target = source.finishRecv order other := by
        simp only [System.serverStep, position] at taken
        exact (Option.some.inj taken).symm
      have fades := finish_recv_fades source order other
      rw [← finished] at fades
      rw [received_silent fades.silence] at sends
      by_cases self : other = ref
      · subst self
        rw [finished]
        exact told_at_end limited framed order position sends
      · refine (before ?_ sends).fades fades
        rw [position]
        exact fun same => self (Option.some.inj same)
  | _ =>
      have elsewhere : ∀ other, source.position ≠ .framed other := by
        intro other
        rw [position]
        intro same
        cases same
      have idle := @handling_of_reader _ ref elsewhere
      cases server_step_reads coherent taken with
      | fades fades quiet after =>
          rw [received_silent fades.silence] at sends
          refine (before ?_ sends).fades fades
          rw [Ne, idle, quiet]
          intro same
          cases same
      | opens other connection stored history quiet after =>
          rcases history with ⟨events, history, silent⟩
          have fresh := accepted_is_fresh (registered_reachable later) unwrapped history
          have same : received target.history ref = received source.history ref := by
            have nothing : received (.accepted other connection :: events) ref =
              received events ref := rfl
            rw [history, received_append, nothing, (silent_projections silent ref).1,
              List.append_nil]
          rw [same] at sends
          by_cases self : ref = other
          · subst self
            rw [(framed.unknown ref fresh).1] at sends
            rcases sends with ⟨line, among, long⟩
            have empty : line = [] := by
              simpa [upTo] using among
            rw [empty] at long
            cases long
          · refine (before ?_ sends).elsewhere self stored rfl history
            rw [Ne, idle, quiet]
            intro same
            cases same
      | receives other connection bytes session draining alive _ stored history after =>
          have self : ref ≠ other := by
            rintro rfl
            rw [reader_iff_framing.mp after] at between
            exact between rfl
          have same : received target.history ref = received source.history ref := by
            rw [history, received_append, received_one, if_neg (Ne.symm self), List.append_nil]
          rw [same] at sends
          refine (before ?_ sends).elsewhere self stored (live_eq_some.mp alive).2 history
          rw [draining]
          intro same
          cases same
      | takes other line rest session reading alive cut stored history after =>
          rcases history with ⟨events, history, silent⟩
          have same : received target.history ref = received source.history ref := by
            have nothing : received (.lineHandled other line :: events) ref =
              received events ref := rfl
            rw [history, received_append, nothing, (silent_projections silent ref).1,
              List.append_nil]
          by_cases self : ref = other
          · subst self
            have left : reader target.position ≠ some ref := by
              intro still
              rw [reader_iff_framing.mp still] at between
              exact between rfl
            have quit : isQuit line = true := by
              rw [(framed.reading ref reading).2 session alive, Bool.false_or] at after
              by_contra goesOn
              rw [if_neg goesOn] at after
              exact left after
            have afterwards := framed_reachable later unwrapped running
            rcases longer_is_left afterwards left (handled_step limited taken ref) sends with
              ⟨noQuit, _⟩
            have split : Event.lineHandled ref line :: events = [.lineHandled ref line] ++ events :=
              rfl
            rw [history, lines_append, split, lines_append, lines_one, if_pos rfl,
              List.any_append, List.any_append, List.any_cons, quit, Bool.true_or,
              Bool.true_or, Bool.or_true] at noQuit
            cases noQuit
          · rw [same] at sends
            refine (before ?_ sends).elsewhere self stored (live_eq_some.mp alive).2 history
            rw [Ne, idle, reading]
            exact fun same => self (Option.some.inj same).symm
      | stops other session reading alive cut stored history after =>
          rw [history] at sends
          have fades : Fades source target := by
            constructor
            · intro fd left there
              rw [stored] at there
              exact ⟨left, there, rfl, rfl, id⟩
            · exact silence_of_same history
            · exact fun _ => after
          by_cases self : ref = other
          · subst self
            have stopped : target = { source with position := .framed ref } := by
              simp only [System.serverStep, reader_iff_framing.mp reading, System.frameLine,
                (live_eq_some.mp alive).1, cut] at taken
              exact (Option.some.inj taken).symm
            rw [stopped] at between
            exact absurd rfl between
          · refine (before ?_ sends).fades fades
            rw [Ne, idle, reading]
            exact fun same => self (Option.some.inj same).symm
      | raises exception raised => exact absurd raised (running exception)

theorem quiet_outside {system next : System} {label : Label}
    (outside : Outside system label next) : Quiet system next := by
  cases outside with
  | transmits => exact quiet_of_event rfl rfl rfl rfl
  | _ => exact quiet_of_same rfl rfl rfl

theorem lines_silent {source target : System} (silence : Silence source target)
    (ref : SessionRef) : lines target.history ref = lines source.history ref := by
  rcases silence with ⟨events, history, silent⟩
  rw [history, lines_append, (silent_projections silent ref).2.1, List.append_nil]

theorem limited_step {config : ServerConfig} {poolSize : Nat} {source target : System}
    {label : Label} (limited : Limited config poolSize source) (keeps : KeepsLimit source label)
    (taken : source.step label = some target) : Limited config poolSize target := by
  rcases step_cases taken with ⟨order, rfl, server⟩ | outside
  · exact ⟨limited.reached.next taken, waiting_step limited keeps server,
      handled_step limited server, told_step limited server⟩
  · have quiet := quiet_outside outside
    have same : target.sessions = source.sessions := by
      cases outside <;> rfl
    constructor
    · exact limited.reached.next taken
    · intro ref session framing alive
      rw [quiet.position] at framing
      simp only [System.live, same] at alive
      exact limited.waiting ref session framing alive
    · intro ref
      rw [lines_silent quiet.silence]
      exact limited.handled ref
    · intro unwrapped running ref between sends
      have small := (grown_step (coherent_reachable limited.reached) taken).1.trans unwrapped
      rw [quiet.position] at between
      rw [received_silent quiet.silence] at sends
      exact (limited.told small (running_of_step taken) ref between sends).fades quiet.fades

theorem limited_start (config : ServerConfig) (poolSize : Nat) :
    Limited config poolSize (System.start config poolSize) := by
  constructor
  · exact reachable_refl _ _
  · intro ref session framing
    cases framing
  · intro ref line member
    cases member
  · intro _ _ ref _ sends
    rcases sends with ⟨line, among, long⟩
    have empty : line = [] := by
      simpa [upTo, received, System.start] using among
    rw [empty] at long
    cases long

/-- In a run whose chunks keep the limit no longer line is handled, and a session
that sends one has been refused when its chunk has been handled. -/
theorem line_limit_kept {config : ServerConfig} {poolSize : Nat} {labels : List Label}
    {system : System} (ran : run System.step (System.start config poolSize) labels = some system)
    (keeps : EveryStep System.step (fun source label _ => KeepsLimit source label)
      (System.start config poolSize) labels) :
    (∀ ref, ∀ line ∈ lines system.history ref, line.length ≤ config.maxLineSize) ∧
    (system.nextSessionGeneration ≤ 2 ^ 64 → Running system → ∀ ref,
      handling system.position ≠ some ref →
        SendsLonger config.maxLineSize (received system.history ref) → Refused system ref) := by
  have limited : Limited config poolSize system :=
    guarded_invariant (limited_start config poolSize)
      (fun _ _ _ before condition taken => limited_step before condition taken) keeps ran
  refine ⟨limited.handled, ?_⟩
  intro unwrapped running ref between sends
  have told := limited.told unwrapped running ref between sends
  have unflushed := unflushed_reachable limited.reached
  refine ⟨told.answered, ?_⟩
  intro session alive
  have closing := told.closing session alive
  refine ⟨closing, ?_⟩
  intro empty
  cases unflushed ref session alive closing empty

/-- Lines of eight bytes are allowed, the second one is longer. -/
def longLine : List Label :=
  [.tick, .accept 0 5, .tick, .tick, .tick, .tick, .tick,
    .recv 2 (ascii "fly\nteleport me"), .tick, .tick, .tick, .tick]

def shortLines : ServerConfig := ⟨512, 16, 8, ServerConfig.default.ringEntriesPositive⟩

theorem line_limit_kept_remainder :
    ∃ system, run System.step (System.start shortLines 1) longLine = some system ∧
      SendsLonger 8 (received system.history ⟨5, 1⟩) ∧
      (∀ ref, ∀ line ∈ lines system.history ref, line.length ≤ 8) ∧ Refused system ⟨5, 1⟩ := by
  have ends : (run System.step (System.start shortLines 1) longLine).any (fun system =>
      decide (system.nextSessionGeneration = 2) && decide (system.position = .draining) &&
      decide (SendsLonger 8 (received system.history ⟨5, 1⟩))) = true := by
    decide
  have keeps : meets System.step KeepsLimit (System.start shortLines 1) longLine = true := by
    decide
  rcases (Option.any_eq_true _ _).mp ends with ⟨system, ran, facts⟩
  simp only [Bool.and_eq_true, decide_eq_true_eq] at facts
  have kept := line_limit_kept ran (every_step_of_meets keeps)
  refine ⟨system, ran, facts.2, kept.1, kept.2 ?_ ?_ ⟨5, 1⟩ ?_ facts.2⟩
  · rw [facts.1.1]
    decide
  · intro exception raised
    rw [facts.1.2] at raised
    cases raised
  · rw [facts.1.2]
    exact nofun

/-- 8192 bytes in two chunks, then one more byte with the newline. -/
def overrun : List Label :=
  [.tick, .accept 0 5, .tick, .tick, .tick, .tick, .tick,
    .recv 2 (List.replicate 4096 120), .tick, .tick, .tick, .tick, .tick,
    .recv 3 (List.replicate 4096 120), .tick, .tick, .tick, .tick, .tick,
    .recv 3 [120, newline], .tick, .tick, .tick, .tick]

theorem overlong_line_handled :
    ∃ system, run System.step (System.start .default 1) overrun = some system ∧
      (∃ line ∈ lines system.history ⟨5, 1⟩, ServerConfig.default.maxLineSize < line.length) ∧
      .queued ⟨5, 1⟩ tooLong ∉ system.history ∧
      ∃ session, system.live ⟨5, 1⟩ = some session ∧ session.closeAfterFlush = false := by
  have ends : (run System.step (System.start .default 1) overrun).any (fun system =>
      ((lines system.history ⟨5, 1⟩).any fun line => !(line.drop 8192).isEmpty) &&
      decide (.queued ⟨5, 1⟩ tooLong ∉ system.history) &&
      (system.live ⟨5, 1⟩).any fun session => !session.closeAfterFlush) = true := by
    decide +kernel
  rcases (Option.any_eq_true _ _).mp ends with ⟨system, ran, facts⟩
  simp only [Bool.and_eq_true, decide_eq_true_eq] at facts
  rcases List.any_eq_true.mp facts.1.1 with ⟨line, handled, long⟩
  rcases (Option.any_eq_true _ _).mp facts.2 with ⟨session, alive, open_⟩
  refine ⟨system, ran, ⟨line, handled, ?_⟩, facts.1.2, session, alive, ?_⟩
  · by_contra short
    have nothing : line.drop 8192 = [] := List.drop_eq_nil_of_le (Nat.not_lt.mp short)
    rw [nothing] at long
    cases long
  · simpa using open_

end DungeonPortfolio.LineLimit
