import DungeonPortfolio.ServerSteps
import DungeonPortfolio.WatcherLines
import DungeonPortfolio.WireFormat

/-!
# What reaches the other clients

No part of a line is escaped. The words of the players kept in the world and of
the lines queued so far come from the tokenizer; every handler keeps it so, and
each line can be read back.
-/

namespace DungeonPortfolio.LineIntegrity

open DungeonPortfolio.Text DungeonPortfolio.Protocol DungeonPortfolio.World
open DungeonPortfolio.Dispatcher DungeonPortfolio.Server DungeonPortfolio.ServerActs
open DungeonPortfolio.ServerResponses DungeonPortfolio.ServerSteps DungeonPortfolio.Grammar
open DungeonPortfolio.WireFormat
open DungeonPortfolio.WatcherLines (Worded CallWorded worded_call)
open Library.Execution

set_option autoImplicit false

def Whole (line : ServerLine) : Prop := ∀ content, contentOf line = some content → content.Valid

def Clean : Event → Prop
  | .queued _ line => Whole line
  | _ => True

abbrev TokenNames (account character : Bytes) : Prop := IsToken account ∧ IsToken character

/-- The names of the players and the lines queued so far are made of tokens. -/
structure Wholesome (system : System) : Prop where
  players : ∀ ref player, system.world.players ref = some player →
    TokenNames player.account player.character
  lines : ∀ event ∈ system.history, Clean event

theorem Wholesome.frame {system next : System} {events : List Event}
    (wholesome : Wholesome system) (world : next.world = system.world)
    (history : next.history = system.history ++ events) (clean : ∀ event ∈ events, Clean event) :
    Wholesome next := by
  constructor
  · rw [world]
    exact wholesome.players
  · rw [history]
    intro event listed
    rcases List.mem_append.mp listed with before | new
    · exact wholesome.lines event before
    · exact clean event new

theorem Wholesome.same {system next : System} (wholesome : Wholesome system)
    (world : next.world = system.world) (history : next.history = system.history) :
    Wholesome next :=
  wholesome.frame world (history.trans (List.append_nil _).symm) nofun

theorem Wholesome.event {system next : System} {event : Event} (wholesome : Wholesome system)
    (world : next.world = system.world) (history : next.history = system.history ++ [event])
    (clean : Clean event) : Wholesome next := by
  apply wholesome.frame world history
  intro other listed
  rw [List.mem_singleton.mp listed]
  exact clean

theorem fixed_of_form {form : CommandForm} (listed : form ∈ grammar) {message : Bytes}
    (said : message = ascii form.usage ∨
      (∃ kind ∈ form.arguments, kind ≠ .word) ∧ message = ascii form.complaint) :
    message ∈ fixedMessages := by
  rw [fixedMessages]
  rcases said with rfl | ⟨⟨kind, among, numeric⟩, rfl⟩
  · have usages : ascii form.usage ∈ grammar.map fun form => ascii form.usage :=
      List.mem_map_of_mem listed
    exact List.mem_append_left _ (by simp only [List.mem_cons, usages, or_true])
  · apply List.mem_append_right
    apply List.mem_map_of_mem
    rw [List.mem_filter]
    refine ⟨listed, ?_⟩
    rw [List.any_eq_true]
    exact ⟨kind, among, decide_eq_true numeric⟩

theorem whole_fixed {message : Bytes} (fixed : message ∈ fixedMessages) :
    Whole (.err message) := by
  intro content tells
  rw [← Option.some.inj tells, errorContent, no_other_unknown message fixed]
  exact fixed

theorem whole_rejection {line message : Bytes} (rejected : parseLine line = .error message) :
    Whole (.err message) := by
  rcases parse_line_error rejected with rfl | ⟨form, listed, said⟩ | ⟨command, word, rfl⟩
  · exact whole_fixed List.mem_cons_self
  · exact whole_fixed (fixed_of_form listed said)
  · intro content tells
    rw [← Option.some.inj tells, errorContent, behind_append]
    exact word

theorem whole_world {line : WorldLine} (worded : Worded TokenNames IsToken line) :
    Whole (.world line) := by
  intro content tells
  rw [← Option.some.inj tells]
  cases line with
  | worldEntered player => exact (worded.about player rfl).2
  | evtEnter player => exact (worded.about player rfl).symm
  | evtSnapshot player => exact (worded.about player rfl).symm
  | worldMoved player => exact (worded.about player rfl).2
  | evtMove player => exact (worded.about player rfl).2
  | evtDespawn player reason =>
      exact ⟨(worded.about player rfl).2, worded.extras reason List.mem_cons_self⟩
  | worldAttack skill target =>
      exact ⟨worded.extras skill (by simp [WatcherLines.extras]),
        worded.extras target (by simp [WatcherLines.extras])⟩
  | evtAttack player skill target =>
      exact ⟨(worded.about player rfl).2, worded.extras skill (by simp [WatcherLines.extras]),
        worded.extras target (by simp [WatcherLines.extras])⟩
  | errNotInWorld =>
      have fixed : ascii "not in world; use ENTER first" ∈ fixedMessages := by
        simp only [fixedMessages, List.cons_append, List.mem_cons, true_or, or_true]
      exact fixed

theorem command_name_token {line : Bytes} {request : Request}
    (parsed : parseLine line = .ok request) : IsToken request.commandName := by
  rcases (parse_line_iff line request).mp parsed with ⟨_, _, form, _, listed, _, _, rfl⟩
  have names : ∀ form ∈ grammar, IsToken form.name := by decide
  exact names form listed

theorem wholesome_get_sqe {system : System} (wholesome : Wholesome system) :
    Wholesome system.getSqe :=
  wholesome.same (get_sqe_undisturbed system).world (get_sqe_history system)

theorem wholesome_post_send {system : System} (wholesome : Wholesome system) (fd : Int) :
    Wholesome (system.postSend fd) :=
  wholesome.same (post_send_apart system fd).1 (post_send_apart system fd).2

theorem wholesome_queue_response {system : System} (wholesome : Wholesome system)
    (ref : SessionRef) {line : ServerLine} (whole : Whole line) :
    Wholesome (system.queueResponse ref line) := by
  obtain ⟨world, event, rfl | rfl, history⟩ := queue_response_records system ref line
  · exact wholesome.event world history whole
  · exact wholesome.event world history trivial

theorem wholesome_deliver {system : System} (wholesome : Wholesome system)
    {events : List WorldEvent} (worded : ∀ event ∈ events, Worded TokenNames IsToken event.line) :
    Wholesome (system.deliverWorldEvents events) := by
  induction events generalizing system with
  | nil => exact wholesome
  | cons event rest ih =>
      have first := wholesome_queue_response wholesome event.receiver
        (whole_world (worded event List.mem_cons_self))
      exact ih first fun other listed => worded other (List.mem_cons_of_mem _ listed)

theorem wholesome_call {system : System} (wholesome : Wholesome system)
    (order : SectorWorld.CallOrder) {call : WorldCall}
    (worded : CallWorded TokenNames IsToken call) :
    Wholesome ((system.setWorld (system.world.call order call).1).deliverWorldEvents
      (system.world.call order call).2) := by
  have leaving : IsToken (ascii "leave") := by decide
  have going : IsToken (ascii "sector_out") := by decide
  have called := worded_call wholesome.players leaving going order worded
  have placed : Wholesome (system.setWorld (system.world.call order call).1) :=
    ⟨called.1, wholesome.lines⟩
  exact wholesome_deliver placed called.2

theorem wholesome_leave_world {system : System} (wholesome : Wholesome system)
    (order : SectorWorld.CallOrder) (ref : SessionRef) :
    Wholesome (system.leaveWorld order ref) := by
  rw [leave_world_eq]
  have called := @wholesome_call _ wholesome order (.leave ref) trivial
  unfold saveSnapshot
  split
  · exact called
  · exact called.event rfl rfl trivial

theorem wholesome_close_session {system : System} (wholesome : Wholesome system)
    (order : SectorWorld.CallOrder) (cause : CloseCause) (fd : Int) :
    Wholesome (system.closeSession order cause fd) := by
  unfold System.closeSession
  split
  · exact wholesome
  · rename_i session found
    have left := wholesome_leave_world wholesome order ⟨fd, session.generation⟩
    exact left.event rfl rfl trivial

theorem wholesome_maybe_close {system : System} (wholesome : Wholesome system)
    (order : SectorWorld.CallOrder) (fd : Int) :
    Wholesome (system.maybeCloseAfterFlush order fd) := by
  unfold System.maybeCloseAfterFlush
  split
  · exact wholesome
  · split
    · exact wholesome_close_session wholesome order .flushed fd
    · exact wholesome

theorem wholesome_set_close {system : System} (wholesome : Wholesome system) (fd : Int) :
    Wholesome (system.setCloseAfterFlush fd) := by
  unfold System.setCloseAfterFlush
  split
  · exact wholesome
  · exact wholesome.same rfl rfl

theorem wholesome_requested {system : System} (wholesome : Wholesome system) (ref : SessionRef)
    (operation : DbOperation) {commandName : Bytes} (name : IsToken commandName)
    (args : List Bytes) : Wholesome (requested system ref operation commandName args) := by
  have counted : Wholesome (system.countPending ref.fd) := by
    unfold System.countPending
    split
    · exact wholesome
    · exact wholesome.same rfl rfl
  have whole : Whole (.pending (counterValue system.nextRequestId) commandName) := by
    intro content tells
    rw [← Option.some.inj tells]
    exact name
  exact (wholesome_queue_response counted ref whole).event rfl rfl trivial

theorem wholesome_client_line {system next : System} (wholesome : Wholesome system)
    (order : SectorWorld.CallOrder) {ref : SessionRef} {line : Bytes}
    (handled : system.handleClientLine order ref line = .ok next) : Wholesome next := by
  cases handle_client_line_returns handled with
  | rejected message parsed =>
      exact wholesome_queue_response wholesome ref (whole_rejection parsed)
  | quit =>
      have left := wholesome_leave_world wholesome order ref
      have bye : Whole .bye := by
        intro words shown
        cases shown
      exact wholesome_set_close (wholesome_queue_response left ref bye) ref.fd
  | enter request account character xText yText x y parsed type args token =>
      have named : TokenNames account character := by
        refine ⟨token, (parse_line_accepted parsed).2 character ?_⟩
        rw [args]
        exact List.mem_cons_of_mem _ List.mem_cons_self
      have called := @wholesome_call _ wholesome order (.enter ref account character x y) named
      exact called.event rfl rfl trivial
  | move request xText yText x y =>
      exact @wholesome_call _ wholesome order (.move ref x y) trivial
  | attack request skill target parsed type args =>
      have tokens := (parse_line_accepted parsed).2
      rw [args] at tokens
      have words : IsToken skill ∧ IsToken target :=
        ⟨tokens skill List.mem_cons_self,
          tokens target (List.mem_cons_of_mem _ List.mem_cons_self)⟩
      exact @wholesome_call _ wholesome order (.attack ref skill target) words
  | database request operation parsed =>
      exact wholesome_requested wholesome ref operation (command_name_token parsed) _

theorem wholesome_handle_accept {system : System} (wholesome : Wholesome system) (cqe : Cqe) :
    Wholesome (system.handleAccept cqe) := by
  unfold System.handleAccept
  split
  · have hello : Whole .hello := nofun
    apply wholesome_queue_response _ _ hello
    exact wholesome.event rfl rfl trivial
  · exact wholesome.same rfl rfl

theorem wholesome_handle_recv {system : System} (wholesome : Wholesome system)
    (order : SectorWorld.CallOrder) (ref : SessionRef) (cqe : Cqe) :
    Wholesome (system.handleRecv order ref cqe) := by
  unfold System.handleRecv
  split
  · exact wholesome
  · split
    · exact wholesome_close_session wholesome order .endOfStream ref.fd
    · exact wholesome.event rfl rfl trivial

theorem wholesome_handle_send {system : System} (wholesome : Wholesome system)
    (order : SectorWorld.CallOrder) (ref : SessionRef) (payload : Bytes) (cqe : Cqe) :
    Wholesome (system.handleSend order ref payload cqe) := by
  unfold System.handleSend
  split
  · exact wholesome
  · rename_i session alive
    have idle : Wholesome (system.setSession ref.fd
        (some { session with writeInFlight := false })) := wholesome.same rfl rfl
    simp only
    split
    · exact wholesome_close_session idle order .sendFailure ref.fd
    · split
      · exact wholesome_close_session idle order .sendFailure ref.fd
      · apply wholesome_maybe_close
        apply wholesome_post_send
        exact wholesome.event rfl rfl trivial

theorem wholesome_handle_cqe {system : System} (wholesome : Wholesome system)
    (order : SectorWorld.CallOrder) (cqe : Cqe) : Wholesome (system.handleCqe order cqe) := by
  unfold System.handleCqe
  split
  · exact wholesome_handle_accept wholesome cqe
  · exact wholesome_handle_recv wholesome order _ cqe
  · exact wholesome_handle_send wholesome order _ _ cqe
  · exact wholesome.same rfl rfl

theorem wholesome_frame_line {system : System} (wholesome : Wholesome system)
    (order : SectorWorld.CallOrder) (ref : SessionRef) :
    Wholesome (system.frameLine order ref) := by
  have turn := frame_line_turn system order ref
  generalize system.frameLine order ref = next at turn
  have taken (session : Session) (line rest : Bytes) :
      Wholesome (takeLine system ref session line rest) :=
    wholesome.event rfl rfl trivial
  cases turn with
  | stops => exact wholesome.same rfl rfl
  | raises session line rest => exact (taken session line rest).same rfl rfl
  | handles session line rest handled found cut answered =>
      exact (wholesome_client_line (taken session line rest) order answered).same rfl rfl

theorem wholesome_finish_recv {system : System} (wholesome : Wholesome system)
    (order : SectorWorld.CallOrder) (ref : SessionRef) :
    Wholesome (system.finishRecv order ref) := by
  have ending := finish_recv_end system order ref
  generalize system.finishRecv order ref = next at ending
  have still {session : Session} {checked : System} (checks : Checked system ref session checked) :
      Wholesome checked := by
    cases checks with
    | fits => exact wholesome
    | refused =>
        apply wholesome_set_close
        apply wholesome_queue_response wholesome
        apply whole_fixed
        exact List.mem_cons_of_mem _ (List.mem_cons_of_mem _ List.mem_cons_self)
  cases ending with
  | gone => exact wholesome.same rfl rfl
  | lost _ _ _ checks => exact (still checks).same rfl rfl
  | parks _ _ _ _ checks =>
      apply wholesome_maybe_close
      exact (still checks).same rfl rfl
  | reads _ _ _ _ checks => exact (wholesome_get_sqe (still checks)).same rfl rfl

theorem wholesome_handle_completion {system : System} (wholesome : Wholesome system)
    (order : SectorWorld.CallOrder) : Wholesome (system.handleCompletion order) := by
  unfold System.handleCompletion
  split
  · exact (wholesome_get_sqe wholesome).same rfl rfl
  · rename_i completion rest completions
    have popped : Wholesome (popCompletion system completion rest) :=
      wholesome.event rfl rfl trivial
    simp only
    split
    · split
      · exact popped
      · rename_i session alive
        apply wholesome_maybe_close
        have answer : Whole (.completion completion.ok completion.requestId completion.line) := nofun
        apply wholesome_queue_response _ _ answer
        split
        · exact popped.same rfl rfl
        · exact popped
    · exact popped

theorem wholesome_server_step {system next : System} {order : SectorWorld.CallOrder}
    (wholesome : Wholesome system) (taken : system.serverStep order = some next) :
    Wholesome next := by
  cases server_step_cases taken with
  | submitting | drained => exact wholesome.same rfl rfl
  | draining cqe rest =>
      have popped : Wholesome (setCompleted system rest) := wholesome.same rfl rfl
      exact wholesome_handle_cqe popped order cqe
  | opened | reaccepting => exact (wholesome_get_sqe wholesome).same rfl rfl
  | framing ref => exact wholesome_frame_line wholesome order ref
  | framed ref => exact wholesome_finish_recv wholesome order ref
  | completing => exact wholesome_handle_completion wholesome order

theorem wholesome_step {system next : System} {label : Label} (wholesome : Wholesome system)
    (taken : system.step label = some next) : Wholesome next := by
  rcases step_cases taken with ⟨order, _, server⟩ | outside
  · exact wholesome_server_step wholesome server
  · cases outside with
    | transmits => exact wholesome.event rfl rfl trivial
    | _ => exact wholesome.same rfl rfl

theorem wholesome_reachable {config : ServerConfig} {poolSize : Nat} {system : System}
    (reached : Reachable System.step (System.start config poolSize) system) : Wholesome system := by
  apply reached.invariant
  · exact ⟨nofun, nofun⟩
  · exact fun _ _ _ wholesome taken => wholesome_step wholesome taken

/-- A world event, an error or an acknowledgement that was queued in some run, as
it is sent. -/
def QueuedAs (text : Bytes) (content : Content) : Prop :=
  ∃ config poolSize system ref line,
    Reachable System.step (System.start config poolSize) system ∧
      .queued ref line ∈ system.history ∧ contentOf line = some content ∧
        text = terminated line.text

/-- One newline, at the end, single spaces between as many tokens as the kind has,
and nothing lost. -/
structure Intact (text : Bytes) (content : Content) : Prop where
  ends : ∃ body, text = body ++ [newline] ∧ newline ∉ body ∧
    (∀ byte ∈ body, isSpace byte = true → byte = space) ∧ body.splitOn space = content.tokens
  tokens : ∀ token ∈ content.tokens, IsToken token
  size : content.tokens.length = (format content.kind).size
  recovered : readLine text = some content

theorem queued_valid {text : Bytes} {content : Content} (queued : QueuedAs text content) :
    content.Valid ∧ text = [space].intercalate content.tokens ++ [newline] ∧
      readLine text = some content := by
  rcases queued with ⟨config, poolSize, system, ref, line, reached, listed, tells, rfl⟩
  have valid := (wholesome_reachable reached).lines _ listed content tells
  exact ⟨valid, terminated_text tells valid, read_line tells valid⟩

theorem Content.Valid.only_spaces {content : Content} (valid : content.Valid) :
    ∀ byte ∈ [space].intercalate content.tokens, isSpace byte = true → byte = space := by
  intro byte member white
  rcases Library.Framing.mem_intercalate member with between | ⟨token, listed, inside⟩
  · exact List.mem_singleton.mp between
  · have plain := (valid.tokens token listed).2 byte inside
    rw [white] at plain
    cases plain

theorem queued_lines_intact {text : Bytes} {content : Content} (queued : QueuedAs text content) :
    Intact text content ∧
      ∀ other otherContent, QueuedAs other otherContent →
        (text = other ↔ content = otherContent) := by
  rcases queued_valid queued with ⟨valid, written, recovered⟩
  constructor
  · constructor
    · exact ⟨_, written, valid.no_newline, Content.Valid.only_spaces valid, valid.split⟩
    · exact valid.tokens
    · exact Library.Formats.Format.render_length content.full
    · exact recovered
  · intro other otherContent also
    rcases queued_valid also with ⟨_, otherWritten, otherRecovered⟩
    constructor
    · rintro rfl
      exact Option.some.inj (recovered.symm.trans otherRecovered)
    · rintro rfl
      rw [written, otherWritten]

/-- An unknown command and an ENTER in one chunk. -/
def mistypes : List Label :=
  [.tick, .accept 0 5, .tick, .tick, .tick, .tick, .tick,
    .recv 2 (ascii "fly\nENTER a b 1 2\n"), .tick, .tick, .tick]

theorem queued_lines_intact_both :
    Intact (ascii "ERR unknown command: fly\n") (.unknownCommand (ascii "fly")) ∧
    Intact (ascii "WORLD ENTERED b x=1 y=2 sector=0,0\n")
      (.worldEntered (ascii "b") 1 2 ⟨0, 0⟩) := by
  have ends : (run System.step (System.start .default 1) mistypes).any (fun system =>
      decide (Event.queued ⟨5, 1⟩ (.err (ascii "unknown command: fly")) ∈ system.history) &&
      decide (Event.queued ⟨5, 1⟩ (.world (.worldEntered
        ⟨⟨5, 1⟩, ascii "a", ascii "b", 1, 2, ⟨0, 0⟩⟩)) ∈ system.history)) = true := by
    decide
  rcases (Option.any_eq_true _ _).mp ends with ⟨system, ran, facts⟩
  simp only [Bool.and_eq_true, decide_eq_true_eq] at facts
  have unknown : QueuedAs (ascii "ERR unknown command: fly\n") (.unknownCommand (ascii "fly")) :=
    ⟨.default, 1, system, _, _, ⟨mistypes, ran⟩, facts.1, by decide, by decide⟩
  have entered : QueuedAs (ascii "WORLD ENTERED b x=1 y=2 sector=0,0\n")
      (.worldEntered (ascii "b") 1 2 ⟨0, 0⟩) :=
    ⟨.default, 1, system, _, _, ⟨mistypes, ran⟩, facts.2, by decide, by decide +kernel⟩
  exact ⟨(queued_lines_intact unknown).1, (queued_lines_intact entered).1⟩

end DungeonPortfolio.LineIntegrity
