import DungeonPortfolio.EndToEnd
import DungeonPortfolio.LineFraming
import DungeonPortfolio.LineIntegrity
import DungeonPortfolio.PositionSaves
import DungeonPortfolio.StoredNumbers

/-!
# The jobs that the loop submits

A job carries its arguments as strings, and the worker takes them by position and
converts them. The jobs of a session are its database lines, one each and in their
order; the others are the positions of players. So no worker ever reads an argument
that is not there, and a conversion fails on a number of more than 64 bits only.
-/

namespace DungeonPortfolio.Submissions

open DungeonPortfolio.Text DungeonPortfolio.Protocol DungeonPortfolio.World
open DungeonPortfolio.Dispatcher DungeonPortfolio.Server DungeonPortfolio.ServerActs
open DungeonPortfolio.ServerResponses DungeonPortfolio.ServerSteps DungeonPortfolio.LineIntegrity
open DungeonPortfolio.Commands DungeonPortfolio.Decimals DungeonPortfolio.WorldIndex
open DungeonPortfolio.EndToEnd (submittedIn)
open DungeonPortfolio.LineFraming (lines handledPart)
open DungeonPortfolio.PositionSaves (Deed Effect Follows Named Yields calm_outside newEvents
  saveOf savedArgs server_step_deed)
open DungeonPortfolio.Sessions
open Library.Execution

set_option autoImplicit false

/-- What a job asks of the database, whoever asks. -/
structure Inquiry where
  operation : DbOperation
  commandName : Bytes
  args : List Bytes
  deriving DecidableEq, Repr

/-- The job of a line, if it is the line of a database command. -/
def inquiry (line : Bytes) : Option Inquiry :=
  match parseLine line with
  | .error _ => none
  | .ok request =>
      match operationFor request.type with
      | .error _ => none
      | .ok operation => some ⟨operation, request.commandName, request.args⟩

def inquiryOf (ref : SessionRef) : Event → Option Inquiry
  | .submitted job =>
      if job.notifyClient ∧ job.client = ref then some ⟨job.operation, job.commandName, job.args⟩
      else none
  | _ => none

/-- A job that the loop makes by itself, for a character whose names are tokens. -/
def Background (job : DbJob) : Prop :=
  ∃ requestId ref account character x y, TokenNames account character ∧
    job = System.positionJob requestId ref account character x y

/-- What a piece of the server records that handles no line. -/
def Aloof : Event → Prop
  | .submitted job => Background job
  | .lineHandled _ _ => False
  | _ => True

def Keeps (system next : System) : Prop :=
  ∃ events, next.history = system.history ++ events ∧ ∀ event ∈ events, Aloof event

theorem Keeps.trans {first second third : System} (before : Keeps first second)
    (after : Keeps second third) : Keeps first third := by
  rcases before with ⟨events, history, aloof⟩
  rcases after with ⟨more, later, still⟩
  refine ⟨events ++ more, by rw [later, history, List.append_assoc], ?_⟩
  intro event listed
  rcases List.mem_append.mp listed with here | there
  · exact aloof event here
  · exact still event there

theorem keeps_same {system next : System} (history : next.history = system.history) :
    Keeps system next := ⟨[], history.trans (List.append_nil _).symm, nofun⟩

theorem keeps_event {system next : System} {event : Event}
    (history : next.history = system.history ++ [event]) (aloof : Aloof event) :
    Keeps system next := by
  refine ⟨[event], history, ?_⟩
  intro other listed
  rw [List.mem_singleton.mp listed]
  exact aloof

section

variable {system : System}

theorem keeps_response (ref : SessionRef) (line : ServerLine) :
    Keeps system (system.queueResponse ref line) := by
  rcases (queue_response_records system ref line).2 with ⟨event, rfl | rfl, history⟩
  · exact keeps_event history trivial
  · exact keeps_event history trivial

theorem keeps_deliver (events : List WorldEvent) :
    Keeps system (system.deliverWorldEvents events) := by
  induction events generalizing system with
  | nil => exact keeps_same rfl
  | cons event rest ih => exact (keeps_response event.receiver (.world event.line)).trans ih

theorem keeps_call (order : SectorWorld.CallOrder) (call : WorldCall) :
    Keeps system ((system.setWorld (system.world.call order call).1).deliverWorldEvents
      (system.world.call order call).2) := by
  have placed : Keeps system (system.setWorld (system.world.call order call).1) := keeps_same rfl
  exact placed.trans (keeps_deliver _)

theorem keeps_saved (ref : SessionRef) {account character : Bytes}
    (named : TokenNames account character) (x y : Int32) :
    Keeps system (system.submitPositionSave ref account character x y) :=
  keeps_event rfl ⟨_, _, _, _, _, _, named, rfl⟩

theorem keeps_leave (wholesome : Wholesome system) (order : SectorWorld.CallOrder)
    (ref : SessionRef) : Keeps system (system.leaveWorld order ref) := by
  have called := @keeps_call system order (.leave ref)
  rw [leave_world_eq]
  unfold saveSnapshot
  split
  · exact called
  · rename_i someone
    cases lookup : system.world.players ref with
    | none =>
        rw [leave_absent order _ lookup] at someone
        exact absurd rfl someone
    | some player =>
        rw [leave_present order _ lookup]
        exact called.trans (keeps_saved ref (wholesome.players ref player lookup) _ _)

theorem keeps_close (wholesome : Wholesome system) (order : SectorWorld.CallOrder)
    (cause : CloseCause) (fd : Int) : Keeps system (system.closeSession order cause fd) := by
  unfold System.closeSession
  split
  · exact keeps_same rfl
  · rename_i session found
    exact (keeps_leave wholesome order ⟨fd, session.generation⟩).trans (keeps_event rfl trivial)

theorem keeps_maybe_close (wholesome : Wholesome system) (order : SectorWorld.CallOrder) (fd : Int) :
    Keeps system (system.maybeCloseAfterFlush order fd) := by
  unfold System.maybeCloseAfterFlush
  split
  · exact keeps_same rfl
  · split
    · exact keeps_close wholesome order .flushed fd
    · exact keeps_same rfl

theorem keeps_set_close (fd : Int) : Keeps system (system.setCloseAfterFlush fd) := by
  unfold System.setCloseAfterFlush
  split <;> exact keeps_same rfl

/-- What a handled line adds: the job it asks for, besides the positions it saves. -/
def Serves (ref : SessionRef) (line : Bytes) (system next : System) : Prop :=
  match inquiry line with
  | none => Keeps system next
  | some asked => ∃ middle requestId, Keeps system middle ∧ next.history = middle.history ++
      [.submitted ⟨ref, requestId, asked.operation, asked.commandName, asked.args, true⟩]

theorem serves_aside {ref : SessionRef} {line : Bytes} {next : System} {request : Request}
    (parsed : parseLine line = .ok request) {message : StdException}
    (aside : operationFor request.type = .error message) (keeps : Keeps system next) :
    Serves ref line system next := by
  simp only [Serves, inquiry, parsed, aside]
  exact keeps

theorem client_line_serves {next : System} (wholesome : Wholesome system)
    (order : SectorWorld.CallOrder) {ref : SessionRef} {line : Bytes}
    (handled : system.handleClientLine order ref line = .ok next) : Serves ref line system next := by
  cases handle_client_line_returns handled with
  | rejected message parsed =>
      simp only [Serves, inquiry, parsed]
      exact keeps_response ref _
  | quit request parsed type =>
      refine serves_aside parsed (by rw [type]; rfl) ?_
      have left := keeps_leave wholesome order ref
      exact (left.trans (keeps_response ref .bye)).trans (keeps_set_close ref.fd)
  | enter request account character xText yText x y parsed type args token =>
      refine serves_aside parsed (by rw [type]; rfl) ?_
      have named : TokenNames account character := by
        refine ⟨token, (parse_line_accepted parsed).2 character ?_⟩
        rw [args]
        exact List.mem_cons_of_mem _ List.mem_cons_self
      exact (keeps_call order (.enter ref account character x y)).trans (keeps_saved ref named x y)
  | move request xText yText x y parsed type =>
      exact serves_aside parsed (by rw [type]; rfl) (keeps_call order (.move ref x y))
  | attack request skill target parsed type =>
      exact serves_aside parsed (by rw [type]; rfl) (keeps_call order (.attack ref skill target))
  | database request operation parsed type backed =>
      have counted : Keeps system (system.countPending ref.fd) := by
        unfold System.countPending
        split <;> exact keeps_same rfl
      simp only [Serves, inquiry, parsed, backed]
      exact ⟨_, counterValue system.nextRequestId, counted.trans (keeps_response ref
        (.pending (counterValue system.nextRequestId) request.commandName)), rfl⟩

theorem keeps_accept (cqe : Cqe) : Keeps system (system.handleAccept cqe) := by
  unfold System.handleAccept
  split
  · refine Keeps.trans ?_ (keeps_response _ .hello)
    exact keeps_event rfl trivial
  · exact keeps_same rfl

theorem keeps_recv (wholesome : Wholesome system) (order : SectorWorld.CallOrder)
    (ref : SessionRef) (cqe : Cqe) : Keeps system (system.handleRecv order ref cqe) := by
  unfold System.handleRecv
  split
  · exact keeps_same rfl
  · split
    · exact keeps_close wholesome order .endOfStream ref.fd
    · exact keeps_event rfl trivial

theorem keeps_send (wholesome : Wholesome system) (order : SectorWorld.CallOrder)
    (ref : SessionRef) (payload : Bytes) (cqe : Cqe) :
    Keeps system (system.handleSend order ref payload cqe) := by
  unfold System.handleSend
  split
  · exact keeps_same rfl
  · rename_i session alive
    have idle : Wholesome (system.setSession ref.fd
        (some { session with writeInFlight := false })) := wholesome.same rfl rfl
    simp only
    split
    · exact Keeps.trans (keeps_same rfl) (keeps_close idle order .sendFailure ref.fd)
    · split
      · exact Keeps.trans (keeps_same rfl) (keeps_close idle order .sendFailure ref.fd)
      · refine Keeps.trans (Keeps.trans ?_ (keeps_same (post_send_apart _ ref.fd).2))
          (keeps_maybe_close ?_ order ref.fd)
        · exact keeps_event rfl trivial
        · apply wholesome_post_send
          exact wholesome.event rfl rfl trivial

theorem keeps_cqe (wholesome : Wholesome system) (order : SectorWorld.CallOrder) (cqe : Cqe) :
    Keeps system (system.handleCqe order cqe) := by
  unfold System.handleCqe
  split
  · exact keeps_accept cqe
  · exact keeps_recv wholesome order _ cqe
  · exact keeps_send wholesome order _ _ cqe
  · exact keeps_same rfl

theorem keeps_finish (wholesome : Wholesome system) (order : SectorWorld.CallOrder)
    (ref : SessionRef) : Keeps system (system.finishRecv order ref) := by
  have ending := finish_recv_end system order ref
  generalize system.finishRecv order ref = next at ending
  have still {session : Session} {checked : System} (checks : Checked system ref session checked) :
      Keeps system checked := by
    cases checks with
    | fits => exact keeps_same rfl
    | refused => exact (keeps_response ref _).trans (keeps_set_close ref.fd)
  have whole {session : Session} {checked : System} (checks : Checked system ref session checked) :
      Wholesome checked := by
    cases checks with
    | fits => exact wholesome
    | refused =>
        apply wholesome_set_close
        apply wholesome_queue_response wholesome
        apply whole_fixed
        exact List.mem_cons_of_mem _ (List.mem_cons_of_mem _ List.mem_cons_self)
  cases ending with
  | gone => exact keeps_same rfl
  | lost _ _ _ checks => exact (still checks).trans (keeps_same rfl)
  | parks _ _ checked _ checks =>
      refine (still checks).trans (Keeps.trans (keeps_same rfl) (keeps_maybe_close ?_ order ref.fd))
      exact (whole checks).same rfl rfl
  | reads _ _ checked _ checks =>
      exact (still checks).trans (keeps_same (get_sqe_history checked))

theorem keeps_completion (wholesome : Wholesome system) (order : SectorWorld.CallOrder) :
    Keeps system (system.handleCompletion order) := by
  unfold System.handleCompletion
  split
  · exact keeps_same (get_sqe_history system)
  · rename_i completion rest completions
    have popped : Keeps system (popCompletion system completion rest) := keeps_event rfl trivial
    have whole : Wholesome (popCompletion system completion rest) := wholesome.event rfl rfl trivial
    simp only
    split
    · split
      · exact popped
      · rename_i session alive
        let line : ServerLine := .completion completion.ok completion.requestId completion.line
        have answer : Whole line := nofun
        have told : ∀ counted : System, Wholesome counted →
            Keeps (popCompletion system completion rest) counted →
            Keeps system ((counted.queueResponse completion.client line).maybeCloseAfterFlush order
              completion.client.fd) := by
          intro counted fine keeps
          have queued := (popped.trans keeps).trans (keeps_response completion.client line)
          exact queued.trans (keeps_maybe_close
            (wholesome_queue_response fine completion.client answer) order completion.client.fd)
        apply told
        · split
          · exact whole.same rfl rfl
          · exact whole
        · split <;> exact keeps_same rfl
    · exact popped

inductive Submits (system next : System) : Prop
  | nothing (keeps : Keeps system next)
  | raises (ref : SessionRef) (line : Bytes) (none : inquiry line = none)
      (history : next.history = system.history ++ [.lineHandled ref line])
  | handles (ref : SessionRef) (line : Bytes) (middle last : System)
      (history : middle.history = system.history ++ [.lineHandled ref line])
      (serves : Serves ref line middle last) (same : next.history = last.history)

/-- Only an ENTER or a MOVE raises. -/
theorem inquiry_of_raised {order : SectorWorld.CallOrder} {ref : SessionRef} {line : Bytes}
    {exception : StdException}
    (raised : system.handleClientLine order ref line = .error exception) : inquiry line = none := by
  unfold inquiry
  cases parsed : parseLine line with
  | error message => rfl
  | ok request =>
      have outcome := handle_client_line_outcome system order ref parsed
      rw [raised] at outcome
      generalize result : (Except.error exception : Except StdException System) = reply at outcome
      cases outcome with
      | quit | attack | database => cases result
      | enter account character xText yText type =>
          simp only [type, operationFor]
      | move xText yText type =>
          simp only [type, operationFor]

theorem server_step_submits {next : System} {order : SectorWorld.CallOrder}
    (wholesome : Wholesome system) (taken : system.serverStep order = some next) :
    Submits system next := by
  cases server_step_cases taken with
  | submitting | drained => exact Submits.nothing (keeps_same rfl)
  | draining cqe rest =>
      have popped : Wholesome (setCompleted system rest) := wholesome.same rfl rfl
      exact Submits.nothing (Keeps.trans (keeps_same rfl) (keeps_cqe popped order cqe))
  | opened | reaccepting => exact Submits.nothing (keeps_same (get_sqe_history system))
  | framing ref =>
      have turn := frame_line_turn system order ref
      generalize system.frameLine order ref = next at turn
      cases turn with
      | stops => exact Submits.nothing (keeps_same rfl)
      | raises session line rest exception found cut failed =>
          exact Submits.raises ref line (inquiry_of_raised failed) rfl
      | handles session line rest handled found cut answered =>
          have whole : Wholesome (takeLine system ref session line rest) :=
            wholesome.event rfl rfl trivial
          exact Submits.handles ref line _ handled rfl (client_line_serves whole order answered) rfl
  | framed ref => exact Submits.nothing (keeps_finish wholesome order ref)
  | completing => exact Submits.nothing (keeps_completion wholesome order)

end

/-- The jobs of a session are its database lines, one each and in their order, and
every other job is a position of a player. -/
structure Sincere (history : List Event) : Prop where
  asked : ∀ ref, history.filterMap (inquiryOf ref) = (lines history ref).filterMap inquiry
  own : ∀ job, .submitted job ∈ history → job.notifyClient = false → Background job

theorem aloof_nothing (ref : SessionRef) {events : List Event} (aloof : ∀ event ∈ events, Aloof event) :
    events.filterMap (inquiryOf ref) = [] ∧ lines events ref = [] := by
  constructor
  · apply List.filterMap_eq_nil_iff.mpr
    intro event listed
    have away := aloof event listed
    cases event with
    | submitted job =>
        rcases away with ⟨requestId, other, account, character, x, y, _, rfl⟩
        rfl
    | _ => rfl
  · apply List.filterMap_eq_nil_iff.mpr
    intro event listed
    have away := aloof event listed
    cases event with
    | lineHandled other line => exact away.elim
    | _ => rfl

theorem Sincere.append {history events : List Event} (sincere : Sincere history)
    (asked : ∀ ref, events.filterMap (inquiryOf ref) = (lines events ref).filterMap inquiry)
    (own : ∀ job, .submitted job ∈ events → job.notifyClient = false → Background job) :
    Sincere (history ++ events) := by
  constructor
  · intro ref
    rw [lines, List.filterMap_append, List.filterMap_append, List.filterMap_append,
      sincere.asked ref, asked ref]
    rfl
  · intro job listed
    rcases List.mem_append.mp listed with before | new
    · exact sincere.own job before
    · exact own job new

theorem sincere_keeps {source target : System} (sincere : Sincere source.history)
    (keeps : Keeps source target) : Sincere target.history := by
  rcases keeps with ⟨events, history, aloof⟩
  rw [history]
  apply sincere.append
  · intro ref
    rw [(aloof_nothing ref aloof).1, (aloof_nothing ref aloof).2]
    rfl
  · intro job listed _
    exact aloof _ listed

theorem sincere_submits {source target : System} (sincere : Sincere source.history)
    (submits : Submits source target) : Sincere target.history := by
  cases submits with
  | nothing keeps => exact sincere_keeps sincere keeps
  | raises ref line nobody history =>
      rw [history]
      apply sincere.append
      · intro other
        by_cases same : ref = other
        · simp [lines, handledPart, inquiryOf, same, nobody]
        · simp [lines, handledPart, inquiryOf, same]
      · simp
  | handles ref line middle last history serves same =>
      unfold Serves at serves
      rw [same]
      cases asked : inquiry line with
      | none =>
          rw [asked] at serves
          refine sincere_keeps ?_ serves
          rw [history]
          apply sincere.append
          · intro other
            by_cases same : ref = other
            · simp [lines, handledPart, inquiryOf, same, asked]
            · simp [lines, handledPart, inquiryOf, same]
          · simp
      | some found =>
          rw [asked] at serves
          rcases serves with ⟨between, requestId, ⟨events, kept, aloof⟩, submitted⟩
          rw [submitted, kept, history, List.append_assoc, List.append_assoc]
          apply sincere.append
          · intro other
            have nothing := aloof_nothing other aloof
            rw [lines] at nothing ⊢
            simp only [List.filterMap_append, nothing.1, nothing.2]
            by_cases same : ref = other
            · simp [List.filterMap_cons, handledPart, inquiryOf, same, asked]
            · simp [List.filterMap_cons, handledPart, inquiryOf, same]
          · intro job listed silent
            rcases List.mem_append.mp listed with line | rest
            · cases List.mem_singleton.mp line
            · rcases List.mem_append.mp rest with background | last
              · exact aloof _ background
              · cases List.mem_singleton.mp last
                cases silent

theorem sincere_reachable {config : ServerConfig} {poolSize : Nat} {system : System}
    (reached : Reachable System.step (System.start config poolSize) system) :
    Sincere system.history := by
  have both : Wholesome system ∧ Sincere system.history := by
    refine @Reachable.invariant _ _ _ (fun system => Wholesome system ∧ Sincere system.history) _ _
      reached ?_ ?_
    · exact ⟨⟨nofun, nofun⟩, ⟨fun _ => rfl, nofun⟩⟩
    · rintro source label target ⟨wholesome, sincere⟩ taken
      refine ⟨wholesome_step wholesome taken, ?_⟩
      rcases step_cases taken with ⟨order, _, server⟩ | outside
      · exact sincere_submits sincere (server_step_submits wholesome server)
      · refine sincere_keeps sincere ?_
        cases outside with
        | transmits => exact keeps_event rfl trivial
        | _ => exact keeps_same rfl
  exact both.2

/-- The arguments that a job gives to `std::stoul` and `std::stoull`. -/
def numbers (job : DbJob) : List Bytes :=
  match job.operation with
  | .saveCharacter => job.args.drop 2
  | .saveInventoryItem => job.args.drop 1
  | .registerPlayer | .loginPlayer | .loadCharacters | .loadInventory | .savePosition => []

def TooLong : StdException → Prop
  | .outOfRange function => function = ascii "stoul" ∨ function = ascii "stoull"
  | .invalidArgument _ | .runtimeError _ => False

theorem too_long_stoul : TooLong (.outOfRange (ascii "stoul")) := Or.inl rfl

theorem too_long_stoull : TooLong (.outOfRange (ascii "stoull")) := Or.inr rfl

structure Converts (job : DbJob) : Prop where
  fits : (∃ command, commandOf job = .ok command) ↔
    ∀ number ∈ numbers job, decimalValue number < 2 ^ 64
  complains : ∀ error, commandOf job = .error error → TooLong error

theorem converts_of_ok {job : DbJob} {command : Command} (converted : commandOf job = .ok command)
    (free : numbers job = []) : Converts job := by
  constructor
  · rw [free]
    exact ⟨fun _ => nofun, fun _ => ⟨command, converted⟩⟩
  · intro error failed
    cases converted.symm.trans failed

theorem stoul_either {text : Bytes} (number : isUnsignedNumber text = true) :
    (decimalValue text < 2 ^ 64 ∧ stoul text = .ok (decimalValue text)) ∨
      (¬decimalValue text < 2 ^ 64 ∧ stoul text = .error (.outOfRange (ascii "stoul"))) := by
  have digits := is_digits_of_unsigned number
  by_cases fits : decimalValue text < 2 ^ 64
  · exact Or.inl ⟨fits, stoul_of_digits digits fits⟩
  · refine Or.inr ⟨fits, ?_⟩
    rw [stoul, sto_unsigned_of_digits digits, if_pos (Nat.not_lt.mp fits)]

theorem stoull_either {text : Bytes} (number : isUnsignedNumber text = true) :
    (decimalValue text < 2 ^ 64 ∧ stoull text = .ok (decimalValue text)) ∨
      (¬decimalValue text < 2 ^ 64 ∧ stoull text = .error (.outOfRange (ascii "stoull"))) := by
  have digits := is_digits_of_unsigned number
  by_cases fits : decimalValue text < 2 ^ 64
  · exact Or.inl ⟨fits, stoull_of_digits digits fits⟩
  · refine Or.inr ⟨fits, ?_⟩
    rw [stoull, sto_unsigned_of_digits digits, if_pos (Nat.not_lt.mp fits)]

theorem converts_of_result {job : DbJob} (fitting : Prop)
    (these : fitting ↔ ∀ number ∈ numbers job, decimalValue number < 2 ^ 64)
    (result : (fitting ∧ ∃ command, commandOf job = .ok command) ∨
      (¬fitting ∧ ∃ error, commandOf job = .error error ∧ TooLong error)) : Converts job := by
  rcases result with ⟨fits, command, converted⟩ | ⟨long, error, failed, tooLong⟩
  · refine ⟨⟨fun _ => these.mp fits, fun _ => ⟨command, converted⟩⟩, ?_⟩
    intro error failed
    cases converted.symm.trans failed
  · refine ⟨⟨?_, fun fits => absurd (these.mpr fits) long⟩, ?_⟩
    · rintro ⟨command, converted⟩
      cases converted.symm.trans failed
    · intro other also
      cases failed.symm.trans also
      exact tooLong

theorem converts_save (client : SessionRef) (requestId : Nat) (commandName account character : Bytes)
    {level gold : Bytes} (first : isUnsignedNumber level = true)
    (second : isUnsignedNumber gold = true) (notify : Bool) :
    Converts ⟨client, requestId, .saveCharacter, commandName, [account, character, level, gold],
      notify⟩ := by
  apply converts_of_result (decimalValue level < 2 ^ 64 ∧ decimalValue gold < 2 ^ 64)
  · simp [numbers]
  · rw [StoredNumbers.command_of_save]
    rcases stoul_either first with ⟨one, read⟩ | ⟨one, failed⟩
    · rcases stoull_either second with ⟨two, also⟩ | ⟨two, failed⟩
      · exact Or.inl ⟨⟨one, two⟩, _, by rw [read, also]; rfl⟩
      · exact Or.inr ⟨fun both => two both.2, _, by rw [read, failed]; rfl, too_long_stoull⟩
    · exact Or.inr ⟨fun both => one both.1, _, by rw [failed]; rfl, too_long_stoul⟩

theorem converts_save_item (client : SessionRef) (requestId : Nat) (commandName account : Bytes)
    {slot itemId count : Bytes} (first : isUnsignedNumber slot = true)
    (second : isUnsignedNumber itemId = true) (third : isUnsignedNumber count = true)
    (notify : Bool) :
    Converts ⟨client, requestId, .saveInventoryItem, commandName, [account, slot, itemId, count],
      notify⟩ := by
  apply converts_of_result (decimalValue slot < 2 ^ 64 ∧ decimalValue itemId < 2 ^ 64 ∧
    decimalValue count < 2 ^ 64)
  · simp [numbers]
  · rw [StoredNumbers.command_of_save_item]
    rcases stoul_either first with ⟨one, read⟩ | ⟨one, failed⟩
    · rcases stoull_either second with ⟨two, also⟩ | ⟨two, failed⟩
      · rcases stoul_either third with ⟨three, last⟩ | ⟨three, failed⟩
        · exact Or.inl ⟨⟨one, two, three⟩, _, by rw [read, also, last]; rfl⟩
        · exact Or.inr ⟨fun all => three all.2.2, _, by rw [read, also, failed]; rfl, too_long_stoul⟩
      · exact Or.inr ⟨fun all => two all.2.1, _, by rw [read, failed]; rfl, too_long_stoull⟩
    · exact Or.inr ⟨fun all => one all.1, _, by rw [failed]; rfl, too_long_stoul⟩

theorem command_of_position (requestId : Nat) (ref : SessionRef) (account character : Bytes)
    (x y : Int32) : commandOf (System.positionJob requestId ref account character x y) =
      .ok (.savePosition account character x y) := by
  simp [commandOf, System.positionJob, at?, bind, Except.bind, stoi_print_int, pure, Except.pure]

def Worded : Command → Prop
  | .register account displayName => IsToken account ∧ IsToken displayName
  | .login account | .load account | .loadInventory account => IsToken account
  | .save account character _ _ | .savePosition account character _ _ =>
      IsToken account ∧ IsToken character
  | .saveItem account _ _ _ => IsToken account

structure Understood (job : DbJob) : Prop where
  converts : Converts job
  worded : ∀ command, commandOf job = .ok command → Worded command

theorem understood_of_ok {job : DbJob} {command : Command} (converted : commandOf job = .ok command)
    (free : numbers job = []) (worded : Worded command) : Understood job := by
  refine ⟨converts_of_ok converted free, ?_⟩
  intro other also
  cases converted.symm.trans also
  exact worded

theorem understood_background {job : DbJob} (background : Background job) : Understood job := by
  rcases background with ⟨requestId, ref, account, character, x, y, named, rfl⟩
  exact understood_of_ok (command_of_position requestId ref account character x y) rfl named

theorem understood_save (client : SessionRef) (requestId : Nat) (commandName : Bytes) (notify : Bool)
    {account character level gold : Bytes} (first : isUnsignedNumber level = true)
    (second : isUnsignedNumber gold = true) (named : TokenNames account character) :
    Understood ⟨client, requestId, .saveCharacter, commandName, [account, character, level, gold],
      notify⟩ := by
  refine ⟨converts_save client requestId commandName account character first second notify, ?_⟩
  intro command converted
  rw [StoredNumbers.command_of_save] at converted
  rcases bind_ok converted with ⟨_, _, rest⟩
  rcases bind_ok rest with ⟨_, _, last⟩
  cases last
  exact named

theorem understood_save_item (client : SessionRef) (requestId : Nat) (commandName : Bytes)
    (notify : Bool) {account slot itemId count : Bytes} (first : isUnsignedNumber slot = true)
    (second : isUnsignedNumber itemId = true) (third : isUnsignedNumber count = true)
    (named : IsToken account) :
    Understood ⟨client, requestId, .saveInventoryItem, commandName, [account, slot, itemId, count],
      notify⟩ := by
  refine ⟨converts_save_item client requestId commandName account first second third notify, ?_⟩
  intro command converted
  rw [StoredNumbers.command_of_save_item] at converted
  rcases bind_ok converted with ⟨_, _, rest⟩
  rcases bind_ok rest with ⟨_, _, rest⟩
  rcases bind_ok rest with ⟨_, _, last⟩
  cases last
  exact named

theorem understood_asked {line : Bytes} {asked : Inquiry} (inquired : inquiry line = some asked)
    (client : SessionRef) (requestId : Nat) (notify : Bool) :
    Understood ⟨client, requestId, asked.operation, asked.commandName, asked.args, notify⟩ := by
  unfold inquiry at inquired
  cases parsed : parseLine line with
  | error message =>
      rw [parsed] at inquired
      cases inquired
  | ok request =>
      rcases parse_line_accepted parsed with ⟨accepted, tokens⟩
      simp only [parsed] at inquired
      rcases request with ⟨type, commandName, args⟩
      simp only [Request.Accepted] at accepted
      cases type with
      | enterWorld | move | attack | quit | unknown => cases inquired
      | register =>
          cases inquired
          rcases accepted with ⟨account, displayName, rfl⟩
          exact understood_of_ok rfl rfl ⟨tokens _ (by simp), tokens _ (by simp)⟩
      | login | loadCharacters | loadInventory =>
          cases inquired
          rcases accepted with ⟨account, rfl⟩
          exact understood_of_ok rfl rfl (tokens _ (by simp))
      | saveCharacter =>
          cases inquired
          rcases accepted with ⟨account, character, level, gold, rfl, first, second⟩
          exact understood_save client requestId commandName notify first second
            ⟨tokens _ (by simp), tokens _ (by simp)⟩
      | saveInventoryItem =>
          cases inquired
          rcases accepted with ⟨account, slot, itemId, count, rfl, first, second, third⟩
          exact understood_save_item client requestId commandName notify first second third
            (tokens _ (by simp))

theorem understood_submitted {history : List Event} (sincere : Sincere history) {job : DbJob}
    (listed : .submitted job ∈ history) : Understood job := by
  cases notify : job.notifyClient with
  | false => exact understood_background (sincere.own job listed notify)
  | true =>
      have asked : ⟨job.operation, job.commandName, job.args⟩ ∈
          history.filterMap (inquiryOf job.client) := by
        refine List.mem_filterMap.mpr ⟨_, listed, ?_⟩
        simp [inquiryOf, notify]
      rw [sincere.asked job.client] at asked
      rcases List.mem_filterMap.mp asked with ⟨line, _, inquired⟩
      exact understood_asked inquired job.client job.requestId job.notifyClient

/-- What the loop submits, in a history of it. -/
structure Submitted (history : List Event) : Prop where
  asked : ∀ ref, history.filterMap (inquiryOf ref) = (lines history ref).filterMap inquiry
  own : ∀ job ∈ submittedIn history, job.notifyClient = false → Background job
  converts : ∀ job ∈ submittedIn history, Converts job

theorem mem_submitted {history : List Event} {job : DbJob} :
    job ∈ submittedIn history ↔ .submitted job ∈ history := by
  rw [submittedIn, List.filterMap_filterMap, List.mem_filterMap]
  constructor
  · rintro ⟨event, listed, found⟩
    cases event with
    | submitted other =>
        cases found
        exact listed
    | _ => cases found
  · intro listed
    exact ⟨_, listed, rfl⟩

/-- A job of the step that nobody waits for saves the position of a player who is in
the world before the step or after it. -/
def SavesPlayers (source target : System) : Prop :=
  ∀ job, .submitted job ∈ newEvents source target → job.notifyClient = false →
    ∃ who, (PositionSaves.cast source.world job.client = some who ∨
        PositionSaves.cast target.world job.client = some who) ∧
      job = System.positionJob job.requestId job.client who.account who.character who.x who.y

theorem saves_of_yields {source target : System} {marks : List Event}
    {jobs : List (SessionRef × List Bytes)} {world : SectorWorld} {save : SessionRef × List Bytes}
    (yields : Yields source target marks jobs world)
    (listed : save ∈ (newEvents source target).filterMap saveOf) : save ∈ jobs := by
  rcases yields.history with ⟨events, history, _, rfl⟩
  rw [newEvents, history, List.drop_left] at listed
  exact listed

/-- ENTER saves the player it puts into the world, leaving the one it takes out. -/
theorem player_of_save {world next : SectorWorld} {ref : SessionRef} {effect : Effect}
    {jobs : List (SessionRef × List Bytes)} {save : SessionRef × List Bytes}
    (follows : Follows world next ref effect jobs) (listed : save ∈ jobs) :
    ∃ who, (PositionSaves.cast world save.1 = some who ∨
      PositionSaves.cast next save.1 = some who) ∧ save.2 = savedArgs who := by
  rw [follows.jobs] at listed
  rcases List.mem_map.mp listed with ⟨who, due, rfl⟩
  refine ⟨who, ?_, rfl⟩
  cases effect with
  | enters newcomer =>
      obtain rfl := List.mem_singleton.mp due
      exact Or.inr follows.self
  | leaves => exact Or.inl (Option.mem_toList.mp due)
  | moves x y => cases due
  | stays => cases due

theorem player_of_deed {source target : System} {save : SessionRef × List Bytes}
    (deed : Deed source target) (listed : save ∈ (newEvents source target).filterMap saveOf) :
    ∃ who, (PositionSaves.cast source.world save.1 = some who ∨
      PositionSaves.cast target.world save.1 = some who) ∧ save.2 = savedArgs who := by
  cases deed with
  | ends nothing ends =>
      cases ends with
      | calm yields => cases saves_of_yields yields listed
      | closes ref cause jobs world yields follows =>
          rw [yields.world]
          exact player_of_save follows (saves_of_yields yields listed)
  | handles ref line jobs world upcoming yields follows =>
      rw [yields.world]
      exact player_of_save follows (saves_of_yields yields listed)

theorem saves_players {config : ServerConfig} {poolSize : Nat} {source target : System}
    {label : Label} (reached : Reachable System.step (System.start config poolSize) source)
    (taken : source.step label = some target) : SavesPlayers source target := by
  intro job listed silent
  have recorded : .submitted job ∈ target.history := List.mem_of_mem_drop listed
  rcases (sincere_reachable (reached.next taken)).own job recorded silent with
    ⟨requestId, ref, account, character, x, y, _, rfl⟩
  have saved : (ref, [account, character, printInt x, printInt y]) ∈
      (newEvents source target).filterMap saveOf :=
    List.mem_filterMap.mpr ⟨_, listed, rfl⟩
  rcases step_cases taken with ⟨order, _, server⟩ | outside
  · have named : Named source.world := (coherent_reachable reached).named
    rcases player_of_deed (server_step_deed named server) saved with ⟨who, here, args⟩
    refine ⟨who, here, ?_⟩
    simp only [savedArgs] at args
    simp only [System.positionJob, args]
  · cases saves_of_yields (calm_outside outside) saved

/-- In every run the jobs of a session are its database lines, one each and in their
order, the others are positions of players in the world, and a worker that takes one
of them can be stopped by nothing in its arguments but a number of more than 64 bits. -/
theorem jobs_of_lines {config : ServerConfig} {poolSize : Nat} {labels : List Label}
    {system : System} (ran : run System.step (System.start config poolSize) labels = some system) :
    Submitted system.history ∧ EveryStep System.step
      (fun source _ target => SavesPlayers source target) (System.start config poolSize) labels := by
  have sincere := sincere_reachable ⟨labels, ran⟩
  refine ⟨⟨sincere.asked, ?_, ?_⟩, ?_⟩
  · intro job listed
    exact sincere.own job (mem_submitted.mp listed)
  · intro job listed
    exact (understood_submitted sincere (mem_submitted.mp listed)).converts
  · intro before label after source target _ earlier taken
    exact saves_players ⟨before, earlier⟩ taken

/-- A save with a number of more than 64 bits, and a player who leaves. -/
def savesAndLeaves : List Label :=
  [.tick, .accept 0 5, .tick, .tick, .tick, .tick, .tick,
    .recv 2 (ascii "SAVE a b 1 18446744073709551616\nENTER a b 1 2\nQUIT\n"), .tick, .tick, .tick,
    .tick]

theorem jobs_of_lines_three :
    ∃ system, run System.step (System.start .default 1) savesAndLeaves = some system ∧
      (submittedIn system.history).map DbJob.operation =
        [.saveCharacter, .savePosition, .savePosition] ∧ Submitted system.history ∧
      EveryStep System.step (fun source _ target => SavesPlayers source target)
        (System.start .default 1) savesAndLeaves := by
  have ends : (run System.step (System.start .default 1) savesAndLeaves).any (fun system =>
      decide ((submittedIn system.history).map DbJob.operation =
        [.saveCharacter, .savePosition, .savePosition])) = true := by
    decide
  rcases Option.any_eq_true _ _ |>.mp ends with ⟨system, ran, holds⟩
  exact ⟨system, ran, of_decide_eq_true holds, jobs_of_lines ran⟩

end DungeonPortfolio.Submissions
