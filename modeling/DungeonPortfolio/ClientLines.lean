import DungeonPortfolio.Sessions

/-!
# Which client lines end the server

`parse_line` lets digit strings of any length through and `std::stoi` takes the
range of `int`. Nothing else on the way of a line can raise, so `run()` is left
by an exception exactly when one of the lines it has handled is an ENTER or a
MOVE with a coordinate outside that range.
-/

namespace DungeonPortfolio.ClientLines

open DungeonPortfolio.Text DungeonPortfolio.Protocol DungeonPortfolio.World
open DungeonPortfolio.Server DungeonPortfolio.ServerActs DungeonPortfolio.ServerResponses
open DungeonPortfolio.ServerSteps DungeonPortfolio.Sessions
open Library.Execution

set_option autoImplicit false

def runs : Position → Bool
  | .raised _ => false
  | _ => true

theorem runs_iff {position : Position} :
    runs position = true ↔ ∀ exception, position ≠ .raised exception := by
  cases position with
  | raised exception => simp [runs]
  | _ => simp [runs]

def LinesConvertible (history : List Event) : Prop :=
  ∀ ref line, Event.lineHandled ref line ∈ history → Convertible line

def Exact (system : System) : Prop :=
  runs system.position = true ↔ LinesConvertible system.history

theorem Exact.frame {system next : System} {events : List Event} (exact : Exact system)
    (position : runs next.position = runs system.position)
    (history : next.history = system.history ++ events) (fine : LinesConvertible events) :
    Exact next := by
  unfold Exact at exact ⊢
  rw [position, exact, history]
  constructor
  · intro before ref line member
    rcases List.mem_append.mp member with earlier | new
    · exact before ref line earlier
    · exact fine ref line new
  · intro after ref line member
    exact after ref line (List.mem_append_left _ member)

theorem no_lines : LinesConvertible [] := by
  intro ref line member
  cases member

theorem other_event {event : Event} (other : ∀ ref line, event ≠ .lineHandled ref line) :
    LinesConvertible [event] := by
  intro ref line member
  exact absurd (List.mem_singleton.mp member).symm (other ref line)

theorem still_runs {first second : Position} (one : runs first = true) (other : runs second = true)
    {system : System} (position : system.position = first) :
    runs second = runs system.position := by
  rw [position, one, other]

theorem exact_act {system next : System} (exact : Exact system) (act : Act system next) :
    Exact next := by
  cases act with
  | submitted => exact exact.frame rfl (no_events _) no_lines
  | waited position => exact exact.frame (still_runs rfl rfl position) (no_events _) no_lines
  | drained position => exact exact.frame (still_runs rfl rfl position) (no_events _) no_lines
  | dismissed => exact exact.frame rfl (no_events _) no_lines
  | refused cqe rest position =>
      exact exact.frame (still_runs rfl rfl position) (no_events _) no_lines
  | arrived cqe rest ref position =>
      exact exact.frame (still_runs rfl rfl position) rfl (other_event (by simp))
  | recvPosted ref position =>
      exact exact.frame (still_runs rfl rfl position) (no_events _) no_lines
  | acceptPosted position => exact exact.frame (still_runs rfl rfl position) (no_events _) no_lines
  | answered ref session line =>
      exact exact.frame (by rw [push_line_position]) (push_line_history _ _ _ line)
        (other_event (by simp))
  | received cqe rest ref session position =>
      exact exact.frame (still_runs rfl rfl position) rfl (other_event (by simp))
  | lineTaken ref session line rest position alive cut convertible =>
      refine exact.frame rfl rfl ?_
      intro other handled member
      cases List.mem_singleton.mp member
      exact convertible
  | raised ref session line rest exception position alive cut unconvertible =>
      apply iff_of_false
      · exact Bool.false_ne_true
      · intro all
        exact unconvertible (all ref line (List.mem_append_right _ (List.mem_singleton_self _)))
  | framed ref session position =>
      exact exact.frame (still_runs rfl rfl position) (no_events _) no_lines
  | worldCalled => exact exact.frame rfl (no_events _) no_lines
  | saved => exact exact.frame rfl rfl (other_event (by simp))
  | requested ref session operation commandName args =>
      have pushed : Exact (pushLine system ref { session with pendingDb := session.pendingDb + 1 }
          (.pending (counterValue system.nextRequestId) commandName)) :=
        exact.frame (by rw [push_line_position]) (push_line_history _ _ _ _)
          (other_event (by simp))
      exact pushed.frame rfl rfl (other_event (by simp))
  | closing => exact exact.frame rfl (no_events _) no_lines
  | parked ref session position =>
      exact exact.frame (still_runs rfl rfl position) (no_events _) no_lines
  | recvReposted ref session position =>
      exact exact.frame (still_runs rfl rfl position) (no_events _) no_lines
  | erased => exact exact.frame rfl rfl (other_event (by simp))
  | awoken cqe rest position =>
      exact exact.frame (still_runs rfl rfl position) (no_events _) no_lines
  | skipped => exact exact.frame rfl rfl (other_event (by simp))
  | completed completion rest session =>
      have popped : Exact (popCompletion system completion rest) :=
        exact.frame rfl rfl (other_event (by simp))
      exact popped.frame (by rw [push_line_position]) (push_line_history _ _ _ _)
        (other_event (by simp))
  | pollPosted position => exact exact.frame (still_runs rfl rfl position) (no_events _) no_lines

theorem exact_sent {system next : System} {ref : SessionRef} (exact : Exact system)
    (sent : Sent system ref next) : Exact next := by
  cases sent with
  | progressed cqe rest _ session payload =>
      have popped : Exact { system with completed := rest } :=
        exact.frame rfl (no_events _) no_lines
      exact popped.frame (by rw [progress_position]) (progress_history _ _ _ _ _)
        (other_event (by simp))

theorem exact_outside {system next : System} {label : Label} (exact : Exact system)
    (taken : Outside system label next) : Exact next := by
  cases taken with
  | transmits => exact exact.frame rfl rfl (other_event (by simp))
  | _ => exact exact.frame rfl (no_events _) no_lines

/-- A line is handled without an exception, and a run goes on, exactly when the
coordinates fit in 32 bits. -/
theorem lines_raise_exactly_on_overflow (config : ServerConfig) (poolSize : Nat) (system : System)
    (reached : Reachable System.step (System.start config poolSize) system) :
    (∀ (any : System) (order : SectorWorld.CallOrder) (ref : SessionRef) (line : Bytes),
      (∃ next, any.handleClientLine order ref line = .ok next) ↔ Convertible line) ∧
    ((∀ exception, system.position ≠ .raised exception) ↔
      ∀ ref line, Event.lineHandled ref line ∈ system.history → Convertible line) := by
  refine ⟨handle_client_line_ok_iff, ?_⟩
  rw [← runs_iff]
  apply kept_by_run _ (fun _ _ _ before act => exact_act before act)
    (fun _ _ _ _ before sent => exact_sent before sent)
    (fun _ _ _ _ before taken => exact_outside before taken) reached
  exact iff_of_true rfl no_lines

theorem lines_raise_exactly_on_overflow_inside :
    ∃ system, run System.step (System.start .default 1) oneEnters = some system ∧
      Event.lineHandled ⟨5, 1⟩ (ascii "ENTER a b 0 0") ∈ system.history ∧
      ∀ ref line, Event.lineHandled ref line ∈ system.history → Convertible line := by
  have ends : (run System.step (System.start .default 1) oneEnters).any (fun system =>
      runs system.position && decide (Event.lineHandled ⟨5, 1⟩ (ascii "ENTER a b 0 0") ∈
        system.history)) = true := by
    decide
  rcases (Option.any_eq_true _ _).mp ends with ⟨system, ran, facts⟩
  simp only [Bool.and_eq_true, decide_eq_true_eq] at facts
  refine ⟨system, ran, facts.2, ?_⟩
  exact (lines_raise_exactly_on_overflow .default 1 system ⟨oneEnters, ran⟩).2.mp
    (runs_iff.mp facts.1)

/-- A client that is not even in the world sends a MOVE with eleven digits. -/
def oneOverflows : List Label :=
  [.tick, .accept 0 5, .tick, .tick, .tick, .tick, .tick,
    .recv 2 (ascii "MOVE 99999999999 0\n"), .tick, .tick]

theorem overflowing_move_ends_the_run :
    parseLine (ascii "MOVE 99999999999 0") =
      .ok ⟨.move, ascii "MOVE", [ascii "99999999999", ascii "0"]⟩ ∧
    ∃ system, run System.step (System.start .default 1) oneOverflows = some system ∧
      system.position = .raised (.outOfRange (ascii "stoi")) := by
  refine ⟨by decide, ?_⟩
  have ends : (run System.step (System.start .default 1) oneOverflows).any (fun system =>
      system.position = .raised (.outOfRange (ascii "stoi"))) = true := by
    decide
  rcases (Option.any_eq_true _ _).mp ends with ⟨system, ran, raised⟩
  exact ⟨system, ran, by simpa using raised⟩

end DungeonPortfolio.ClientLines
